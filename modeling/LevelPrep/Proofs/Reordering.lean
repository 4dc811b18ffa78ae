import Mathlib.Data.List.Perm.Basic

/-!
# Steps in another order

Steps that may fail are taken one after another.  Some have to come later than others, and steps that need not
come in either order `Commutes`.  Then all orders that are allowed have the same result, where they have one
(`foldlM_eq_of_perm`).
-/

namespace LevelPrep

variable {α β : Type}

/-- If both steps can be taken, each can be taken after the other, with the same result. -/
def CommutesAt (f g : β → Option β) (x : β) : Prop :=
  ∀ y z, f x = some y → g x = some z → ∃ w, g y = some w ∧ f z = some w

/-- Wherever both steps can be taken, each can be taken after the other, with the same result. -/
def Commutes (f g : β → Option β) : Prop :=
  ∀ x, CommutesAt f g x

theorem CommutesAt.symm {f g : β → Option β} {x : β} (h : CommutesAt f g x) : CommutesAt g f x := by
  intro y z hy hz
  rcases h z y hz hy with ⟨w, hw, hw'⟩
  exact ⟨w, hw', hw⟩

theorem Commutes.symm {f g : β → Option β} (h : Commutes f g) : Commutes g f :=
  fun x => (h x).symm

/-- Steps that are taken in every place of a list. -/
theorem CommutesAt.mapM {f g : β → Option β} {items : List β} (h : ∀ x ∈ items, CommutesAt f g x) :
    CommutesAt (·.mapM f) (·.mapM g) items := by
  induction items with
  | nil =>
      rintro _ _ ⟨⟩ ⟨⟩
      exact ⟨[], rfl, rfl⟩
  | cons x items ih =>
      rcases List.forall_mem_cons.1 h with ⟨hx, hitems⟩
      intro ys zs hys hzs
      simp only [List.mapM_cons, Option.bind_eq_bind, Option.bind_eq_some_iff, Option.pure_def,
        Option.some.injEq] at hys hzs
      rcases hys with ⟨y, hy, ys, hys, rfl⟩
      rcases hzs with ⟨z, hz, zs, hzs, rfl⟩
      rcases hx y z hy hz with ⟨w, hw, hw'⟩
      rcases ih hitems ys zs hys hzs with ⟨ws, hws, hws'⟩
      have hws : ys.mapM g = some ws := hws
      have hws' : zs.mapM f = some ws := hws'
      refine ⟨w :: ws, ?_, ?_⟩
      · simp [List.mapM_cons, hw, hws]
      · simp [List.mapM_cons, hw', hws']

variable {step : β → α → Option β}

/-- A step that can be taken first, and that commutes with all others, can be taken last as well. -/
theorem exists_last_of_first {a : α} {items : List α} {x y z : β}
    (hcommutes : ∀ b ∈ items, Commutes (step · a) (step · b)) (hfirst : step x a = some y)
    (hitems : items.foldlM step x = some z) : ∃ w, step z a = some w ∧ items.foldlM step y = some w := by
  induction items generalizing x y with
  | nil =>
      cases hitems
      exact ⟨y, hfirst, rfl⟩
  | cons b items ih =>
      rcases Option.bind_eq_some_iff.1 hitems with ⟨between, hb, hrest⟩
      rcases List.forall_mem_cons.1 hcommutes with ⟨hswap, hothers⟩
      rcases hswap x y between hfirst hb with ⟨w, hafter, hfirst'⟩
      rcases ih hothers hfirst' hrest with ⟨last, hlast, hmoved⟩
      exact ⟨last, hlast, Option.bind_eq_some_iff.2 ⟨w, hafter, hmoved⟩⟩

/-- Two orders of the same steps in which no step stands before one that it has to come later than have the same
result, if steps commute where neither has to come later than the other. -/
theorem foldlM_eq_of_perm (later : α → α → Prop) {items items' : List α} {x y y' : β}
    (hperm : items.Perm items') (hnodup : items.Nodup) (hitems : items.Pairwise fun a b => ¬ later a b)
    (hitems' : items'.Pairwise fun a b => ¬ later a b)
    (hcommutes : ∀ a ∈ items, ∀ b ∈ items, a ≠ b → ¬ later a b → ¬ later b a →
      Commutes (step · a) (step · b))
    (h : items.foldlM step x = some y) (h' : items'.foldlM step x = some y') : y = y' := by
  induction items generalizing items' x with
  | nil =>
      cases hperm.nil_eq
      cases h
      cases h'
      rfl
  | cons a rest ih =>
      rcases List.append_of_mem (hperm.subset List.mem_cons_self) with ⟨before, after, rfl⟩
      rcases List.pairwise_cons.1 hitems with ⟨hfirst, hrest⟩
      rcases List.nodup_cons.1 hnodup with ⟨hfresh, hnodup⟩
      have hleft : rest.Perm (before ++ after) := (hperm.trans List.perm_middle).cons_inv
      -- in the other order, nothing before the first step has to be there
      have hswap : ∀ b ∈ before, Commutes (step · a) (step · b) := by
        intro b hb
        have hin : b ∈ rest := hleft.symm.subset (List.mem_append_left after hb)
        have hne : a ≠ b := fun hab => hfresh (hab ▸ hin)
        have hnot : ¬ later b a := (List.pairwise_append.1 hitems').2.2 b hb a List.mem_cons_self
        exact hcommutes a List.mem_cons_self b (List.mem_cons_of_mem a hin) hne (hfirst b hin) hnot
      rcases Option.bind_eq_some_iff.1 h with ⟨u, hu, hlast⟩
      rw [List.foldlM_append] at h'
      rcases Option.bind_eq_some_iff.1 h' with ⟨z, hbefore, hz⟩
      rcases Option.bind_eq_some_iff.1 hz with ⟨w', hw', hafter⟩
      rcases exists_last_of_first hswap hu hbefore with ⟨w, hw, hmoved⟩
      cases hw'.symm.trans hw
      refine ih hleft hnodup hrest ?_ ?_ hlast ?_
      · exact hitems'.sublist (List.Sublist.append (List.Sublist.refl before) (List.sublist_cons_self a after))
      · exact fun b hb c hc => hcommutes b (List.mem_cons_of_mem a hb) c (List.mem_cons_of_mem a hc)
      · rw [List.foldlM_append]
        exact Option.bind_eq_some_iff.2 ⟨w', hmoved, hafter⟩

end LevelPrep
