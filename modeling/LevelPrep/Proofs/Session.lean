import LevelPrep.Session
import Mathlib.Data.List.Nodup

/-!
# Runs that succeed

What is known of the session after a step that succeeds.  Steps are taken apart with
`runIn_bind_eq_ok_iff`; a loop over a list is dealt with by what one round of it preserves:

* `forM_prefix`: an invariant that speaks of the items that are done;
* `forM_invariant`: an invariant of every session on the way;
* `forM_related`: rounds that change one place each;
* `forM_of_graph`: a loop over nodes of the graph.
-/

namespace LevelPrep.Work

variable {R α β : Type} {s s' : Session R}

/-! ## Single steps -/

/-- Two steps in a row succeed exactly if both do. -/
theorem runIn_bind_eq_ok_iff {step : Work R α} {next : α → Work R β} {b : β} :
    (step >>= next).runIn s = (.ok b, s') ↔
      ∃ a between, step.runIn s = (.ok a, between) ∧ (next a).runIn between = (.ok b, s') := by
  rw [runIn_bind]
  rcases step.runIn s with ⟨fault | a, between⟩
  · simp
  · simp

/-- Two steps in a row fail if the first does, or the second after the first. -/
theorem runIn_bind_eq_error_iff {step : Work R α} {next : α → Work R β} {fault : Fault} :
    (step >>= next).runIn s = (.error fault, s') ↔
      step.runIn s = (.error fault, s') ∨
        ∃ a between, step.runIn s = (.ok a, between) ∧ (next a).runIn between = (.error fault, s') := by
  rw [runIn_bind]
  rcases step.runIn s with ⟨fault' | a, between⟩
  · simp
  · simp

theorem runIn_lift_eq_ok_iff {outcome : Except Fault α} {a : α} :
    (lift outcome).runIn s = (.ok a, s') ↔ outcome = .ok a ∧ s' = s := by
  rw [runIn_lift, Prod.mk.injEq, eq_comm (a := s)]

/-- A run whose result is known to be good, with the session it leaves. -/
theorem runIn_eq_of_toOption {step : Work R α} {a : α} (h : (step.runIn s).1.toOption = some a) :
    step.runIn s = (.ok a, (step.runIn s).2) := by
  rcases hstep : step.runIn s with ⟨fault | b, t⟩
  · rw [hstep] at h
    cases h
  · rw [hstep] at h
    cases h
    rfl

/-- A run that is known to fail, with the session it leaves. -/
theorem exists_of_toOption_eq_none {step : Work R α} (h : (step.runIn s).1.toOption = none) :
    ∃ fault, step.runIn s = (.error fault, (step.runIn s).2) := by
  rcases hstep : step.runIn s with ⟨fault | a, t⟩
  · exact ⟨fault, rfl⟩
  · rw [hstep] at h
    cases h

@[simp] theorem runIn_graph (s : Session R) :
    (graph : Work R (SceneGraph R)).runIn s = (.ok s.stage.graph, s) :=
  rfl

@[simp] theorem runIn_resources (s : Session R) :
    (resources : Work R Resources).runIn s = (.ok s.stage.resources, s) :=
  rfl

@[simp] theorem runIn_modify (f : Session R → Session R) (s : Session R) :
    (modify f : Work R Unit).runIn s = (.ok (), f s) :=
  rfl

@[simp] theorem runIn_debug (logger message : String) (s : Session R) :
    (debug logger message : Work R Unit).runIn s =
      (.ok (), { s with journal := s.journal.push { level := .debug, logger, message } }) :=
  rfl

@[simp] theorem runIn_onGraph (f : SceneGraph R → SceneGraph R) (s : Session R) :
    (onGraph f).runIn s =
      (.ok (), { s with stage := { s.stage with graph := f s.stage.graph } }) :=
  rfl

theorem eq_of_graph {g : SceneGraph R} (h : (graph : Work R (SceneGraph R)).runIn s = (.ok g, s')) :
    g = s.stage.graph ∧ s' = s := by
  rcases Prod.mk.inj h with ⟨hg, hs⟩
  exact ⟨(Except.ok.inj hg).symm, hs.symm⟩

theorem eq_of_onGraph {f : SceneGraph R → SceneGraph R} (h : (onGraph f).runIn s = (.ok (), s')) :
    s' = { s with stage := { s.stage with graph := f s.stage.graph } } :=
  (Prod.mk.inj h).2.symm

theorem eq_of_debug {logger message : String}
    (h : (debug logger message : Work R Unit).runIn s = (.ok (), s')) :
    ∃ journal, s' = { s with journal := journal } :=
  ⟨_, (Prod.mk.inj h).2.symm⟩

theorem eq_of_pure {a b : α} (h : (pure a : Work R α).runIn s = (.ok b, s')) : b = a ∧ s' = s := by
  rcases Prod.mk.inj h with ⟨ha, hs⟩
  exact ⟨(Except.ok.inj ha).symm, hs.symm⟩

@[simp] theorem runIn_onStage (f : StateM (Stage R) α) (s : Session R) :
    (onStage f).runIn s = (.ok (f s.stage).1, { s with stage := (f s.stage).2 }) :=
  rfl

@[simp] theorem runIn_onResources (f : StateM Resources α) (s : Session R) :
    (onResources f : Work R α).runIn s = (.ok (f s.stage.resources).1,
      { s with stage := { s.stage with resources := (f s.stage.resources).2 } }) :=
  rfl

theorem runIn_discard_eq_ok_iff {step : Work R α} :
    (discard step : Work R Unit).runIn s = (.ok (), s') ↔ ∃ a, step.runIn s = (.ok a, s') := by
  show (step >>= fun _ => pure ()).runIn s = (.ok (), s') ↔ _
  rw [runIn_bind_eq_ok_iff]
  simp

theorem runIn_discard_eq_error_iff {step : Work R α} {fault : Fault} :
    (discard step : Work R Unit).runIn s = (.error fault, s') ↔ step.runIn s = (.error fault, s') := by
  show (step >>= fun _ => pure ()).runIn s = (.error fault, s') ↔ _
  rw [runIn_bind_eq_error_iff]
  simp

/-! ## Loops -/

/-- A loop over two lists is a loop over one and then over the other. -/
theorem exists_between_of_forM_append {f : α → Work R Unit} {items later : List α}
    (h : ((items ++ later).forM f).runIn s = (.ok (), s')) :
    ∃ t, (items.forM f).runIn s = (.ok (), t) ∧ (later.forM f).runIn t = (.ok (), s') := by
  induction items generalizing s with
  | nil => exact ⟨s, rfl, h⟩
  | cons a items ih =>
      rcases runIn_bind_eq_ok_iff.1 h with ⟨⟨⟩, between, hstep, hrest⟩
      rcases ih hrest with ⟨t, hitems, hlater⟩
      exact ⟨t, runIn_bind_eq_ok_iff.2 ⟨(), between, hstep, hitems⟩, hlater⟩

/-- An invariant that speaks of the items that are done holds of all of them in the end. -/
theorem forM_prefix {f : α → Work R Unit} {items : List α} {I : List α → Session R → Prop}
    (hstart : I [] s)
    (hround : ∀ before a after t t', items = before ++ a :: after → I before t →
      (f a).runIn t = (.ok (), t') → I (before ++ [a]) t')
    (hrun : (items.forM f).runIn s = (.ok (), s')) : I items s' := by
  suffices hrest : ∀ rest before t, items = before ++ rest → I before t →
      (rest.forM f).runIn t = (.ok (), s') → I items s' by
    exact hrest items [] s rfl hstart hrun
  intro rest
  induction rest with
  | nil =>
      intro before t hitems hI h
      cases h
      simpa [hitems] using hI
  | cons a rest ih =>
      intro before t hitems hI h
      rcases runIn_bind_eq_ok_iff.1 h with ⟨⟨⟩, between, hstep, hlater⟩
      exact ih (before ++ [a]) between (by simpa using hitems)
        (hround before a rest t between hitems hI hstep) hlater

/-- What every round preserves holds in the end. -/
theorem forM_invariant {f : α → Work R Unit} {items : List α} {I : Session R → Prop}
    (hstart : I s)
    (hround : ∀ a ∈ items, ∀ t t', I t → (f a).runIn t = (.ok (), t') → I t')
    (hrun : (items.forM f).runIn s = (.ok (), s')) : I s' := by
  refine forM_prefix (I := fun _ t => I t) hstart ?_ hrun
  intro before a after t t' hitems
  exact hround a (by simp [hitems]) t t'

/-- A loop over what is found in the graph goes over what is in it at the start. -/
theorem forM_of_graph {ids : SceneGraph R → List α} {f : α → Work R Unit}
    (hrun : (graph >>= fun g => (ids g).forM f).runIn s = (.ok (), s')) :
    ((ids s.stage.graph).forM f).runIn s = (.ok (), s') := by
  rcases runIn_bind_eq_ok_iff.1 hrun with ⟨g, s₁, hgraph, hloop⟩
  cases hgraph
  exact hloop

/-- Where each round changes what is seen at its own item and nothing at the others, what is seen of an item
in the end is related to what was seen of it before as by its own round. -/
theorem forM_related {V : Type} {f : α → Work R Unit} {items : List α} {I : Session R → Prop}
    (view : Session R → α → V) (change : α → V → V → Prop) (hnodup : items.Nodup) (hstart : I s)
    (hround : ∀ a ∈ items, ∀ t t', I t → (f a).runIn t = (.ok (), t') →
      I t' ∧ change a (view t a) (view t' a) ∧ ∀ b, b ≠ a → view t' b = view t b)
    (hrun : (items.forM f).runIn s = (.ok (), s')) :
    I s' ∧ (∀ a ∈ items, change a (view s a) (view s' a)) ∧ ∀ b, b ∉ items → view s' b = view s b := by
  refine forM_prefix
    (I := fun before t => I t ∧ (∀ b ∈ before, change b (view s b) (view t b)) ∧
      ∀ b, b ∉ before → view t b = view s b)
    ⟨hstart, by simp, fun _ _ => rfl⟩ ?_ hrun
  intro before a after t t' hitems ⟨ht, hdone, hleft⟩ hstep
  have hfresh : a ∉ before := by
    intro ha
    rw [hitems] at hnodup
    exact List.disjoint_of_nodup_append hnodup ha List.mem_cons_self
  rcases hround a (by simp [hitems]) t t' ht hstep with ⟨ht', hself, hothers⟩
  refine ⟨ht', ?_, ?_⟩
  · intro b hb
    rcases List.mem_append.1 hb with hold | hlast
    · have hne : b ≠ a := fun h => hfresh (h ▸ hold)
      rw [hothers b hne]
      exact hdone b hold
    · rw [List.mem_singleton.1 hlast, ← hleft a hfresh]
      exact hself
  · intro b hb
    rw [List.mem_append, not_or, List.mem_singleton] at hb
    rw [hothers b hb.2, hleft b hb.1]

/-- Picking items by a test that leaves the session alone. -/
theorem filterM_results {test : α → Work R Bool} {items kept : List α} {p : α → Bool}
    (htest : ∀ a ∈ items, ∀ b t, (test a).runIn s = (.ok b, t) → t = s ∧ b = p a)
    (hrun : (items.filterM test).runIn s = (.ok kept, s')) : s' = s ∧ kept = items.filter p := by
  have hloop : ∀ (rest picked kept : List α), (∀ a ∈ rest, a ∈ items) →
      (List.filterAuxM test rest picked).runIn s = (.ok kept, s') →
      s' = s ∧ kept = (rest.filter p).reverse ++ picked := by
    intro rest
    induction rest with
    | nil =>
        intro picked kept _ h
        cases h
        exact ⟨rfl, rfl⟩
    | cons a rest ih =>
        intro picked kept hmem h
        rcases runIn_bind_eq_ok_iff.1 h with ⟨b, t, hstep, hlater⟩
        rcases htest a (hmem a List.mem_cons_self) b t hstep with ⟨rfl, rfl⟩
        rcases ih _ kept (fun c hc => hmem c (List.mem_cons_of_mem a hc)) hlater with ⟨hs, hkept⟩
        refine ⟨hs, ?_⟩
        cases hp : p a <;> simp [hkept, hp]
  rcases runIn_bind_eq_ok_iff.1 hrun with ⟨picked, t, hpicked, hlast⟩
  rcases hloop items [] picked (fun a ha => ha) (by cases hlast; exact hpicked) with ⟨rfl, rfl⟩
  cases hlast
  simp

end LevelPrep.Work
