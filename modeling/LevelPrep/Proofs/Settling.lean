import LevelPrep.Proofs.Outcome
import LevelPrep.Proofs.Session

/-!
# Runs whose outcome is known beforehand

A step `Settles` in a session if one can tell beforehand whether it succeeds, and what holds afterwards if it
does.  Settled steps are put together:

* `Settles.seq`: one after another;
* `forM_settles`: a loop whose rounds each change what is seen at their own item;
* `forM_settles_prefix`: a loop whose rounds build on what the rounds before them have made;
* `exists_of_forM_error`: a loop that fails fails in one of its rounds;
* `forM_always`: what every round preserves, whether it succeeds or not.

`Always` says what a step leaves whether it succeeds or fails, and `Keeps` what it leaves alone.
-/

namespace LevelPrep.Work

variable {R α β : Type} {s s' : Session R}

/-- The outcome of a step that asks a question: the session it leaves if the question is answered, and the one
it leaves if it is not. -/
def answered (question : Except Fault β) (done refused : Session R) : Except Fault Unit × Session R :=
  match question with
  | .ok _ => (.ok (), done)
  | .error fault => (.error fault, refused)

/-- A step succeeds exactly if `able` holds, and then `after` holds of the session that it leaves. -/
structure Settles (step : Work R Unit) (s : Session R) (able : Prop) (after : Session R → Prop) :
    Prop where
  leaves : ∀ s', step.runIn s = (.ok (), s') → able ∧ after s'
  runs : able → ∃ s', step.runIn s = (.ok (), s')

namespace Settles

variable {step next : Work R Unit} {able able' : Prop} {after after' mid : Session R → Prop}

/-- A step that can be taken is taken, and what is known of it holds afterwards. -/
theorem exists_after (h : Settles step s able after) (hable : able) :
    ∃ s', step.runIn s = (.ok (), s') ∧ after s' := by
  rcases h.runs hable with ⟨s', hrun⟩
  exact ⟨s', hrun, (h.leaves s' hrun).2⟩

theorem congr (h : Settles step s able after) (hable : able ↔ able')
    (hafter : ∀ s', able → after s' → after' s') : Settles step s able' after' where
  leaves s' hrun :=
    have hboth := h.leaves s' hrun
    ⟨hable.1 hboth.1, hafter s' hboth.1 hboth.2⟩
  runs hable' := h.runs (hable.2 hable')

/-- Two steps in a row, the second of which has its condition known at the start. -/
theorem seq (h : Settles step s able mid) (hnext : ∀ t, able → mid t → Settles next t able' after) :
    Settles (step >>= fun _ => next) s (able ∧ able') after where
  leaves s' hrun := by
    rcases runIn_bind_eq_ok_iff.1 hrun with ⟨⟨⟩, t, hstep, hlater⟩
    rcases h.leaves t hstep with ⟨hable, hmid⟩
    rcases (hnext t hable hmid).leaves s' hlater with ⟨hable', hafter⟩
    exact ⟨⟨hable, hable'⟩, hafter⟩
  runs hable := by
    rcases h.exists_after hable.1 with ⟨t, hstep, hmid⟩
    rcases (hnext t hable.1 hmid).runs hable.2 with ⟨s', hlater⟩
    exact ⟨s', runIn_bind_eq_ok_iff.2 ⟨(), t, hstep, hlater⟩⟩

/-- A step that is known to do nothing but look at the session before it goes on. -/
theorem of_read {read : Work R α} {k : α → Work R Unit} {a : α} (hread : read.runIn s = (.ok a, s))
    (h : Settles (k a) s able after) : Settles (read >>= k) s able after where
  leaves s' hrun := by
    rcases runIn_bind_eq_ok_iff.1 hrun with ⟨b, t, hstep, hlater⟩
    cases hread.symm.trans hstep
    exact h.leaves s' hlater
  runs hable := by
    rcases h.runs hable with ⟨s', hrun⟩
    exact ⟨s', runIn_bind_eq_ok_iff.2 ⟨a, s, hread, hrun⟩⟩

/-- A step that goes on if a question is answered, and changes nothing if it is not. -/
theorem of_answered {question : Except Fault β} {done : Session R}
    (hrun : step.runIn s = answered question done s) (hafter : after done) :
    Settles step s (∃ b, question = .ok b) after where
  leaves s' h := by
    rw [hrun] at h
    cases question with
    | error fault => cases h
    | ok b =>
        cases h
        exact ⟨⟨b, rfl⟩, hafter⟩
  runs := by
    rintro ⟨b, rfl⟩
    exact ⟨done, hrun⟩

end Settles

/-! ## Loops -/

/-- Rounds that change what is seen at their own item and nothing that is seen elsewhere can be told one by one:
the loop succeeds exactly if each item, as it is seen at the start, can be changed. -/
theorem forM_settles {V : Type} {f : α → Work R Unit} (items : List α) {I : Session R → Prop}
    (view : Session R → α → V) (change : α → V → V → Prop) (seen : α → Prop) (hnodup : items.Nodup)
    (hseen : ∀ a ∈ items, seen a) (hstart : I s)
    (hround : ∀ a ∈ items, ∀ t, I t → view t a = view s a →
      Settles (f a) t (∃ v, change a (view t a) v) fun t' =>
        I t' ∧ change a (view t a) (view t' a) ∧ ∀ b, seen b → b ≠ a → view t' b = view t b) :
    Settles (items.forM f) s (∀ a ∈ items, ∃ v, change a (view s a) v) fun s' =>
      I s' ∧ (∀ a ∈ items, change a (view s a) (view s' a)) ∧
        ∀ b, seen b → b ∉ items → view s' b = view s b := by
  induction items generalizing s with
  | nil =>
      refine ⟨?_, fun _ => ⟨s, rfl⟩⟩
      intro s' hrun
      cases hrun
      simp [hstart]
  | cons a items ih =>
      rw [List.nodup_cons] at hnodup
      have hfirst := hround a List.mem_cons_self s hstart rfl
      have hboth : Settles (f a >>= fun _ => items.forM f) s
          ((∃ v, change a (view s a) v) ∧ ∀ b ∈ items, ∃ v, change b (view s b) v)
          fun s' => I s' ∧ change a (view s a) (view s' a) ∧
            (∀ b ∈ items, change b (view s b) (view s' b)) ∧
            ∀ b, seen b → b ∉ a :: items → view s' b = view s b := by
        refine hfirst.seq fun t _ ht => ?_
        rcases ht with ⟨ht, hself, hothers⟩
        -- the items that are still to come are seen as they were at the start
        have hsame : ∀ b ∈ items, view t b = view s b := by
          intro b hb
          refine hothers b (hseen b (List.mem_cons_of_mem a hb)) ?_
          rintro rfl
          exact hnodup.1 hb
        have hrest := ih hnodup.2 (fun b hb => hseen b (List.mem_cons_of_mem a hb)) ht
          fun b hb u hu hview => hround b (List.mem_cons_of_mem a hb) u hu (hview.trans (hsame b hb))
        refine hrest.congr (forall₂_congr fun b hb => by rw [hsame b hb]) ?_
        rintro s' - ⟨hI, hdone, hleft⟩
        refine ⟨hI, ?_, fun b hb => hsame b hb ▸ hdone b hb, fun b hb hnot => ?_⟩
        · rw [hleft a (hseen a List.mem_cons_self) hnodup.1]
          exact hself
        · rw [List.mem_cons, not_or] at hnot
          rw [hleft b hb hnot.2, hothers b hb hnot.1]
      refine hboth.congr (List.forall_mem_cons (p := fun b => ∃ v, change b (view s b) v)).symm ?_
      rintro s' - ⟨hI, hself, hdone, hleft⟩
      exact ⟨hI, List.forall_mem_cons.2 ⟨hself, hdone⟩, hleft⟩

/-- Rounds each of which can be told from what is known after the rounds before it: the loop succeeds exactly
if each item can be taken. -/
theorem forM_settles_prefix {f : α → Work R Unit} {items : List α} {I : List α → Session R → Prop}
    (able : α → Prop) (hstart : I [] s)
    (hround : ∀ before a after t, items = before ++ a :: after → I before t →
      Settles (f a) t (able a) (I (before ++ [a]))) :
    Settles (items.forM f) s (∀ a ∈ items, able a) (I items) := by
  suffices hrest : ∀ rest before t, items = before ++ rest → I before t →
      Settles (rest.forM f) t (∀ a ∈ rest, able a) (I items) by
    exact hrest items [] s rfl hstart
  intro rest
  induction rest with
  | nil =>
      intro before t hitems hI
      refine ⟨?_, fun _ => ⟨t, rfl⟩⟩
      intro s' hrun
      cases hrun
      rw [hitems, List.append_nil]
      simpa using hI
  | cons a rest ih =>
      intro before t hitems hI
      have hfirst := hround before a rest t hitems hI
      have hboth := hfirst.seq fun u _ hu => ih (before ++ [a]) u (by simpa using hitems) hu
      exact hboth.congr (List.forall_mem_cons (p := able)).symm fun _ _ hdone => hdone

/-- Picking by tests that look at the session and leave it alone is picking by their answers. -/
theorem runIn_filterM {test : α → Work R Bool} {answer : α → Except Fault Bool} (items : List α)
    (htest : ∀ a ∈ items, (test a).runIn s = (answer a, s)) :
    (items.filterM test).runIn s = (items.filterM answer, s) := by
  have hloop : ∀ (rest picked : List α), (∀ a ∈ rest, a ∈ items) →
      (List.filterAuxM test rest picked).runIn s = (List.filterAuxM answer rest picked, s) := by
    intro rest
    induction rest with
    | nil => exact fun _ _ => rfl
    | cons a rest ih =>
        intro picked hmem
        show (test a >>= fun b => List.filterAuxM test rest (cond b (a :: picked) picked)).runIn s =
          (answer a >>= fun b => List.filterAuxM answer rest (cond b (a :: picked) picked), s)
        rw [runIn_bind, htest a (hmem a List.mem_cons_self)]
        cases answer a with
        | error fault => rfl
        | ok b => exact ih _ fun c hc => hmem c (List.mem_cons_of_mem a hc)
  show (List.filterAuxM test items [] >>= fun picked => pure picked.reverse).runIn s =
    (List.filterAuxM answer items [] >>= fun picked => pure picked.reverse, s)
  rw [runIn_bind, hloop items [] fun a ha => ha]
  cases List.filterAuxM answer items [] <;> rfl

/-- Picking by tests that look at the session and leave it alone succeeds exactly if all tests do. -/
theorem exists_filterM_iff {test : α → Work R Bool} {answer : α → Except Fault Bool} (items : List α)
    (htest : ∀ a ∈ items, (test a).runIn s = (answer a, s)) :
    (∃ kept t, (items.filterM test).runIn s = (.ok kept, t)) ↔ ∀ a ∈ items, ∃ b, answer a = .ok b := by
  rw [runIn_filterM items htest, ← exists_filterM_ok_iff]
  constructor
  · rintro ⟨kept, t, hrun⟩
    exact ⟨kept, (Prod.mk.inj hrun).1⟩
  · rintro ⟨kept, hkept⟩
    exact ⟨kept, s, by rw [hkept]⟩

/-- A loop that fails has gone through some items and fails at the next one. -/
theorem exists_of_forM_error {f : α → Work R Unit} {items : List α} {fault : Fault}
    (h : (items.forM f).runIn s = (.error fault, s')) :
    ∃ before a after t, items = before ++ a :: after ∧ (before.forM f).runIn s = (.ok (), t) ∧
      (f a).runIn t = (.error fault, s') := by
  induction items generalizing s with
  | nil => cases h
  | cons a items ih =>
      rw [show (a :: items).forM f = f a >>= fun _ => items.forM f from rfl, runIn_bind] at h
      rcases hstep : (f a).runIn s with ⟨fault' | ⟨⟩, t⟩
      · rw [hstep] at h
        exact ⟨[], a, items, s, rfl, rfl, hstep.trans h⟩
      · rw [hstep] at h
        rcases ih h with ⟨before, b, after, u, rfl, hbefore, hfail⟩
        exact ⟨a :: before, b, after, u, rfl,
          runIn_bind_eq_ok_iff.2 ⟨(), t, hstep, hbefore⟩, hfail⟩

/-- A loop that gathers results, each of which can be told beforehand: it gathers what can be told. -/
theorem exists_runIn_mapM {f : α → Work R β} (answer : α → Except Fault β) {items : List α} {I : Session R → Prop}
    (hstart : I s) (hround : ∀ a ∈ items, ∀ t, I t → ∃ t', (f a).runIn t = (answer a, t') ∧ I t') :
    ∃ s', (items.mapM f).runIn s = (items.mapM answer, s') ∧ I s' := by
  induction items generalizing s with
  | nil => exact ⟨s, rfl, hstart⟩
  | cons a items ih =>
      rcases hround a List.mem_cons_self s hstart with ⟨t, hfirst, ht⟩
      rw [List.mapM_cons, List.mapM_cons, runIn_bind, hfirst]
      cases answer a with
      | error fault => exact ⟨t, rfl, ht⟩
      | ok b =>
          rcases ih ht fun c hc => hround c (List.mem_cons_of_mem a hc) with ⟨s', hrest, hs'⟩
          refine ⟨s', ?_, hs'⟩
          simp only [runIn_bind, hrest]
          cases items.mapM answer <;> rfl

/-- What every round preserves, whether it succeeds or fails, holds when the loop is over. -/
theorem forM_always {f : α → Work R Unit} {items : List α} {I : Session R → Prop} (hstart : I s)
    (hround : ∀ a ∈ items, ∀ t, I t → I ((f a).runIn t).2) : I ((items.forM f).runIn s).2 := by
  induction items generalizing s with
  | nil => exact hstart
  | cons a items ih =>
      rw [show (a :: items).forM f = f a >>= fun _ => items.forM f from rfl, runIn_bind]
      have hfirst := hround a List.mem_cons_self s hstart
      rcases hstep : (f a).runIn s with ⟨fault | ⟨⟩, t⟩
      · rwa [hstep] at hfirst
      · rw [hstep] at hfirst
        exact ih hfirst fun b hb => hround b (List.mem_cons_of_mem a hb)

/-! ## What every run leaves -/

/-- The session that a step leaves is related to the one it started from, whether the step succeeds or fails. -/
def Always (rel : Session R → Session R → Prop) (step : Work R α) : Prop :=
  ∀ s, rel s (step.runIn s).2

namespace Always

variable {rel : Session R → Session R → Prop} {step : Work R α} {next : α → Work R β}

theorem bind (htrans : ∀ {s t u}, rel s t → rel t u → rel s u) (h : Always rel step)
    (hnext : ∀ a, Always rel (next a)) : Always rel (step >>= next) := by
  intro s
  have hstep := h s
  rw [runIn_bind]
  rcases hrun : step.runIn s with ⟨fault | a, t⟩
  · rwa [hrun] at hstep
  · rw [hrun] at hstep
    exact htrans hstep (hnext a t)

theorem forM {f : α → Work R Unit} (hrefl : ∀ s, rel s s) (htrans : ∀ {s t u}, rel s t → rel t u → rel s u)
    (items : List α) (hround : ∀ a, Always rel (f a)) : Always rel (items.forM f) := by
  intro s
  exact forM_always (hrefl s) fun a _ t ht => htrans ht (hround a t)

end Always

/-- A step that leaves what is seen of the session as it is, whether it succeeds or fails. -/
def Keeps {V : Type} (view : Session R → V) (step : Work R α) : Prop :=
  Always (fun s s' => view s' = view s) step

namespace Keeps

variable {V : Type} {view : Session R → V} {step : Work R α} {next : α → Work R β}

theorem bind (h : Keeps view step) (hnext : ∀ a, Keeps view (next a)) : Keeps view (step >>= next) :=
  Always.bind (fun hst htu => htu.trans hst) h hnext

theorem lift (outcome : Except Fault α) : Keeps view (Work.lift outcome) := by
  intro s
  rw [runIn_lift]

end Keeps

end LevelPrep.Work
