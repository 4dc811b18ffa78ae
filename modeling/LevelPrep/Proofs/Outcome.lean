import Mathlib.Data.List.Forall2

/-!
# Lists of outcomes

Going through a list with a step that may fail: the results of a run that succeeds stand in the places
of the items they were made from.
-/

namespace LevelPrep

variable {ε α β : Type}

@[simp] theorem ok_bind (a : α) (next : α → Except ε β) : (Except.ok a >>= next) = next a :=
  rfl

/-- A bind succeeds exactly if both of its parts do. -/
theorem bind_eq_ok_iff {step : Except ε α} {next : α → Except ε β} {b : β} :
    step >>= next = .ok b ↔ ∃ a, step = .ok a ∧ next a = .ok b := by
  cases step with
  | ok a =>
      constructor
      · intro h
        exact ⟨a, rfl, h⟩
      · rintro ⟨a', ha, h⟩
        cases ha
        exact h
  | error fault =>
      constructor
      · intro h
        cases h
      · rintro ⟨a, ha, -⟩
        cases ha

theorem toOption_eq_some_iff {outcome : Except ε α} {a : α} : outcome.toOption = some a ↔ outcome = .ok a := by
  cases outcome <;> simp [Except.toOption]

theorem map_eq_ok_iff {step : Except ε α} {f : α → β} {b : β} :
    step.map f = .ok b ↔ ∃ a, step = .ok a ∧ f a = b := by
  cases step with
  | ok a => simp [Except.map]
  | error fault => simp [Except.map]

/-- Where every item gives a good result, the list gives the list of them. -/
theorem exists_mapM_ok {f : α → Except ε β} {P : α → β → Prop} {items : List α}
    (h : ∀ a ∈ items, ∃ b, f a = .ok b ∧ P a b) :
    ∃ results, items.mapM f = .ok results ∧ List.Forall₂ P items results := by
  induction items with
  | nil => exact ⟨[], rfl, .nil⟩
  | cons a items ih =>
      rcases h a List.mem_cons_self with ⟨b, hb, hP⟩
      rcases ih fun c hc => h c (List.mem_cons_of_mem a hc) with ⟨results, hresults, hall⟩
      refine ⟨b :: results, ?_, .cons hP hall⟩
      rw [List.mapM_cons, hb]
      exact bind_eq_ok_iff.2 ⟨b, rfl, bind_eq_ok_iff.2 ⟨results, hresults, rfl⟩⟩

/-- The results of a list that succeeds are made from its items, each from its own. -/
theorem forall₂_of_mapM {f : α → Except ε β} {items : List α} {results : List β}
    (h : items.mapM f = .ok results) : List.Forall₂ (fun a b => f a = .ok b) items results := by
  induction items generalizing results with
  | nil =>
      cases h
      exact .nil
  | cons a items ih =>
      rw [List.mapM_cons] at h
      rcases bind_eq_ok_iff.1 h with ⟨b, hb, h'⟩
      rcases bind_eq_ok_iff.1 h' with ⟨rest, hrest, hlast⟩
      cases hlast
      exact .cons hb (ih hrest)

theorem mapM_of_forall₂ {f : α → Except ε β} {items : List α} {results : List β}
    (h : List.Forall₂ (fun a b => f a = .ok b) items results) : items.mapM f = .ok results := by
  induction h with
  | nil => rfl
  | cons hhead _ ih =>
      rw [List.mapM_cons, hhead]
      exact bind_eq_ok_iff.2 ⟨_, rfl, bind_eq_ok_iff.2 ⟨_, ih, rfl⟩⟩

/-- A list fails with the fault of its first item that does. -/
theorem mapM_eq_error_iff {f : α → Except ε β} {items : List α} {fault : ε} :
    items.mapM f = .error fault ↔ ∃ before a after, items = before ++ a :: after ∧
      (∀ b ∈ before, ∃ r, f b = .ok r) ∧ f a = .error fault := by
  induction items with
  | nil =>
      constructor
      · intro h
        cases h
      · rintro ⟨before, a, after, hsplit, -⟩
        simp at hsplit
  | cons first items ih =>
      rw [List.mapM_cons]
      cases hfirst : f first with
      | error fault' =>
          constructor
          · intro h
            cases h
            exact ⟨[], first, items, rfl, by simp, hfirst⟩
          · rintro ⟨before, a, after, hsplit, hbefore, ha⟩
            cases before with
            | nil =>
                cases hsplit
                cases hfirst.symm.trans ha
                rfl
            | cons b before =>
                cases hsplit
                rcases hbefore first List.mem_cons_self with ⟨r, hr⟩
                cases hfirst.symm.trans hr
      | ok r =>
          -- the first item is good, so the fault is one of the rest
          have hrest : (do
              let r ← (.ok r : Except ε β)
              let rs ← items.mapM f
              pure (r :: rs)) = Except.error fault ↔ items.mapM f = .error fault := by
            cases items.mapM f with
            | error fault' => exact Iff.rfl
            | ok rs =>
                constructor
                · intro h
                  cases h
                · intro h
                  cases h
          rw [hrest, ih]
          constructor
          · rintro ⟨before, a, after, rfl, hbefore, ha⟩
            refine ⟨first :: before, a, after, rfl, ?_, ha⟩
            intro b hb
            rcases List.mem_cons.1 hb with rfl | hb
            · exact ⟨r, hfirst⟩
            · exact hbefore b hb
          · rintro ⟨before, a, after, hsplit, hbefore, ha⟩
            cases before with
            | nil =>
                cases hsplit
                cases hfirst.symm.trans ha
            | cons b before =>
                cases hsplit
                exact ⟨before, a, after, rfl, fun b hb => hbefore b (List.mem_cons_of_mem _ hb), ha⟩

/-- A list that fails has an item that does. -/
theorem exists_of_mapM_error {f : α → Except ε β} {items : List α} {fault : ε}
    (h : items.mapM f = .error fault) : ∃ a ∈ items, f a = .error fault := by
  rcases mapM_eq_error_iff.1 h with ⟨before, a, after, rfl, -, ha⟩
  exact ⟨a, by simp, ha⟩

/-- What holds position by position may be weakened for the members of the two lists. -/
theorem forall₂_imp_of_mem {P Q : α → β → Prop} {items : List α} {results : List β} (h : List.Forall₂ P items results)
    (himp : ∀ a ∈ items, ∀ b ∈ results, P a b → Q a b) : List.Forall₂ Q items results := by
  rw [List.forall₂_iff_zip] at h ⊢
  refine ⟨h.1, fun {a b} hab => ?_⟩
  have hmem := List.of_mem_zip hab
  exact himp a hmem.1 b hmem.2 (h.2 hab)

/-- Every result was made from one of the items. -/
theorem exists_of_mem_results {P : α → β → Prop} {items : List α} {results : List β}
    (h : List.Forall₂ P items results) {b : β} (hb : b ∈ results) : ∃ a ∈ items, P a b := by
  induction h with
  | nil => cases hb
  | cons hP _ ih =>
      rcases List.mem_cons.1 hb with rfl | hb
      · exact ⟨_, List.mem_cons_self, hP⟩
      · rcases ih hb with ⟨a, ha, hP'⟩
        exact ⟨a, List.mem_cons_of_mem _ ha, hP'⟩

/-- Every item was made into one of the results. -/
theorem exists_result_of_mem {P : α → β → Prop} {items : List α} {results : List β}
    (h : List.Forall₂ P items results) {a : α} (ha : a ∈ items) : ∃ b ∈ results, P a b := by
  induction h with
  | nil => cases ha
  | cons hP _ ih =>
      rcases List.mem_cons.1 ha with rfl | ha
      · exact ⟨_, List.mem_cons_self, hP⟩
      · rcases ih ha with ⟨b, hb, hP'⟩
        exact ⟨b, List.mem_cons_of_mem _ hb, hP'⟩

/-- Results that are known from their items are the items taken through the function. -/
theorem eq_map_of_forall₂ {f : α → β} {items : List α} {results : List β}
    (h : List.Forall₂ (fun a b => b = f a) items results) : results = items.map f := by
  induction h with
  | nil => rfl
  | cons hhead _ ih => rw [hhead, ih, List.map_cons]

/-- Loops over two lists whose items give the same, one by one, give the same. -/
theorem mapM_eq_of_forall₂ {γ : Type} {f : α → Except ε γ} {g : β → Except ε γ} {as : List α} {bs : List β}
    (h : List.Forall₂ (fun a b => f a = g b) as bs) : as.mapM f = bs.mapM g := by
  induction h with
  | nil => rfl
  | cons hhead _ ih => rw [List.mapM_cons, List.mapM_cons, hhead, ih]

/-- Results for pairs of two lists that go together are results for the items of the first. -/
theorem forall₂_of_zip {γ : Type} {P : α → γ → Prop} {Q : α → γ → β → Prop} {as : List α} {cs : List γ}
    {bs : List β} (h : List.Forall₂ P as cs) (h' : List.Forall₂ (fun p b => Q p.1 p.2 b) (as.zip cs) bs) :
    List.Forall₂ (fun a b => ∃ c, P a c ∧ Q a c b) as bs := by
  induction h generalizing bs with
  | nil =>
      cases h'
      exact .nil
  | cons hhead _ ih =>
      cases h' with
      | cons hfirst hrest => exact .cons ⟨_, hhead, hfirst⟩ (ih hrest)

/-- Picking by a test that may fail succeeds exactly if the test does on every item. -/
theorem exists_filterM_ok_iff {test : α → Except ε Bool} {items : List α} :
    (∃ kept, items.filterM test = .ok kept) ↔ ∀ a ∈ items, ∃ b, test a = .ok b := by
  have hloop : ∀ rest picked : List α,
      (∃ kept, List.filterAuxM test rest picked = .ok kept) ↔ ∀ a ∈ rest, ∃ b, test a = .ok b := by
    intro rest
    induction rest with
    | nil => exact fun picked => ⟨fun _ => by simp, fun _ => ⟨picked, rfl⟩⟩
    | cons a rest ih =>
        intro picked
        show (∃ kept, (test a >>= fun b => List.filterAuxM test rest (cond b (a :: picked) picked)) =
          .ok kept) ↔ _
        rw [List.forall_mem_cons]
        cases test a with
        | error fault => simp [Bind.bind, Except.bind]
        | ok b => simp [ih]
  rw [← hloop items []]
  show (∃ kept, (List.filterAuxM test items [] >>= fun picked => pure picked.reverse) = .ok kept) ↔ _
  cases List.filterAuxM test items [] with
  | error fault => simp [Bind.bind, Except.bind]
  | ok picked => exact ⟨fun _ => ⟨picked, rfl⟩, fun _ => ⟨picked.reverse, rfl⟩⟩

/-- Picking fails with the fault of a test. -/
theorem exists_of_filterM_error {test : α → Except ε Bool} {items : List α} {fault : ε}
    (h : items.filterM test = .error fault) : ∃ a ∈ items, test a = .error fault := by
  have hloop : ∀ rest picked : List α, List.filterAuxM test rest picked = .error fault →
      ∃ a ∈ rest, test a = .error fault := by
    intro rest
    induction rest with
    | nil => exact fun picked h => nomatch h
    | cons a rest ih =>
        intro picked h
        change (test a >>= fun b => List.filterAuxM test rest (cond b (a :: picked) picked)) = .error fault at h
        cases htest : test a with
        | error fault' =>
            rw [htest] at h
            cases h
            exact ⟨a, List.mem_cons_self, htest⟩
        | ok b =>
            rw [htest] at h
            rcases ih _ h with ⟨c, hc, hfault⟩
            exact ⟨c, List.mem_cons_of_mem a hc, hfault⟩
  change (List.filterAuxM test items [] >>= fun picked => pure picked.reverse) = .error fault at h
  cases hpicked : List.filterAuxM test items [] with
  | error fault' =>
      rw [hpicked] at h
      cases h
      exact hloop items [] hpicked
  | ok picked =>
      rw [hpicked] at h
      cases h

/-- Picking by a test that may fail picks the items that pass. -/
theorem eq_filter_of_filterM {test : α → Except ε Bool} {items kept : List α}
    (h : items.filterM test = .ok kept) :
    kept = items.filter fun a => (test a).toOption == some true := by
  have hloop : ∀ (rest picked kept : List α), List.filterAuxM test rest picked = .ok kept →
      kept = (rest.filter fun a => (test a).toOption == some true).reverse ++ picked := by
    intro rest
    induction rest with
    | nil =>
        intro picked kept h
        cases h
        rfl
    | cons a rest ih =>
        intro picked kept h
        rcases bind_eq_ok_iff.1 h with ⟨found, hfound, hlater⟩
        rw [ih _ kept hlater, List.filter_cons, hfound]
        cases found <;> simp [Except.toOption]
  rcases bind_eq_ok_iff.1 h with ⟨picked, hpicked, hlast⟩
  cases hlast
  rw [hloop items [] picked hpicked]
  simp

end LevelPrep
