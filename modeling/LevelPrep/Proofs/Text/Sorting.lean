import LevelPrep.Text.NaturalOrder
import Mathlib.Data.List.Lex
import Mathlib.Data.List.Pairwise
import Mathlib.Data.Sum.Order

/-!
# Natural order as a linear order

The comparisons of natural order go through keys part by part.  Parts and keys have ranks in linear orders of numbers,
lists and sums, and a key comes before another exactly if its rank is smaller (`keyBefore_iff`).  So the order of keys
is total, and sorting by it depends on nothing but what is sorted, as long as no two keys are equal
(`naturalSort_eq_of_perm`).
-/

namespace LevelPrep.Text

/-! ## Ranks -/

/-- The rank of a part: numbers by value come first, then texts by the codes of their characters. -/
def NaturalPart.rank : NaturalPart → ℕ ⊕ₗ List ℕ
  | .number n => Sum.inlₗ n
  | .text chars => Sum.inrₗ (chars.map Char.toNat)

/-- The rank of a key, part by part. -/
def keyRank (key : List NaturalPart) : List (ℕ ⊕ₗ List ℕ) :=
  key.map NaturalPart.rank

theorem NaturalPart.rank_injective : Function.Injective NaturalPart.rank := by
  rintro (m | a) (n | b) h
  · exact congrArg NaturalPart.number (Sum.inl.inj h)
  · cases h
  · cases h
  · have hcodes : a.map Char.toNat = b.map Char.toNat := Sum.inr.inj h
    exact congrArg NaturalPart.text (List.map_injective_iff.2 (fun _ _ => Char.toNat_inj.1) hcodes)

theorem keyRank_injective : Function.Injective keyRank :=
  List.map_injective_iff.2 NaturalPart.rank_injective

theorem charsBefore_iff {as bs : List Char} :
    charsBefore as bs = true ↔ as.map Char.toNat < bs.map Char.toNat := by
  induction as generalizing bs with
  | nil => cases bs <;> simp [charsBefore]
  | cons a as ih =>
      cases bs with
      | nil => simp [charsBefore]
      | cons b bs => simp [charsBefore, List.cons_lt_cons_iff, ih, Char.toNat_inj]

theorem NaturalPart.before_iff {p q : NaturalPart} : p.before q = true ↔ p.rank < q.rank := by
  cases p with
  | number m => cases q <;> simp [before, rank]
  | text a =>
      cases q with
      | number n => simp [before, rank]
      | text b => simp [before, rank, charsBefore_iff]

/-- A key comes before another exactly if its rank is smaller. -/
theorem keyBefore_iff {a b : List NaturalPart} : keyBefore a b = true ↔ keyRank a < keyRank b := by
  unfold keyRank
  induction a generalizing b with
  | nil => cases b <;> simp [keyBefore]
  | cons p a ih =>
      cases b with
      | nil => simp [keyBefore]
      | cons q b =>
          simp [keyBefore, List.cons_lt_cons_iff, ih, NaturalPart.before_iff, NaturalPart.rank_injective.eq_iff]

/-! ## Sorting -/

section

variable {α : Type} (name : α → String)

theorem naturalSort_perm (items : List α) : (naturalSort name items).Perm items := by
  unfold naturalSort
  refine ((List.mergeSort_perm _ _).map _).trans ?_
  rw [List.map_map]
  exact List.Perm.of_eq (List.map_id' items)

/-- Ranks do not fall from one sorted item to the next. -/
theorem pairwise_naturalSort (items : List α) :
    (naturalSort name items).Pairwise fun a b => keyRank (naturalKey (name a)) ≤ keyRank (naturalKey (name b)) := by
  have hle : ∀ a b : List NaturalPart × α, (!keyBefore b.1 a.1) = true ↔ keyRank a.1 ≤ keyRank b.1 := by
    intro a b
    rw [Bool.not_eq_true', ← Bool.not_eq_true, keyBefore_iff, not_lt]
  have htrans : ∀ a b c : List NaturalPart × α,
      (!keyBefore b.1 a.1) = true → (!keyBefore c.1 b.1) = true → (!keyBefore c.1 a.1) = true := by
    intro a b c hab hbc
    exact (hle a c).2 (((hle a b).1 hab).trans ((hle b c).1 hbc))
  have htotal : ∀ a b : List NaturalPart × α, ((!keyBefore b.1 a.1) || !keyBefore a.1 b.1) = true := by
    intro a b
    rw [Bool.or_eq_true, hle, hle]
    exact le_total _ _
  have hsorted := List.pairwise_mergeSort htrans htotal (items.map fun item => (naturalKey (name item), item))
  unfold naturalSort
  rw [List.pairwise_map]
  refine hsorted.imp_of_mem fun {a b} ha hb hab => ?_
  -- what is sorted stands beside the key that was made of it
  have hkeyed : ∀ c ∈ (items.map fun item => (naturalKey (name item), item)).mergeSort
      (fun a b => !keyBefore b.1 a.1), c.1 = naturalKey (name c.2) := by
    intro c hc
    rcases List.mem_map.1 (List.mem_mergeSort.1 hc) with ⟨item, -, rfl⟩
    rfl
  rw [← hkeyed a ha, ← hkeyed b hb]
  exact (hle a b).1 hab

variable {name}

/-- Items whose names have different keys are sorted into one list, in whatever order they are given. -/
theorem naturalSort_eq_of_perm {items items' : List α} (hperm : items'.Perm items)
    (hkeys : items.Pairwise fun a b => naturalKey (name a) ≠ naturalKey (name b)) :
    naturalSort name items' = naturalSort name items := by
  have hsame : ∀ a ∈ items, ∀ b ∈ items, naturalKey (name a) = naturalKey (name b) → a = b := by
    intro a ha b hb heq
    by_contra hne
    have hsymm : Std.Symm fun a b => naturalKey (name a) ≠ naturalKey (name b) := ⟨fun _ _ h => Ne.symm h⟩
    exact hkeys.forall ha hb hne heq
  have hperms := (naturalSort_perm name items').trans (hperm.trans (naturalSort_perm name items).symm)
  refine List.Perm.eq_of_pairwise ?_ (pairwise_naturalSort name items') (pairwise_naturalSort name items) hperms
  intro a b ha hb hab hba
  have hmemA := hperm.subset ((naturalSort_perm name items').subset ha)
  have hmemB := (naturalSort_perm name items).subset hb
  exact hsame a hmemA b hmemB (keyRank_injective (le_antisymm hab hba))

/-- Items whose names have different keys are sorted by their keys. -/
theorem pairwise_keyBefore_naturalSort {items : List α}
    (hkeys : items.Pairwise fun a b => naturalKey (name a) ≠ naturalKey (name b)) :
    (naturalSort name items).Pairwise fun a b => keyBefore (naturalKey (name a)) (naturalKey (name b)) = true := by
  have hkept := hkeys.perm (naturalSort_perm name items).symm fun h => Ne.symm h
  exact ((pairwise_naturalSort name items).and hkept).imp fun h =>
    keyBefore_iff.2 (lt_of_le_of_ne h.1 (keyRank_injective.ne h.2))

end

end LevelPrep.Text
