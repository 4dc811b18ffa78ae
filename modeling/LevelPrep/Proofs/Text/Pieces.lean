import LevelPrep.Text.Search
import Mathlib.Data.List.Basic

/-!
# Pieces of a text

Cutting a text at a separator and putting the pieces together again undo each other
(`splitAt_intercalate`, `intercalate_splitAt`), and a text has no more pieces that are not empty than it has
characters beside the separator (`countP_splitAt_le`).
-/

namespace LevelPrep.Text

variable {α : Type} [BEq α]

theorem splitAt_ne_nil (separator : α) (text : List α) : splitAt separator text ≠ [] := by
  intro h
  have hlen := length_splitAt separator text
  rw [h] at hlen
  exact absurd hlen (by simp)

theorem splitAt_eq_splitOn (separator : α) (text : List α) :
    splitAt separator text = text.splitOn separator := by
  induction text with
  | nil => rfl
  | cons c rest ih =>
      rw [List.splitOn_cons_eq_if_modifyHead, ← ih]
      cases h : splitAt separator rest with
      | nil => exact absurd h (splitAt_ne_nil separator rest)
      | cons piece pieces =>
          simp only [splitAt, h]
          rfl

/-- Every piece that is not empty takes a character of its own. -/
theorem countP_splitAt_le (separator : α) (text : List α) :
    (splitAt separator text).countP (!·.isEmpty) ≤ text.countP (· != separator) := by
  induction text with
  | nil => simp [splitAt]
  | cons c rest ih =>
      cases hrest : splitAt separator rest with
      | nil => exact absurd hrest (splitAt_ne_nil separator rest)
      | cons piece pieces =>
          rw [hrest] at ih
          by_cases hc : c == separator
          · simpa [splitAt, hrest, hc, bne] using ih
          · have hpiece : pieces.countP (!·.isEmpty) ≤ (piece :: pieces).countP (!·.isEmpty) := by
              rw [List.countP_cons]
              exact Nat.le_add_right _ _
            simp only [bne] at ih
            simp only [splitAt, hrest, hc, Bool.false_eq_true, if_false, List.countP_cons, bne,
              List.isEmpty_cons, Bool.not_false, if_true]
            omega

variable [LawfulBEq α]

/-- Pieces without the separator are found again after they were put together. -/
theorem splitAt_intercalate {separator : α} {pieces : List (List α)} (hne : pieces ≠ [])
    (hpieces : ∀ piece ∈ pieces, separator ∉ piece) :
    splitAt separator ([separator].intercalate pieces) = pieces := by
  rw [splitAt_eq_splitOn]
  exact List.splitOn_intercalate separator hpieces hne

theorem intercalate_splitAt (separator : α) (text : List α) :
    [separator].intercalate (splitAt separator text) = text := by
  rw [splitAt_eq_splitOn]
  exact List.intercalate_splitOn separator

theorem notMem_of_mem_splitAt {separator : α} {text piece : List α}
    (h : piece ∈ splitAt separator text) : separator ∉ piece := by
  induction text generalizing piece with
  | nil =>
      rw [List.mem_singleton.1 h]
      exact List.not_mem_nil
  | cons c rest ih =>
      cases hrest : splitAt separator rest with
      | nil => exact absurd hrest (splitAt_ne_nil separator rest)
      | cons first pieces =>
          simp only [splitAt, hrest] at h
          rw [hrest] at ih
          split at h
          · rcases List.mem_cons.1 h with rfl | hmem
            · exact List.not_mem_nil
            · exact ih hmem
          · next hc =>
              rcases List.mem_cons.1 h with rfl | hmem
              · intro hin
                rcases List.mem_cons.1 hin with rfl | hin
                · simp at hc
                · exact ih List.mem_cons_self hin
              · exact ih (List.mem_cons_of_mem first hmem)

end LevelPrep.Text
