import LevelPrep.Proofs.Catalog.Entries
import Mathlib.Data.List.Induction

/-!
# The law of the longest match

The winner among the candidates for a name is longer than all candidates before it and as long as any behind it
(`foldl_betterMatch_eq_some_iff`).  So a name that is the short name of a winner is matched with that winner again
(`Catalog.bestMatch_shortName`): whatever is longer does not stand in it, and an earlier entry of the same
short name would have won before.
-/

namespace LevelPrep

variable {E : Type} {shortName : E → String}

/-- The winner among candidates: the first of the longest. -/
structure Wins (shortName : E → String) (candidates : List E) (winner : E) (before after : List E) : Prop where
  split : candidates = before ++ winner :: after
  before : ∀ other ∈ before, (shortName other).length < (shortName winner).length
  after : ∀ other ∈ after, (shortName other).length ≤ (shortName winner).length

/-- A candidate that is not longer than the best so far changes nothing. -/
theorem foldl_betterMatch_of_le {best : E} {candidates : List E}
    (h : ∀ other ∈ candidates, (shortName other).length ≤ (shortName best).length) :
    candidates.foldl (betterMatch shortName) (some best) = some best := by
  induction candidates with
  | nil => rfl
  | cons candidate rest ih =>
      have hle := h candidate List.mem_cons_self
      have hstep : betterMatch shortName (some best) candidate = some best := by
        unfold betterMatch
        exact if_neg (Nat.not_lt.2 hle)
      rw [List.foldl_cons, hstep]
      exact ih fun other hother => h other (List.mem_cons_of_mem candidate hother)

/-- A candidate that is longer than all before it is the best so far. -/
theorem foldl_betterMatch_of_lt {winner : E} {before : List E}
    (h : ∀ other ∈ before, (shortName other).length < (shortName winner).length) :
    betterMatch shortName (before.foldl (betterMatch shortName) none) winner = some winner := by
  cases hbest : before.foldl (betterMatch shortName) none with
  | none => rfl
  | some best =>
      have hmem : best ∈ before := by
        rcases mem_of_foldl_betterMatch hbest with hmem | hnone
        · exact hmem
        · cases hnone
      unfold betterMatch
      exact if_pos (h best hmem)

/-- The first of the longest candidates is picked. -/
theorem Wins.picked {candidates before after : List E} {winner : E}
    (h : Wins shortName candidates winner before after) :
    candidates.foldl (betterMatch shortName) none = some winner := by
  rw [h.split, List.foldl_append, List.foldl_cons, foldl_betterMatch_of_lt h.before,
    foldl_betterMatch_of_le h.after]

/-- Where nothing is picked there was no candidate. -/
theorem eq_nil_of_foldl_betterMatch {candidates : List E}
    (h : candidates.foldl (betterMatch shortName) none = none) : candidates = [] := by
  induction candidates using List.reverseRecOn with
  | nil => rfl
  | append_singleton rest last =>
      rw [List.foldl_append, List.foldl_cons, List.foldl_nil] at h
      unfold betterMatch at h
      split at h
      · cases h
      · next hbest =>
          split_ifs at h
          rw [hbest] at h
          cases h

/-- No candidate is longer than the winner. -/
theorem Wins.length_le {candidates before after : List E} {winner other : E}
    (h : Wins shortName candidates winner before after) (hother : other ∈ candidates) :
    (shortName other).length ≤ (shortName winner).length := by
  rw [h.split] at hother
  rcases List.mem_append.1 hother with hbefore | hrest
  · exact Nat.le_of_lt (h.before other hbefore)
  · rcases List.mem_cons.1 hrest with rfl | hafter
    · exact Nat.le_refl _
    · exact h.after other hafter

/-- What is picked is the first of the longest candidates. -/
theorem exists_wins {candidates : List E} {winner : E}
    (h : candidates.foldl (betterMatch shortName) none = some winner) :
    ∃ before after, Wins shortName candidates winner before after := by
  -- the candidates are taken one after another, and the last of them is compared with the winner so far
  induction candidates using List.reverseRecOn generalizing winner with
  | nil => cases h
  | append_singleton rest last ih =>
      rw [List.foldl_append, List.foldl_cons, List.foldl_nil] at h
      cases hbest : rest.foldl (betterMatch shortName) none with
      | none =>
          rw [hbest] at h
          cases h
          cases eq_nil_of_foldl_betterMatch hbest
          exact ⟨[], [], rfl, by simp, by simp⟩
      | some best =>
          rw [hbest] at h
          rcases ih hbest with ⟨before, after, hwins⟩
          simp only [betterMatch] at h
          split_ifs at h with hlonger
          · cases h
            refine ⟨rest, [], rfl, fun other hother => ?_, by simp⟩
            exact Nat.lt_of_le_of_lt (hwins.length_le hother) hlonger
          · cases h
            refine ⟨before, after ++ [last], ?_, hwins.before, fun other hother => ?_⟩
            · rw [hwins.split, List.append_assoc, List.cons_append]
            · rcases List.mem_append.1 hother with hafter | hlast
              · exact hwins.after other hafter
              · rw [List.mem_singleton.1 hlast]
                exact Nat.not_lt.1 hlonger

/-! ## Winners of winners -/

/-- Picking from a list by a second test, which the winner of the first passes.  If what passes the second test is
no longer than the winner, and passes the first if it is as long, the winner is picked again. -/
theorem foldl_betterMatch_filter {entries : List E} {winner : E} {p q : E → Bool}
    (h : (entries.filter p).foldl (betterMatch shortName) none = some winner) (hwinner : q winner = true)
    (hle : ∀ other, q other = true → (shortName other).length ≤ (shortName winner).length)
    (heq : ∀ other, q other = true → (shortName other).length = (shortName winner).length → p other = true) :
    (entries.filter q).foldl (betterMatch shortName) none = some winner := by
  rcases exists_wins h with ⟨before, after, hwins⟩
  -- where the winner stands in the whole list
  rcases List.filter_eq_append_iff.1 hwins.split with ⟨first, rest, rfl, hfirst, hrest⟩
  rcases List.filter_eq_cons_iff.1 hrest with ⟨skipped, last, rfl, hskipped, -, hlast⟩
  suffices hpicked : Wins shortName ((first ++ (skipped ++ winner :: last)).filter q) winner
      ((first ++ skipped).filter q) (last.filter q) from hpicked.picked
  refine ⟨?_, ?_, ?_⟩
  · simp [hwinner]
  · intro other hother
    rcases List.mem_filter.1 hother with ⟨hmem, hq⟩
    refine Nat.lt_of_le_of_ne (hle other hq) fun hsame => ?_
    have hp := heq other hq hsame
    rcases List.mem_append.1 hmem with hin | hin
    · have hbefore := hwins.before other (hfirst ▸ List.mem_filter.2 ⟨hin, hp⟩)
      omega
    · exact absurd hp (hskipped other hin)
  · intro other hother
    exact hle other (List.mem_filter.1 hother).2

/-! ## Catalogs -/

/-- A text that stands in another one is no longer, and is that one if it is as long. -/
theorem Text.length_le_of_contains {word text : String} (h : Text.contains word text = true) :
    word.length ≤ text.length ∧ (word.length = text.length → word = text) := by
  have hstands := Text.occursIn_iff.1 h
  rw [← String.length_toList, ← String.length_toList]
  exact ⟨hstands.length_le, fun hlength => String.toList_inj.1 (hstands.eq_of_length hlength)⟩

/-- A text stands in itself. -/
theorem Text.contains_self (word : String) : Text.contains word word = true :=
  Text.occursIn_iff.2 List.infix_rfl

namespace Catalog

variable {c : Catalog} {name : Json} {entry : CatalogEntry}

/-- Where letter case matters, what a name is matched with is picked by a test of short names. -/
theorem exists_test_of_bestMatch (hcase : c.kind.caseSensitive = true) (h : c.bestMatch name = .ok (some entry)) :
    ∃ p : String → Bool, p "" = false ∧
      (c.entries.filter fun e => p e.shortName).foldl (betterMatch CatalogEntry.shortName) none = some entry := by
  unfold bestMatch bestMatchFor at h
  rw [hcase] at h
  split at h
  · next text =>
      exact ⟨fun word => matchesName true word text, by simp [matchesName], Except.ok.inj h⟩
  · next =>
      rcases bind_eq_ok_iff.1 h with ⟨candidates, hcandidates, hlast⟩
      have hfilter := eq_filter_of_filterM hcandidates
      rw [List.filter_filter] at hfilter
      refine ⟨fun word => (Json.holds word name).toOption == some true && word != "", by simp, ?_⟩
      rw [← hfilter]
      exact Except.ok.inj hlast

/-- Where letter case matters, the short name of a match is matched with that match again. -/
theorem bestMatch_shortName (hcase : c.kind.caseSensitive = true) (h : c.bestMatch name = .ok (some entry)) :
    c.bestMatch (.str entry.shortName) = .ok (some entry) := by
  rcases exists_test_of_bestMatch hcase h with ⟨p, hempty, hwinner⟩
  have hpassed : p entry.shortName = true := by
    rcases mem_of_foldl_betterMatch hwinner with hmem | hnone
    · exact (List.mem_filter.1 hmem).2
    · cases hnone
  have hset : entry.shortName ≠ "" := by
    intro hname
    rw [hname, hempty] at hpassed
    cases hpassed
  -- what stands in the short name is no longer, and is that name if it is as long
  have hstands : ∀ other : CatalogEntry, matchesName true other.shortName entry.shortName = true →
      other.shortName.length ≤ entry.shortName.length ∧
        (other.shortName.length = entry.shortName.length → other.shortName = entry.shortName) := by
    intro other hother
    unfold matchesName at hother
    rw [Bool.and_eq_true, if_pos rfl] at hother
    exact Text.length_le_of_contains hother.2
  have hself : matchesName true entry.shortName entry.shortName = true := by
    unfold matchesName
    rw [if_pos rfl, Text.contains_self, Bool.and_true]
    exact bne_iff_ne.2 hset
  have hagain := foldl_betterMatch_filter hwinner hself (fun other hother => (hstands other hother).1)
    fun other hother hlength => by rw [(hstands other hother).2 hlength, hpassed]
  unfold bestMatch bestMatchFor
  rw [hcase]
  exact congrArg Except.ok hagain

end Catalog

end LevelPrep
