import LevelPrep.Proofs.Catalog.Matching
import Mathlib.Order.Bounds.Basic

/-!
# The first of the longest

Of the entries whose short names stand in a name the longest wins, and of equally long ones the first
(`first_of_longest`).  The winner is told by its place, so entries that do not stand in the name may come and go, and
the others may be reordered as long as ties are kept: what counts is the order among candidates of one length
(`foldl_betterMatch_of_ties`).
-/

namespace LevelPrep

variable {E : Type} {shortName : E → String} {caseSensitive : Bool} {entries : List E} {name : String}

/-! ## Standing in a name -/

/-- A short name stands in a name: it is not empty, and it is a run of characters of the name, both of them folded
where letter case does not matter. -/
def StandsIn (caseSensitive : Bool) (word name : String) : Prop :=
  word ≠ "" ∧
    if caseSensitive then word.toList <:+: name.toList
    else (Text.fold word).toList <:+: (Text.fold name).toList

theorem matchesName_iff {word : String} :
    matchesName caseSensitive word name = true ↔ StandsIn caseSensitive word name := by
  unfold matchesName StandsIn
  rw [Bool.and_eq_true, bne_iff_ne]
  cases caseSensitive <;> simp [Text.contains, Text.occursIn_iff]

/-! ## Who wins -/

theorem bestMatch?_eq_none_iff : bestMatch? caseSensitive shortName entries name = none ↔
    ∀ entry ∈ entries, ¬ StandsIn caseSensitive (shortName entry) name := by
  simp only [← matchesName_iff]
  constructor
  · intro h
    exact List.filter_eq_nil_iff.1 (eq_nil_of_foldl_betterMatch h)
  · intro h
    rw [bestMatch?, List.filter_eq_nil_iff.2 h]
    rfl

/-- Where the winner stands: what stands in the name is shorter before it, and no longer behind it. -/
theorem exists_split_of_bestMatch? {winner : E} (h : bestMatch? caseSensitive shortName entries name = some winner) :
    ∃ before after, entries = before ++ winner :: after ∧ StandsIn caseSensitive (shortName winner) name ∧
      (∀ other ∈ before, StandsIn caseSensitive (shortName other) name →
        (shortName other).length < (shortName winner).length) ∧
      ∀ other ∈ after, StandsIn caseSensitive (shortName other) name →
        (shortName other).length ≤ (shortName winner).length := by
  rcases exists_wins h with ⟨first, last, hwins⟩
  rcases List.filter_eq_append_iff.1 hwins.split with ⟨before, rest, rfl, hfirst, hrest⟩
  rcases List.filter_eq_cons_iff.1 hrest with ⟨skipped, after, rfl, hskipped, hwinner, hlast⟩
  refine ⟨before ++ skipped, after, by simp, matchesName_iff.1 hwinner, ?_, ?_⟩
  · intro other hother hstands
    rcases List.mem_append.1 hother with hbefore | hbetween
    · exact hwins.before other (hfirst ▸ List.mem_filter.2 ⟨hbefore, matchesName_iff.2 hstands⟩)
    · exact absurd (matchesName_iff.2 hstands) (hskipped other hbetween)
  · intro other hother hstands
    exact hwins.after other (hlast ▸ List.mem_filter.2 ⟨hother, matchesName_iff.2 hstands⟩)

/-- The entry at a place stands in a name, and no other that does is longer. -/
def LongestAt (caseSensitive : Bool) (shortName : E → String) (entries : List E) (name : String) (place : Nat) : Prop :=
  ∃ entry, entries[place]? = some entry ∧ StandsIn caseSensitive (shortName entry) name ∧
    ∀ other ∈ entries, StandsIn caseSensitive (shortName other) name →
      (shortName other).length ≤ (shortName entry).length

/-- A winner stands at the first place of the longest entries. -/
theorem exists_place_of_bestMatch? {winner : E} (h : bestMatch? caseSensitive shortName entries name = some winner) :
    ∃ place, IsLeast {place | LongestAt caseSensitive shortName entries name place} place ∧
      entries[place]? = some winner := by
  rcases exists_split_of_bestMatch? h with ⟨before, after, rfl, hwinner, hbefore, hafter⟩
  have hplace : (before ++ winner :: after)[before.length]? = some winner := by simp
  refine ⟨before.length, ⟨⟨winner, hplace, hwinner, ?_⟩, ?_⟩, hplace⟩
  · intro other hother hstands
    rcases List.mem_append.1 hother with hin | hin
    · exact Nat.le_of_lt (hbefore other hin hstands)
    · rcases List.mem_cons.1 hin with rfl | hin
      · exact Nat.le_refl _
      · exact hafter other hin hstands
  · rintro place ⟨entry, hentry, hstands, hlongest⟩
    by_contra hearlier
    have hlt : place < before.length := Nat.lt_of_not_le hearlier
    -- an earlier entry would have to be as long as the winner, but is shorter
    rw [List.getElem?_append_left hlt] at hentry
    have hshorter := hbefore entry (List.mem_of_getElem? hentry) hstands
    have hlonger := hlongest winner (by simp) hwinner
    omega

theorem bestMatch?_eq_some_iff {winner : E} : bestMatch? caseSensitive shortName entries name = some winner ↔
    ∃ place, IsLeast {place | LongestAt caseSensitive shortName entries name place} place ∧
      entries[place]? = some winner := by
  refine ⟨exists_place_of_bestMatch?, ?_⟩
  rintro ⟨place, hleast, hwinner⟩
  cases hfound : bestMatch? caseSensitive shortName entries name with
  | none =>
      rcases hleast.1 with ⟨entry, hentry, hstands, -⟩
      exact absurd hstands (bestMatch?_eq_none_iff.1 hfound entry (List.mem_of_getElem? hentry))
  | some found =>
      rcases exists_place_of_bestMatch? hfound with ⟨place', hleast', hfound'⟩
      rw [← hleast.unique hleast', hwinner] at hfound'
      exact hfound'.symm

/-! ## Other lists with the same winner -/

/-- An entry that does not stand in the name may as well be left out. -/
theorem bestMatch?_of_removed {before after : List E} {entry : E}
    (h : ¬ StandsIn caseSensitive (shortName entry) name) :
    bestMatch? caseSensitive shortName (before ++ after) name =
      bestMatch? caseSensitive shortName (before ++ entry :: after) name := by
  have hskipped : ¬ matchesName caseSensitive (shortName entry) name = true := fun hmatch =>
    h (matchesName_iff.1 hmatch)
  rw [bestMatch?, bestMatch?, List.filter_append, List.filter_append, List.filter_cons, if_neg hskipped]

/-- The winner among candidates depends on nothing but the order among those of one length. -/
theorem foldl_betterMatch_of_ties {candidates candidates' : List E}
    (h : ∀ n, (candidates'.filter fun e => decide ((shortName e).length = n)) =
      candidates.filter fun e => decide ((shortName e).length = n)) :
    candidates'.foldl (betterMatch shortName) none = candidates.foldl (betterMatch shortName) none := by
  have hmem : ∀ other ∈ candidates', other ∈ candidates := by
    intro other hother
    have hin : other ∈ candidates'.filter fun e => decide ((shortName e).length = (shortName other).length) :=
      List.mem_filter.2 ⟨hother, by simp⟩
    rw [h] at hin
    exact List.mem_of_mem_filter hin
  cases hwinner : candidates.foldl (betterMatch shortName) none with
  | none =>
      rw [eq_nil_of_foldl_betterMatch hwinner] at hmem
      rw [List.eq_nil_iff_forall_not_mem.2 fun other hother => List.not_mem_nil (hmem other hother)]
      rfl
  | some winner =>
      rcases exists_wins hwinner with ⟨before, after, hwins⟩
      -- the winner is the first of its length, in both lists
      have hties := h (shortName winner).length
      have hnone : (before.filter fun e => decide ((shortName e).length = (shortName winner).length)) = [] := by
        refine List.filter_eq_nil_iff.2 fun other hother hsame => ?_
        have hlt := hwins.before other hother
        rw [of_decide_eq_true hsame] at hlt
        exact Nat.lt_irrefl _ hlt
      rw [hwins.split, List.filter_append, hnone, List.nil_append, List.filter_cons_of_pos (by simp)] at hties
      rcases List.filter_eq_cons_iff.1 hties with ⟨before', after', hsplit, hbefore', -, -⟩
      have hpicked : Wins shortName candidates' winner before' after' := by
        refine ⟨hsplit, fun other hother => ?_, fun other hother => ?_⟩
        · have hle := hwins.length_le (hmem other (by simp [hsplit, hother]))
          exact Nat.lt_of_le_of_ne hle fun hsame => hbefore' other hother (by simpa using hsame)
        · exact hwins.length_le (hmem other (by simp [hsplit, hother]))
      exact hpicked.picked

/-- An order of entries, each with the place that it had, in which entries of one length that stand in the name have
kept their order. -/
structure Reorders (caseSensitive : Bool) (shortName : E → String) (name : String) (entries : List E)
    (reordered : List (E × Nat)) : Prop where
  perm : reordered.Perm entries.zipIdx
  ties : reordered.Pairwise fun a b => StandsIn caseSensitive (shortName a.1) name →
    StandsIn caseSensitive (shortName b.1) name → (shortName a.1).length = (shortName b.1).length → a.2 < b.2

/-- Picking by a test that tells entries by their short names leaves entries of one length in their order. -/
theorem Reorders.filter_eq {reordered : List (E × Nat)} (h : Reorders caseSensitive shortName name entries reordered)
    (n : Nat) :
    ((reordered.filter fun a => matchesName caseSensitive (shortName a.1) name).filter
        fun a => decide ((shortName a.1).length = n)) =
      (entries.zipIdx.filter fun a => matchesName caseSensitive (shortName a.1) name).filter
        fun a => decide ((shortName a.1).length = n) := by
  have hleft : ((reordered.filter fun a => matchesName caseSensitive (shortName a.1) name).filter
      fun a => decide ((shortName a.1).length = n)).Pairwise fun a b => a.2 < b.2 := by
    refine ((h.ties.filter _).filter _).imp_of_mem fun {a b} ha hb hab => ?_
    rcases List.mem_filter.1 ha with ⟨ha, hna⟩
    rcases List.mem_filter.1 hb with ⟨hb, hnb⟩
    exact hab (matchesName_iff.1 (List.mem_filter.1 ha).2) (matchesName_iff.1 (List.mem_filter.1 hb).2)
      ((of_decide_eq_true hna).trans (of_decide_eq_true hnb).symm)
  have hplaces : entries.zipIdx.Pairwise fun a b => a.2 < b.2 := by
    rw [← List.pairwise_map, List.zipIdx_map_snd]
    exact List.pairwise_lt_range' 1
  exact List.Perm.eq_of_pairwise (fun _ _ _ _ hab hba => absurd hab (Nat.lt_asymm hba)) hleft
    ((hplaces.filter _).filter _) ((h.perm.filter _).filter _)

/-- Reordered entries have the same winner. -/
theorem Reorders.bestMatch?_eq {reordered : List (E × Nat)}
    (h : Reorders caseSensitive shortName name entries reordered) :
    bestMatch? caseSensitive shortName (reordered.map (·.1)) name =
      bestMatch? caseSensitive shortName entries name := by
  refine foldl_betterMatch_of_ties fun n => ?_
  have hplaced : ∀ placed : List (E × Nat),
      ((placed.map (·.1)).filter fun e => matchesName caseSensitive (shortName e) name).filter
          (fun e => decide ((shortName e).length = n)) =
        ((placed.filter fun a => matchesName caseSensitive (shortName a.1) name).filter
          fun a => decide ((shortName a.1).length = n)).map (·.1) := by
    intro placed
    rw [List.filter_map, List.filter_map]
    rfl
  rw [hplaced, h.filter_eq, ← hplaced, List.zipIdx_map_fst]

/-- The best match is the entry at the first place of the longest that stand in the name, and nothing exactly if none
does.  It stays the same when entries that do not stand in the name are left out, and when entries are reordered but
for ties. -/
theorem first_of_longest (caseSensitive : Bool) (shortName : E → String) (entries : List E) (name : String) :
    bestMatchFor caseSensitive shortName entries (.str name) =
        .ok (bestMatch? caseSensitive shortName entries name) ∧
      (bestMatch? caseSensitive shortName entries name = none ↔
        ∀ entry ∈ entries, ¬ StandsIn caseSensitive (shortName entry) name) ∧
      (∀ winner, bestMatch? caseSensitive shortName entries name = some winner ↔
        ∃ place, IsLeast {place | LongestAt caseSensitive shortName entries name place} place ∧
          entries[place]? = some winner) ∧
      (∀ before entry after, entries = before ++ entry :: after →
        ¬ StandsIn caseSensitive (shortName entry) name →
          bestMatch? caseSensitive shortName (before ++ after) name =
            bestMatch? caseSensitive shortName entries name) ∧
      ∀ reordered, Reorders caseSensitive shortName name entries reordered →
        bestMatch? caseSensitive shortName (reordered.map (·.1)) name =
          bestMatch? caseSensitive shortName entries name := by
  refine ⟨rfl, bestMatch?_eq_none_iff, fun winner => bestMatch?_eq_some_iff, ?_, fun reordered h => h.bestMatch?_eq⟩
  rintro before entry after rfl h
  exact bestMatch?_of_removed h

/-- Entries of which two are folded to one text; the first of these is the shorter one as it is. -/
def streets : List String :=
  ["Tor", "Straße", "STRASSE", "Gasse", "strasse"]

/-- Of the entries that are folded to one text, the first of the longer ones wins; it still does without an entry that
does not stand in the name, and with the shorter entry moved to the end. -/
theorem first_of_longest_streets :
    bestMatch? false id streets "Hauptstraße" = some "STRASSE" ∧
      bestMatch? false id ["Straße", "STRASSE", "Gasse", "strasse"] "Hauptstraße" = some "STRASSE" ∧
      bestMatch? false id ["Tor", "STRASSE", "Gasse", "strasse", "Straße"] "Hauptstraße" = some "STRASSE" := by
  have hwinner : bestMatch? false id streets "Hauptstraße" = some "STRASSE" := by decide +kernel
  rcases first_of_longest false id streets "Hauptstraße" with ⟨-, -, -, hremoved, hreordered⟩
  have hgate : ¬ StandsIn false "Tor" "Hauptstraße" := by
    rw [← matchesName_iff]
    decide +kernel
  have hmoved : Reorders false id "Hauptstraße" streets
      [("Tor", 0), ("STRASSE", 2), ("Gasse", 3), ("strasse", 4), ("Straße", 1)] := by
    refine ⟨by decide, ?_⟩
    -- the entry that was moved to the end has passed none of its own length
    have hpairs : List.Pairwise (fun a b : String × Nat => a.1.length = b.1.length → a.2 < b.2)
        [("Tor", 0), ("STRASSE", 2), ("Gasse", 3), ("strasse", 4), ("Straße", 1)] := by decide
    exact hpairs.imp fun hab _ _ => hab
  exact ⟨hwinner, (hremoved [] "Tor" _ rfl hgate).trans hwinner, (hreordered _ hmoved).trans hwinner⟩

end LevelPrep
