import LevelPrep.Disk.Basic
import LevelPrep.Proofs.Disk.Spelling
import LevelPrep.Proofs.Outcome

/-!
# Files that are written and read

`WellFormed` says what is known of any disk.  A path that a file was opened under leads to what was put there
(`readPlain_put`): the directories on the way are where they were.
-/

namespace LevelPrep.Disk

variable {d : Disk} {location : List String} {entry : Entry}

/-! ## Disks as they are -/

/-- The most bytes that a file can have. -/
def maxFile : Nat :=
  Number.twoPow 63

/-- Everything on the disk has a name, and the sizes of files are numbers of 64 bits with their sign. -/
structure WellFormed (d : Disk) : Prop where
  home : d.home.Normal
  names : ∀ e ∈ d.entries, ∀ name ∈ e.1, Path.IsName name
  sizes : ∀ e ∈ d.entries, ∀ content, e.2 = .file content → content.size < maxFile

theorem enumerate_perm (d : Disk) (names : List String) : (d.enumerate names).Perm names := by
  induction names with
  | nil => exact .nil
  | cons name rest ih =>
      rw [enumerate]
      refine List.perm_middle.trans (.cons name ?_)
      rwa [List.takeWhile_append_dropWhile]

theorem WellFormed.isName_of_mem_list (h : d.WellFormed) {p : Path} {name : String} (hname : name ∈ d.list p) :
    Path.IsName name := by
  unfold list at hname
  split at hname
  · cases hname
  · rcases List.mem_filterMap.1 ((d.enumerate_perm _).subset hname) with ⟨⟨place, e⟩, hmem, hlast⟩
    dsimp only at hlast
    split_ifs at hlast
    exact h.names _ hmem name (List.mem_of_getLast? hlast)

/-- Every character of a text takes a byte of the file it is in. -/
theorem length_le_of_textOf {content : ByteArray} {text : String} (h : textOf content = .ok text) :
    text.toList.length ≤ content.size := by
  have hchars : ∀ chars : List Char, chars.length ≤ (String.ofList chars).utf8ByteSize := by
    intro chars
    induction chars with
    | nil => exact Nat.zero_le _
    | cons c rest ih =>
        have hc := c.utf8Size_pos
        rw [String.ofList_cons, String.utf8ByteSize_append, String.utf8ByteSize_singleton]
        rw [List.length_cons]
        omega
  -- a file is read as a text only if its bytes are those of the text
  unfold textOf at h
  split at h
  · next found hfound =>
      cases h
      unfold String.fromUTF8? at hfound
      split_ifs at hfound
      cases hfound
      have hsize := hchars (String.fromUTF8 content ‹_›).toList
      rwa [String.ofList_toList] at hsize
  · split at h <;> cases h

theorem WellFormed.length_readPlain_lt (h : d.WellFormed) {p : Path} {text : String}
    (hread : d.readPlain p = .ok text) : text.toList.length < maxFile := by
  rcases bind_eq_ok_iff.1 hread with ⟨place, -, hentry⟩
  split at hentry
  · next content hfile =>
      refine Nat.lt_of_le_of_lt (length_le_of_textOf hentry) ?_
      unfold entryAt? at hfile
      split_ifs at hfile
      · cases hfile
      · rcases List.lookup_eq_some_iff.1 hfile with ⟨before, after, hsplit, -⟩
        exact h.sizes (place, .file content) (by simp [hsplit]) content rfl
  · cases hentry
  · cases hentry

/-! ## Entries -/

theorem home_put (d : Disk) (location : List String) (entry : Entry) : (d.put location entry).home = d.home := by
  unfold put
  split <;> rfl

/-- A list of entries with one of them set, looked up elsewhere. -/
theorem lookup_map_of_ne {entries : List (List String × Entry)} {other : List String} (hne : other ≠ location) :
    (entries.map fun e => if e.1 = location then (location, entry) else e).lookup other =
      entries.lookup other := by
  induction entries with
  | nil => rfl
  | cons e rest ih =>
      rcases e with ⟨place, old⟩
      by_cases hplace : place = location
      · simp [hplace, List.lookup_cons, beq_eq_false_iff_ne.2 hne, ih]
      · simp [hplace, List.lookup_cons, ih]

theorem lookup_map_self {entries : List (List String × Entry)} (h : entries.any (·.1 = location) = true) :
    (entries.map fun e => if e.1 = location then (location, entry) else e).lookup location = some entry := by
  induction entries with
  | nil => cases h
  | cons e rest ih =>
      rcases e with ⟨place, old⟩
      by_cases hplace : place = location
      · simp [hplace]
      · have hne := beq_eq_false_iff_ne.2 (Ne.symm hplace)
        have hrest : rest.any (·.1 = location) = true := by simpa [hplace] using h
        simp only [List.map_cons, hplace, if_false, List.lookup_cons, hne]
        exact ih hrest

theorem lookup_eq_none_of_any {entries : List (List String × Entry)}
    (h : entries.any (·.1 = location) = false) : entries.lookup location = none := by
  induction entries with
  | nil => rfl
  | cons e rest ih =>
      rcases e with ⟨place, old⟩
      simp only [List.any_cons, Bool.or_eq_false_iff, decide_eq_false_iff_not] at h
      simp [List.lookup_cons, beq_eq_false_iff_ne.2 (Ne.symm h.1), ih h.2]

theorem entryAt?_put_of_ne {other : List String} (hne : other ≠ location) :
    (d.put location entry).entryAt? other = d.entryAt? other := by
  unfold entryAt?
  rw [home_put]
  congr 1
  unfold put
  split
  · exact lookup_map_of_ne hne
  · simp [List.lookup_append, List.lookup_cons, beq_eq_false_iff_ne.2 hne]

theorem entryAt?_put_self (h : d.entryAt? location ≠ some .directory) :
    (d.put location entry).entryAt? location = some entry := by
  unfold entryAt? at h ⊢
  rw [home_put]
  split_ifs at h ⊢
  · exact absurd rfl h
  · unfold put
    split
    · next hany => exact lookup_map_self hany
    · next hany =>
        have hnone := lookup_eq_none_of_any (Bool.not_eq_true _ ▸ hany)
        simp [List.lookup_append, hnone]

/-! ## Paths -/

/-- What is put where a path leads to is on no directory of its way. -/
theorem follow_put {shown : String} (h : d.entryAt? location ≠ some .directory) :
    ∀ {parts place : List String}, d.follow shown place parts = .ok location →
      (d.put location entry).follow shown place parts = .ok location
  | [], _, hfollow => hfollow
  | part :: rest, place, hfollow => by
      unfold follow at hfollow ⊢
      split at hfollow
      · cases hfollow
      · cases hfollow
      · next hdirectory =>
          -- a directory on the way is not what the file was put in the place of
          have hne : place ≠ location := by
            rintro rfl
            exact h hdirectory
          rw [entryAt?_put_of_ne hne, hdirectory]
          dsimp only
          split_ifs at hfollow ⊢
          · exact follow_put h hfollow
          · exact follow_put h hfollow

theorem locate_put {p : Path} (h : d.entryAt? location ≠ some .directory)
    (hlocate : d.locate p = .ok location) : (d.put location entry).locate p = .ok location := by
  unfold locate at hlocate ⊢
  rw [home_put]
  split_ifs at hlocate ⊢
  all_goals exact follow_put h hlocate

theorem of_openFile {p : Path} (h : d.openFile p = .ok location) :
    d.locate p = .ok location ∧ d.entryAt? location ≠ some .directory := by
  rcases bind_eq_ok_iff.1 h with ⟨place, hlocate, hlast⟩
  split at hlast
  · cases hlast
  · next hentry =>
      cases hlast
      exact ⟨hlocate, fun hdirectory => hentry hdirectory⟩

/-! ## Texts -/

theorem textOf_toUTF8 (text : String) : textOf text.toUTF8 = .ok text := by
  have hread : String.fromUTF8? text.toUTF8 = some text := by
    rw [String.toUTF8_eq_toByteArray, String.fromUTF8?, dif_pos text.isValidUTF8]
    rfl
  rw [textOf, hread]

/-- A text that was put where a path leads to is read from there. -/
theorem readPlain_put {p : Path} (h : d.openFile p = .ok location) (text : String) :
    (d.put location (.file text.toUTF8)).readPlain p = .ok text := by
  rcases of_openFile h with ⟨hlocate, hentry⟩
  unfold readPlain
  rw [locate_put hentry hlocate, ok_bind, entryAt?_put_self hentry]
  exact textOf_toUTF8 text

end LevelPrep.Disk
