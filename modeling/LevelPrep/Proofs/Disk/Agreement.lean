import LevelPrep.Proofs.Disk.Trails

/-!
# Disks that agree

Two disks agree if they hold the same entries in the same order, those set aside left out (`Agree`).  What is read
along a trail outside of what is set aside is the same on both, and so is the list of a directory
(`Agree.sameAlong`, `Agree.list_eq`).  Writing the same on both keeps the agreement, and so does writing anything
where it is set aside.
-/

namespace LevelPrep.Disk

/-- Two disks with the same working directory and the same entries, except for those that are set aside. -/
structure Agree (aside : List String → Bool) (d d' : Disk) : Prop where
  home : d'.home = d.home
  entries : d'.entries.filter (fun e => !aside e.1) = d.entries.filter (fun e => !aside e.1)
  rank : d'.rank = d.rank

variable {aside aside' : List String → Bool} {d d' d'' : Disk} {location : List String} {entry : Entry}

namespace Agree

theorem refl (aside : List String → Bool) (d : Disk) : Agree aside d d :=
  ⟨rfl, rfl, rfl⟩

theorem symm (h : Agree aside d d') : Agree aside d' d :=
  ⟨h.home.symm, h.entries.symm, h.rank.symm⟩

theorem trans (h : Agree aside d d') (h' : Agree aside d' d'') : Agree aside d d'' :=
  ⟨h'.home.trans h.home, h'.entries.trans h.entries, h'.rank.trans h.rank⟩

/-- Setting more aside keeps the agreement. -/
theorem mono (h : Agree aside d d') (hmore : ∀ l, aside l = true → aside' l = true) : Agree aside' d d' := by
  have hless : ∀ entries : List (List String × Entry), entries.filter (fun e => !aside' e.1) =
      (entries.filter fun e => !aside e.1).filter fun e => !aside' e.1 := by
    intro entries
    rw [List.filter_filter]
    refine List.filter_congr fun e _ => ?_
    cases haside : aside e.1 with
    | true => simp [hmore e.1 haside]
    | false => simp
  exact ⟨h.home, by rw [hless, h.entries, ← hless], h.rank⟩

end Agree

/-! ## Reading -/

/-- What is looked up is found among what is not set aside. -/
theorem lookup_filter (h : aside location = false) (entries : List (List String × Entry)) :
    (entries.filter fun e => !aside e.1).lookup location = entries.lookup location := by
  induction entries with
  | nil => rfl
  | cons e rest ih =>
      rcases e with ⟨place, old⟩
      by_cases hplace : place = location
      · subst hplace
        simp [h]
      · have hne := beq_eq_false_iff_ne.2 (Ne.symm hplace)
        cases haside : aside place <;> simp [haside, List.lookup_cons, hne, ih]

theorem Agree.entryAt?_eq (h : Agree aside d d') (hlocation : aside location = false) :
    d'.entryAt? location = d.entryAt? location := by
  unfold entryAt?
  rw [h.home, ← lookup_filter hlocation, h.entries, lookup_filter hlocation]

/-- A path that leads through nothing that is set aside leads to the same on both disks. -/
theorem Agree.sameAlong (h : Agree aside d d') {p : Path} (hp : ∀ place ∈ d.trail p, aside place = false) :
    SameAlong d d' p :=
  sameAlong_of_entries h.home fun place hplace => h.entryAt?_eq (hp place hplace)

/-- What is gathered from entries that are not set aside is the same on both disks. -/
theorem Agree.filterMap_eq {α : Type} (h : Agree aside d d') {f : List String × Entry → Option α}
    (hf : ∀ e, aside e.1 = true → f e = none) : d'.entries.filterMap f = d.entries.filterMap f := by
  have hkept : ∀ entries : List (List String × Entry),
      (entries.filter fun e => !aside e.1).filterMap f = entries.filterMap f := by
    intro entries
    rw [List.filterMap_filter]
    refine List.filterMap_congr fun e _ => ?_
    cases haside : aside e.1 with
    | true => simp [hf e haside]
    | false => simp
  rw [← hkept d'.entries, h.entries, hkept]

theorem enumerate_congr (h : d'.rank = d.rank) (names : List String) : d'.enumerate names = d.enumerate names := by
  induction names with
  | nil => rfl
  | cons name rest ih => rw [enumerate, enumerate, ih, h]

/-- A directory in which nothing is set aside has the same list on both disks. -/
theorem Agree.list_eq (h : Agree aside d d') {p : Path} (hp : ∀ place ∈ d.trail p, aside place = false)
    (hbelow : ∀ name, aside (d.goal p ++ [name]) = false) : d'.list p = d.list p := by
  unfold list
  rw [(h.sameAlong hp).locate_eq]
  cases hlocate : d.locate p with
  | error fault => rfl
  | ok location =>
      dsimp only
      rw [enumerate_congr h.rank]
      refine congrArg d.enumerate (h.filterMap_eq ?_)
      -- an entry in the directory is not one that is set aside
      rintro ⟨place, old⟩ haside
      refine if_neg fun hplace => ?_
      have hin : place = d.goal p ++ [place.getLast hplace.2] := by
        rw [← eq_goal_of_locate hlocate]
        exact hplace.1 ▸ (List.dropLast_append_getLast hplace.2).symm
      rw [hin] at haside
      exact Bool.false_ne_true ((hbelow _).symm.trans haside)

/-! ## Writing -/

theorem rank_put (d : Disk) (location : List String) (entry : Entry) : (d.put location entry).rank = d.rank := by
  unfold put
  split <;> rfl

/-- Setting an entry where it is set aside changes nothing of the others. -/
theorem filter_put_of_aside (h : aside location = true) (d : Disk) (entry : Entry) :
    (d.put location entry).entries.filter (fun e => !aside e.1) = d.entries.filter fun e => !aside e.1 := by
  unfold put
  -- an entry that is there is replaced in its place, a new one goes to the end, and neither is kept by the
  -- filter
  split
  · rw [List.filter_map]
    have hsame : (fun e : List String × Entry => !aside e.1) ∘
        (fun e => if e.1 = location then (location, entry) else e) = fun e => !aside e.1 := by
      funext e
      by_cases he : e.1 = location
      · simp [he]
      · simp [he]
    rw [hsame]
    conv_rhs => rw [← List.map_id (d.entries.filter fun e => !aside e.1)]
    refine List.map_congr_left fun e he => ?_
    have hne : e.1 ≠ location := by
      intro heq
      have hkept := (List.mem_filter.1 he).2
      rw [heq, h] at hkept
      cases hkept
    simp [hne]
  · simp [List.filter_append, h]

/-- Setting an entry that is not set aside is setting it among the others. -/
theorem filter_put_of_kept (h : aside location = false) (d : Disk) (entry : Entry) :
    (d.put location entry).entries.filter (fun e => !aside e.1) =
      ({ d with entries := d.entries.filter fun e => !aside e.1 }.put location entry).entries := by
  -- whether the entry is there already is the same with the others left out
  have hany : ((d.entries.filter fun e => !aside e.1).any (·.1 = location)) = d.entries.any (·.1 = location) := by
    rw [List.any_filter]
    refine congrArg (d.entries.any ·) (funext fun e => ?_)
    by_cases he : e.1 = location
    · simp [he, h]
    · simp [he]
  unfold put
  simp only [hany]
  split
  · dsimp only
    rw [List.filter_map]
    refine congrArg (List.map _) (List.filter_congr fun e _ => ?_)
    by_cases he : e.1 = location
    · simp [he]
    · simp [he]
  · simp [List.filter_append, h]

/-- Something is written where it is set aside. -/
theorem agree_put (h : aside location = true) (d : Disk) (entry : Entry) : Agree aside d (d.put location entry) :=
  ⟨home_put d location entry, filter_put_of_aside h d entry, rank_put d location entry⟩

/-- The same is written on both disks. -/
theorem Agree.put (h : Agree aside d d') (location : List String) (entry : Entry) :
    Agree aside (d.put location entry) (d'.put location entry) := by
  refine ⟨by rw [home_put, home_put, h.home], ?_, by rw [rank_put, rank_put, h.rank]⟩
  cases haside : aside location with
  | true => rw [filter_put_of_aside haside, filter_put_of_aside haside, h.entries]
  | false => rw [filter_put_of_kept haside, filter_put_of_kept haside, h.entries, h.home, h.rank]

theorem agree_append (h : aside location = true) (d : Disk) (text : String) :
    Agree aside d (d.append location text) := by
  unfold append
  split
  · exact agree_put h d _
  · exact agree_put h d _

/-! ## Directories -/

/-- The disk with a directory at a place, unless something stands there. -/
def withDirectory (d : Disk) (place : List String) : Disk :=
  if (d.entryAt? place).isSome then d else { d with entries := d.entries ++ [(place, .directory)] }

/-- The disk with directories at places, one after another. -/
def founded (d : Disk) (places : List (List String)) : Disk :=
  places.foldl withDirectory d

theorem founded_append (d : Disk) (places more : List (List String)) :
    d.founded (places ++ more) = (d.founded places).founded more :=
  List.foldl_append

theorem home_withDirectory (d : Disk) (place : List String) : (d.withDirectory place).home = d.home := by
  unfold withDirectory
  split <;> rfl

theorem rank_withDirectory (d : Disk) (place : List String) : (d.withDirectory place).rank = d.rank := by
  unfold withDirectory
  split <;> rfl

theorem home_founded (d : Disk) (places : List (List String)) : (d.founded places).home = d.home := by
  induction places generalizing d with
  | nil => rfl
  | cons place rest ih => exact (ih _).trans (home_withDirectory d place)

/-- A new directory stands at its place, and everywhere else stands what stood there. -/
theorem entryAt?_withDirectory (d : Disk) (place l : List String) :
    (d.withDirectory place).entryAt? l =
      if l = place then some ((d.entryAt? place).getD .directory) else d.entryAt? l := by
  unfold withDirectory
  cases hplace : d.entryAt? place with
  | some old =>
      rw [if_pos (by rfl : (some old).isSome = true)]
      split_ifs with hl
      · rw [hl, hplace]
        rfl
      · rfl
  | none =>
      have hnone : (none : Option Entry).isSome ≠ true := by simp
      rw [if_neg hnone]
      unfold entryAt? at hplace ⊢
      dsimp only
      -- the place is not on the way to the home directory, where something would stand
      split_ifs at hplace
      split_ifs with habove hl hl
      · rw [hl] at habove
        contradiction
      · rfl
      · simp [hl, List.lookup_append, hplace]
      · simp [List.lookup_append, List.lookup_cons, beq_eq_false_iff_ne.2 hl]

/-- What stands somewhere is still there. -/
theorem entryAt?_founded_of_some (places : List (List String)) {old : Entry} (h : d.entryAt? location = some old) :
    (d.founded places).entryAt? location = some old := by
  induction places generalizing d with
  | nil => exact h
  | cons place rest ih =>
      refine ih ?_
      rw [entryAt?_withDirectory]
      split_ifs with hlocation
      · rw [← hlocation, h]
        rfl
      · exact h

/-- Where directories are there already, none is made. -/
theorem founded_of_present {places : List (List String)} (h : ∀ place ∈ places, (d.entryAt? place).isSome) :
    d.founded places = d := by
  induction places with
  | nil => rfl
  | cons place rest ih =>
      have hfirst : d.withDirectory place = d := if_pos (h place List.mem_cons_self)
      show (d.withDirectory place).founded rest = d
      rw [hfirst]
      exact ih fun other hother => h other (List.mem_cons_of_mem _ hother)

/-- A directory is made where it is set aside. -/
theorem agree_withDirectory {place : List String} (d : Disk) (h : d.entryAt? place = none → aside place = true) :
    Agree aside d (d.withDirectory place) := by
  refine ⟨home_withDirectory d place, ?_, rank_withDirectory d place⟩
  unfold withDirectory
  split_ifs with hplace
  · rfl
  · simp [List.filter_append, h (by simpa using hplace)]

/-- The same directory is made on both disks. -/
theorem Agree.withDirectory (h : Agree aside d d') (place : List String) :
    Agree aside (d.withDirectory place) (d'.withDirectory place) := by
  cases haside : aside place with
  | true =>
      have hleft := agree_withDirectory d fun _ => haside
      exact (hleft.symm.trans h).trans (agree_withDirectory d' fun _ => haside)
  | false =>
      refine ⟨by rw [home_withDirectory, home_withDirectory, h.home], ?_,
        by rw [rank_withDirectory, rank_withDirectory, h.rank]⟩
      unfold Disk.withDirectory
      rw [h.entryAt?_eq haside]
      split_ifs
      · exact h.entries
      · simp [List.filter_append, h.entries]

theorem Agree.founded (h : Agree aside d d') (places : List (List String)) :
    Agree aside (d.founded places) (d'.founded places) := by
  induction places generalizing d d' with
  | nil => exact h
  | cons place rest ih => exact ih (h.withDirectory place)

end LevelPrep.Disk
