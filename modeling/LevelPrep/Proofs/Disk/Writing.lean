import LevelPrep.Proofs.Disk.Directories

/-!
# Writing files

A file is stored where its path leads to, unless a directory is there (`of_store`).  Whatever stands on the disk
lasts: directories stay directories, and files stay files (`Lasts`).  So a log file that was opened stays open while
other files are written (`LogsTo.of_lasts`).
-/

namespace LevelPrep.Disk

variable {d d' d'' : Disk} {p : Path} {place : List String} {text : String}

/-! ## What lasts -/

/-- What stands on the first disk stands on the second one, and is of the same kind. -/
structure Lasts (d d' : Disk) : Prop where
  home : d'.home = d.home
  kind : ∀ l old, d.entryAt? l = some old → ∃ new, d'.entryAt? l = some new ∧ new.isFile = old.isFile

namespace Lasts

theorem refl (d : Disk) : Lasts d d :=
  ⟨rfl, fun _ old hold => ⟨old, hold, rfl⟩⟩

theorem trans (h : Lasts d d') (h' : Lasts d' d'') : Lasts d d'' := by
  refine ⟨h'.home.trans h.home, fun l old hold => ?_⟩
  rcases h.kind l old hold with ⟨mid, hmid, hkind⟩
  rcases h'.kind l mid hmid with ⟨new, hnew, hkind'⟩
  exact ⟨new, hnew, hkind'.trans hkind⟩

/-- A directory stays a directory. -/
theorem directory (h : Lasts d d') (hplace : d.entryAt? place = some .directory) :
    d'.entryAt? place = some .directory := by
  rcases h.kind place _ hplace with ⟨_ | content, hnew, hkind⟩
  · exact hnew
  · cases hkind

/-- A file stays a file. -/
theorem file (h : Lasts d d') (hplace : ∃ content, d.entryAt? place = some (.file content)) :
    ∃ content, d'.entryAt? place = some (.file content) := by
  rcases hplace with ⟨content, hplace⟩
  rcases h.kind place _ hplace with ⟨_ | content', hnew, hkind⟩
  · cases hkind
  · exact ⟨content', hnew⟩

/-- A path still leads where it has led to. -/
theorem locate (h : Lasts d d') (hlocate : d.locate p = .ok place) : d'.locate p = .ok place := by
  rcases locate_eq_ok_iff.1 hlocate with ⟨rfl, hfits, hplaces⟩
  refine locate_eq_ok_iff.2 ⟨(goal_congr h.home p).symm, hfits, fun l hl => h.directory (hplaces l ?_)⟩
  rwa [origin_congr h.home] at hl

end Lasts

theorem lasts_put (h : d.entryAt? place ≠ some .directory) (content : ByteArray) :
    Lasts d (d.put place (.file content)) := by
  refine ⟨home_put d place _, fun l old hold => ?_⟩
  by_cases hl : l = place
  · subst hl
    cases old with
    | directory => exact absurd hold h
    | file other => exact ⟨_, entryAt?_put_self h, rfl⟩
  · exact ⟨old, (entryAt?_put_of_ne hl).trans hold, rfl⟩

theorem lasts_founded (d : Disk) (places : List (List String)) : Lasts d (d.founded places) :=
  ⟨home_founded d places, fun _ old hold => ⟨old, entryAt?_founded_of_some places hold, rfl⟩⟩

/-! ## Storing -/

/-- The disk with a text in a file, if the file can be opened. -/
def store (d : Disk) (p : Path) (text : String) : Option Disk :=
  (d.openFile p).toOption.map fun place => d.put place (.file text.toUTF8)

theorem of_store (h : d.store p text = some d') :
    d.openFile p = .ok (d.goal p) ∧ d.entryAt? (d.goal p) ≠ some .directory ∧
      d' = d.put (d.goal p) (.file text.toUTF8) := by
  rcases Option.map_eq_some_iff.1 h with ⟨place, hplace, rfl⟩
  rw [toOption_eq_some_iff] at hplace
  have hgoal := eq_goal_of_openFile hplace
  subst hgoal
  exact ⟨hplace, (of_openFile hplace).2, rfl⟩

theorem lasts_of_store (h : d.store p text = some d') : Lasts d d' := by
  rcases of_store h with ⟨-, hentry, rfl⟩
  exact lasts_put hentry _

/-- A path that leads to a file with the given text. -/
structure Holds (d : Disk) (p : Path) (text : String) : Prop where
  located : d.locate p = .ok (d.goal p)
  entry : d.entryAt? (d.goal p) = some (.file text.toUTF8)

theorem holds_of_store (h : d.store p text = some d') : d'.Holds p text := by
  rcases of_store h with ⟨hopen, hentry, rfl⟩
  have hgoal : (d.put (d.goal p) (.file text.toUTF8)).goal p = d.goal p := goal_congr (home_put _ _ _) p
  exact ⟨hgoal.symm ▸ locate_put hentry (of_openFile hopen).1, hgoal.symm ▸ entryAt?_put_self hentry⟩

namespace Holds

theorem readPlain (h : d.Holds p text) : d.readPlain p = .ok text := by
  unfold Disk.readPlain
  rw [h.located, ok_bind, h.entry]
  exact textOf_toUTF8 text

theorem isFile (h : d.Holds p text) : d.isFile p = .ok true := by
  unfold Disk.isFile look
  rw [h.located]
  dsimp only
  rw [h.entry]
  rfl

/-- A file that was left alone still has its text. -/
theorem of_lasts (h : d.Holds p text) (hlasts : Lasts d d')
    (hentry : d'.entryAt? (d.goal p) = d.entryAt? (d.goal p)) : d'.Holds p text := by
  have hgoal : d'.goal p = d.goal p := goal_congr hlasts.home p
  exact ⟨hgoal.symm ▸ hlasts.locate h.located, hgoal.symm ▸ hentry.trans h.entry⟩

end Holds

/-! ### Places without a file -/

theorem free_of_entries (h : ∀ entry ∈ d.entries, entry.1 = place → entry.2.isFile = false) : d.Free place := by
  intro content hentry
  unfold entryAt? at hentry
  split_ifs at hentry with habove
  · cases hentry
  · rcases List.lookup_eq_some_iff.1 hentry with ⟨before, later, hentries, -⟩
    have hfile := h (place, .file content) (by rw [hentries]; simp) rfl
    cases hfile

/-- Where no file stands, none is found. -/
theorem Free.not_isFile (h : d.Free (d.goal p)) : d.isFile p ≠ .ok true := by
  intro hfile
  rcases bind_eq_ok_iff.1 hfile with ⟨found, hlook, hany⟩
  unfold look at hlook
  cases hlocate : d.locate p with
  | error fault =>
      rw [hlocate] at hlook
      cases fault <;> cases hlook <;> cases hany
  | ok location =>
      rw [hlocate, eq_goal_of_locate hlocate] at hlook
      cases hlook
      rcases hentry : d.entryAt? (d.goal p) with _ | _ | content
      · rw [hentry] at hany
        cases hany
      · rw [hentry] at hany
        cases hany
      · exact h content hentry

/-! ## Log files -/

/-- A log file that is there and can be opened. -/
structure LogsTo (d : Disk) (p : Path) (place : List String) : Prop where
  opened : d.openFile (d.absolute p) = .ok place
  there : ∃ content, d.entryAt? place = some (.file content)

theorem exists_append_eq (d : Disk) (place : List String) (text : String) :
    ∃ content, d.append place text = d.put place (.file content) := by
  unfold append
  split
  · exact ⟨_, rfl⟩
  · exact ⟨_, rfl⟩

theorem lasts_append (h : d.entryAt? place ≠ some .directory) (text : String) : Lasts d (d.append place text) := by
  rcases exists_append_eq d place text with ⟨content, heq⟩
  rw [heq]
  exact lasts_put h content

/-- A log file stays open, whatever else is written. -/
theorem LogsTo.of_lasts (h : d.LogsTo p place) (hlasts : Lasts d d') : d'.LogsTo p place := by
  have habsolute : d'.absolute p = d.absolute p := by rw [absolute, absolute, hlasts.home]
  rcases hlasts.file h.there with ⟨content, hthere⟩
  refine ⟨?_, content, hthere⟩
  unfold openFile
  rw [habsolute, hlasts.locate (of_openFile h.opened).1, ok_bind, hthere]
  rfl

/-- A log file is open once something was written to it. -/
theorem logsTo_append (h : d.openFile (d.absolute p) = .ok place) (text : String) :
    (d.append place text).LogsTo p place := by
  rcases of_openFile h with ⟨hlocate, hentry⟩
  rcases exists_append_eq d place text with ⟨content, heq⟩
  have habsolute : (d.put place (.file content)).absolute p = d.absolute p := by
    rw [absolute, absolute, home_put]
  rw [heq]
  refine ⟨?_, content, entryAt?_put_self hentry⟩
  unfold openFile
  rw [habsolute, locate_put hentry hlocate, ok_bind, entryAt?_put_self hentry]
  rfl

end LevelPrep.Disk
