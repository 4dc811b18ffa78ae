import LevelPrep.Proofs.Disk.Files
import LevelPrep.Scene.File

/-!
# Where paths lead

A path is followed part by part from the root of the file system or the working directory on.  The places on the way
are its trail (`Disk.trail`), which is told by the path and the working directory alone, and the last of them is its
goal (`Disk.goal`).  Where a path leads depends on nothing but the working directory and the kinds of what stands on
the trail (`SameWay`), and what is found there on what stands at the goal besides (`SameAlong`).
-/

namespace LevelPrep

/-! ## Places on the way -/

namespace Disk

/-- The place that a part of a path leads to. -/
def next (place : List String) (part : String) : List String :=
  if part = ".." then place.dropLast else place ++ [part]

/-- The places that parts lead through from a place on, that place first. -/
def ways : (place parts : List String) → List (List String)
  | place, [] => [place]
  | place, part :: rest => place :: ways (next place part) rest

/-- The place that parts lead to from a place on. -/
def ahead (place parts : List String) : List String :=
  parts.foldl next place

@[simp] theorem ahead_nil (place : List String) : ahead place [] = place :=
  rfl

@[simp] theorem ahead_cons (place : List String) (part : String) (rest : List String) :
    ahead place (part :: rest) = ahead (next place part) rest :=
  rfl

theorem ahead_append (place parts more : List String) :
    ahead place (parts ++ more) = ahead (ahead place parts) more :=
  List.foldl_append

theorem mem_ways_self (place parts : List String) : place ∈ ways place parts := by
  cases parts <;> exact List.mem_cons_self

theorem ahead_mem_ways (place parts : List String) : ahead place parts ∈ ways place parts := by
  induction parts generalizing place with
  | nil => exact List.mem_cons_self
  | cons part rest ih => exact List.mem_cons_of_mem _ (ih _)

theorem ways_snoc (place parts : List String) (part : String) :
    ways place (parts ++ [part]) = ways place parts ++ [next (ahead place parts) part] := by
  induction parts generalizing place with
  | nil => rfl
  | cons other rest ih => exact congrArg (place :: ·) (ih _)

theorem mem_ways_append {place parts more : List String} {l : List String} :
    l ∈ ways place (parts ++ more) ↔ l ∈ ways place parts ∨ l ∈ ways (ahead place parts) more := by
  induction parts generalizing place with
  | nil =>
      have hself := mem_ways_self place more
      simp only [List.nil_append, ahead_nil, ways, List.mem_singleton]
      refine ⟨Or.inr, ?_⟩
      rintro (rfl | h)
      · exact hself
      · exact h
  | cons part rest ih =>
      rw [List.cons_append, ways, ways, List.mem_cons, List.mem_cons, ih, or_assoc]
      rfl

/-- Parts that lead nowhere back are put behind a place. -/
theorem ahead_of_plain {parts : List String} (h : ".." ∉ parts) (place : List String) :
    ahead place parts = place ++ parts := by
  induction parts generalizing place with
  | nil => simp
  | cons part rest ih =>
      rw [List.mem_cons, not_or] at h
      rw [ahead_cons, ih h.2, next, if_neg (Ne.symm h.1)]
      simp

/-- Parts that lead nowhere back lead through places below the first and above the last. -/
theorem mem_ways_of_plain {parts place l : List String} (h : ".." ∉ parts) (hl : l ∈ ways place parts) :
    place <+: l ∧ l <+: place ++ parts := by
  induction parts generalizing place with
  | nil =>
      rw [ways, List.mem_singleton] at hl
      rw [hl, List.append_nil]
      exact ⟨List.prefix_rfl, List.prefix_rfl⟩
  | cons part rest ih =>
      rw [List.mem_cons, not_or] at h
      rcases List.mem_cons.1 hl with rfl | hl
      · exact ⟨List.prefix_rfl, List.prefix_append _ _⟩
      · rw [next, if_neg (Ne.symm h.1)] at hl
        rcases ih h.2 hl with ⟨hbelow, habove⟩
        rw [List.append_assoc] at habove
        exact ⟨(List.prefix_append _ _).trans hbelow, habove⟩

/-- Following parts from a place without a way back in it leads to such a place. -/
theorem back_notMem_ahead {parts place : List String} (h : ".." ∉ place) : ".." ∉ ahead place parts := by
  induction parts generalizing place with
  | nil => exact h
  | cons part rest ih =>
      refine ih ?_
      unfold next
      split_ifs with hpart
      · exact fun hmem => h (List.dropLast_subset place hmem)
      · rw [List.mem_append, List.mem_singleton, not_or]
        exact ⟨h, Ne.symm hpart⟩

/-! ## Trails -/

/-- The place that a path starts from. -/
def origin (d : Disk) (p : Path) : List String :=
  if p.isAbsolute then [] else d.home.parts

/-- The places that a path leads through, from its origin to its goal. -/
def trail (d : Disk) (p : Path) : List (List String) :=
  ways (d.origin p) p.parts

/-- The place that a path leads to. -/
def goal (d : Disk) (p : Path) : List String :=
  ahead (d.origin p) p.parts

/-- A working directory as it is: an absolute path without a way back in it. -/
structure Grounded (d : Disk) : Prop where
  absolute : d.home.isAbsolute = true
  plain : ".." ∉ d.home.parts

variable {d d' : Disk} {p q : Path} {place : List String}

theorem goal_mem_trail (d : Disk) (p : Path) : d.goal p ∈ d.trail p :=
  ahead_mem_ways _ _

theorem trail_child (d : Disk) (p : Path) {name : String} (h : Path.isPart name = true) :
    d.trail (p.child name) = d.trail p ++ [next (d.goal p) name] := by
  rw [Path.child_of_isPart h]
  exact ways_snoc _ _ _

/-- A name that leads on from a directory leads to a place right below it. -/
theorem goal_child (d : Disk) (p : Path) {name : String} (h : Path.isPart name = true) (hforth : name ≠ "..") :
    d.goal (p.child name) = d.goal p ++ [name] := by
  rw [Path.child_of_isPart h]
  show ahead (d.origin p) (p.parts ++ [name]) = _
  rw [ahead_append, ahead_cons, ahead_nil, next, if_neg hforth]
  rfl

end Disk

/-- A path that leads on from any directory, and nowhere back: the name of a file in it, or in a directory in
it. -/
structure Path.Plain (p : Path) : Prop where
  relative : p.isAbsolute = false
  forth : ".." ∉ p.parts

namespace Disk

variable {d d' : Disk} {p q : Path} {place : List String}

theorem origin_append (d : Disk) (h : q.isAbsolute = false) : d.origin (p ++ q) = d.origin p := by
  have happend : p ++ q = { p with parts := p.parts ++ q.parts } := by
    show Path.append p q = _
    simp [Path.append, h]
  rw [happend]
  rfl

theorem parts_append (h : q.isAbsolute = false) : (p ++ q).parts = p.parts ++ q.parts := by
  show (Path.append p q).parts = _
  simp [Path.append, h]

/-! ### Read from the working directory -/

theorem isAbsolute_absolute (hd : d.Grounded) (p : Path) : (d.absolute p).isAbsolute = true := by
  show (Path.append d.home p).isAbsolute = true
  unfold Path.append
  split_ifs with h
  · exact h
  · exact hd.absolute

/-- Read from the working directory, a path is its goal. -/
theorem parts_absolute (hd : d.Grounded) (p : Path) : (d.absolute p).parts = d.goal p := by
  show ahead [] (Path.append d.home p).parts = _
  unfold Path.append goal origin
  split_ifs with h
  · rfl
  · rw [ahead_append, ahead_of_plain hd.plain]
    rfl

theorem back_notMem_goal (hd : d.Grounded) (p : Path) : ".." ∉ d.goal p := by
  refine back_notMem_ahead ?_
  unfold origin
  split_ifs
  · simp
  · exact hd.plain

theorem goal_absolute (hd : d.Grounded) (p : Path) : d.goal (d.absolute p) = d.goal p := by
  have hplain := back_notMem_goal hd p
  unfold goal origin
  rw [isAbsolute_absolute hd, if_pos rfl, parts_absolute hd, ahead_of_plain hplain]
  rfl

/-- Read from the working directory, a path leads through the places above its goal. -/
theorem prefix_of_mem_trail_absolute (hd : d.Grounded) (h : place ∈ d.trail (d.absolute p)) :
    place <+: d.goal p := by
  have hplain := back_notMem_goal hd p
  unfold trail origin at h
  rw [isAbsolute_absolute hd, if_pos rfl, parts_absolute hd] at h
  exact (mem_ways_of_plain hplain h).2

/-! ## What depends on a trail -/

/-- Two disks with the same working directory on which the same kinds of entries stand along the trail of a path. -/
structure SameWay (d d' : Disk) (p : Path) : Prop where
  home : d'.home = d.home
  kinds : ∀ place ∈ d.trail p, (d'.entryAt? place).map Entry.isFile = (d.entryAt? place).map Entry.isFile

/-- Two such disks on which the path leads to the same entry. -/
structure SameAlong (d d' : Disk) (p : Path) : Prop extends SameWay d d' p where
  goal : d'.entryAt? (d.goal p) = d.entryAt? (d.goal p)

/-- Where the entries are the same, so are their kinds. -/
theorem sameAlong_of_entries (home : d'.home = d.home)
    (entries : ∀ place ∈ d.trail p, d'.entryAt? place = d.entryAt? place) : SameAlong d d' p :=
  ⟨⟨home, fun place hplace => by rw [entries place hplace]⟩, entries _ (goal_mem_trail d p)⟩

theorem follow_congr {shown : String} {parts : List String}
    (h : ∀ l ∈ ways place parts, (d'.entryAt? l).map Entry.isFile = (d.entryAt? l).map Entry.isFile) :
    d'.follow shown place parts = d.follow shown place parts := by
  induction parts generalizing place with
  | nil => rfl
  | cons part rest ih =>
      have hnext := ih fun l hl => h l (List.mem_cons_of_mem place hl)
      unfold next at hnext
      have hplace := h place List.mem_cons_self
      unfold follow
      -- only the kinds of the entries tell how to go on
      rcases hold : d.entryAt? place with _ | _ | content <;>
        rcases hnew : d'.entryAt? place with _ | _ | content' <;>
        rw [hold, hnew] at hplace <;> try cases hplace
      dsimp only
      split_ifs with hlong hback
      · rfl
      · rwa [if_pos hback] at hnext
      · rwa [if_neg hback] at hnext

/-- A path that can be followed leads to its goal. -/
theorem eq_ahead_of_follow {shown : String} {parts location : List String}
    (h : d.follow shown place parts = .ok location) : location = ahead place parts := by
  induction parts generalizing place with
  | nil =>
      cases h
      rfl
  | cons part rest ih =>
      unfold follow at h
      rw [ahead_cons, next]
      split at h
      · cases h
      · cases h
      · split_ifs at h ⊢
        · exact ih h
        · exact ih h

theorem eq_goal_of_locate {location : List String} (h : d.locate p = .ok location) : location = d.goal p := by
  unfold locate at h
  split_ifs at h with _ _ habsolute
  · have hgoal := eq_ahead_of_follow h
    rwa [goal, origin, if_pos habsolute]
  · have hgoal := eq_ahead_of_follow h
    rwa [goal, origin, if_neg habsolute]

theorem eq_goal_of_openFile {location : List String} (h : d.openFile p = .ok location) : location = d.goal p :=
  eq_goal_of_locate (of_openFile h).1

theorem SameWay.locate_eq (h : SameWay d d' p) : d'.locate p = d.locate p := by
  unfold locate
  rw [h.home]
  split_ifs with _ _ habsolute
  · rfl
  · rfl
  · refine follow_congr fun l hl => h.kinds l ?_
    rwa [trail, origin, if_pos habsolute]
  · refine follow_congr fun l hl => h.kinds l ?_
    rwa [trail, origin, if_neg habsolute]

/-- Whether a file can be opened depends on nothing but the kinds of what stands on the way. -/
theorem SameWay.openFile_eq (h : SameWay d d' p) : d'.openFile p = d.openFile p := by
  unfold openFile
  rw [h.locate_eq]
  cases hlocate : d.locate p with
  | error fault => rfl
  | ok location =>
      have hkind := h.kinds location (eq_goal_of_locate hlocate ▸ goal_mem_trail d p)
      rw [ok_bind, ok_bind]
      rcases hold : d.entryAt? location with _ | _ | content <;>
        rcases hnew : d'.entryAt? location with _ | _ | content' <;>
        rw [hold, hnew] at hkind <;> first | rfl | cases hkind

namespace SameAlong

variable (h : SameAlong d d' p)
include h

/-- What stands where the path leads to. -/
theorem entryAt?_eq {location : List String} (hlocate : d.locate p = .ok location) :
    d'.entryAt? location = d.entryAt? location := by
  rw [eq_goal_of_locate hlocate]
  exact h.goal

theorem look_eq : d'.look p = d.look p := by
  unfold look
  rw [h.locate_eq]
  cases hlocate : d.locate p with
  | ok location => exact congrArg Except.ok (h.entryAt?_eq hlocate)
  | error fault => cases fault <;> rfl

theorem isFile_eq : d'.isFile p = d.isFile p := by
  unfold isFile
  rw [h.look_eq]

theorem isDirectory_eq : d'.isDirectory p = d.isDirectory p := by
  unfold isDirectory
  rw [h.look_eq]

theorem readPlain_eq : d'.readPlain p = d.readPlain p := by
  unfold readPlain
  rw [h.locate_eq]
  cases hlocate : d.locate p with
  | ok location =>
      rw [ok_bind, ok_bind, h.entryAt?_eq hlocate]
  | error fault => rfl

/-- A scene file is loaded from nothing but itself. -/
theorem load_eq : SceneFile.load d' p = SceneFile.load d p := by
  have habsolute : d'.absolute p = d.absolute p := by rw [absolute, absolute, h.home]
  have hread : ∀ format, SceneFile.readAs d' p format = SceneFile.readAs d p format := by
    intro format
    unfold SceneFile.readAs SceneFile.readDocument readText
    rw [h.readPlain_eq]
  unfold SceneFile.load
  rw [h.isFile_eq, habsolute, hread]

end SameAlong

end Disk

end LevelPrep
