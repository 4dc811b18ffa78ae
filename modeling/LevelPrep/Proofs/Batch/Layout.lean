import LevelPrep.Proofs.Batch.Importing
import LevelPrep.Proofs.Level.Locality

/-!
# Where a batch writes

Every scene of a batch has a directory of its own in the output directory, which is its base; no two scenes have one
directory (`Named`).  Where the results of a scene lie there (`Spaced`), an import touches nothing but places below
its base and its log file (`Site.touches`).  In a `Layout` moreover no scene is read where another one writes: scene
files and catalogs lie elsewhere (`Secluded`).  Log files may lie anywhere; either each lies in the directory of its
scene, or all scenes share one (`Named.logPlace_cases`).
-/

namespace LevelPrep

open Disk

/-- A path that leads on from any directory, and never out of it. -/
structure Path.Inward (p : Path) : Prop where
  relative : p.isAbsolute = false
  inside : ∀ place, ∀ l ∈ Disk.ways place p.parts, place <+: l

theorem Path.Plain.inward {p : Path} (h : p.Plain) : p.Inward :=
  ⟨h.relative, fun _ _ hl => (mem_ways_of_plain h.forth hl).1⟩

/-- A path that starts from the home directory where it is read as one. -/
def Path.LeadsHome (p : Path) : Prop :=
  p.anchor = .relative ∧ p.parts.head? = some "~"

/-- A path that does not start from the home directory is read as it is, and so is every path in it. -/
theorem Path.expandOwnHome_append {p q : Path} (hhome : ¬p.LeadsHome) (hparts : p.parts ≠ [])
    (hq : q.isAbsolute = false) (home : Path) : (p ++ q).expandOwnHome home = p ++ q := by
  have happend : p ++ q = { p with parts := p.parts ++ q.parts } := by
    show Path.append p q = _
    simp [Path.append, hq]
  rw [happend]
  rcases p with ⟨anchor, parts⟩
  cases parts with
  | nil => exact absurd rfl hparts
  | cons first rest =>
      unfold expandOwnHome expandHome
      cases anchor with
      | root double => rfl
      | relative =>
          have hfirst : first ≠ "~" := fun h => hhome ⟨rfl, by rw [h]; rfl⟩
          simp only [List.cons_append, hfirst, if_false]
          split_ifs <;> rfl

/-! ## Sites -/

/-- The disk that a batch starts from, its output directory, and the name of its log files. -/
structure Site where
  disk : Disk
  out : Path
  log : Path

namespace Site

variable (site : Site)

/-- The directory of a scene. -/
def directory (file : Path) : Path :=
  site.out.child file.stem

/-- The place of the directory of a scene. -/
def base (file : Path) : List String :=
  site.disk.goal (site.directory file)

/-- The places on the way to the output directory. -/
def approach : List (List String) :=
  site.disk.trail site.out

/-- The place of the log file of a scene. -/
def logPlace (file : Path) : List String :=
  site.disk.goal (site.directory file ++ site.log)

/-- Whether a place is one where results of a scene go: below its base, or its log file. -/
def holds (file : Path) (l : List String) : Bool :=
  (site.base file).isPrefixOf l || l == site.logPlace file

/-- Whether a place is one that an import of a scene may change. -/
def touches (file : Path) (l : List String) : Bool :=
  ((site.base file).isPrefixOf l && !site.approach.contains l) || l == site.logPlace file

/-- Whether a place is one that an import of some of the scenes may change. -/
def touched (files : List Path) (l : List String) : Bool :=
  files.any (site.touches · l)

/-- Whether a place may differ where a scene is imported after others: it is one that they may change, or the log
file of the scene. -/
def differs (others : List Path) (file : Path) (l : List String) : Bool :=
  site.touched others l || l == site.logPlace file

/-- The disk on which a scene is imported: with its directory and its log file. -/
def prepared (d : Disk) (file : Path) : Disk :=
  (d.founded (site.approach ++ [site.base file])).append (site.logPlace file) ""

theorem touches_iff {file : Path} {l : List String} : site.touches file l = true ↔
    (site.base file <+: l ∧ l ∉ site.approach) ∨ l = site.logPlace file := by
  simp [touches, List.isPrefixOf_iff_prefix]

theorem holds_of_touches {file : Path} {l : List String} (h : site.touches file l = true) :
    site.holds file l = true := by
  rcases site.touches_iff.1 h with ⟨hbase, -⟩ | rfl
  · simp [holds, List.isPrefixOf_iff_prefix.2 hbase]
  · simp [holds]

theorem touched_iff {files : List Path} {l : List String} : site.touched files l = true ↔
    ∃ file ∈ files, site.touches file l = true := by
  simp [touched]

theorem differs_iff {others : List Path} {file : Path} {l : List String} : site.differs others file l = true ↔
    site.touched others l = true ∨ l = site.logPlace file := by
  simp [differs]

/-- A path that leads on from the directory of a scene leads below its base. -/
theorem base_prefix_goal (file : Path) {name : Path} (hname : name.Inward) :
    site.base file <+: site.disk.goal (site.directory file ++ name) := by
  refine hname.inside _ _ ?_
  unfold goal
  rw [origin_append _ hname.relative, parts_append hname.relative, ahead_append]
  exact ahead_mem_ways _ _

/-- A scene is kept apart from a directory that is not where its results go, and that they do not lie in. -/
theorem apart {file root : Path} (htrail : ∀ place ∈ site.disk.trail root, site.holds file place = false)
    (habove : site.holds file (site.disk.goal root).dropLast = false)
    (hbase : (site.base file).dropLast ≠ site.disk.goal root)
    (hlog : (site.logPlace file).dropLast ≠ site.disk.goal root) : site.disk.Apart (site.holds file) root := by
  refine ⟨htrail, habove, fun name => ?_⟩
  have hgoal : site.holds file (site.disk.goal root) = false :=
    htrail _ (ahead_mem_ways _ _)
  simp only [holds, Bool.or_eq_false_iff] at hgoal ⊢
  refine ⟨Bool.eq_false_iff.2 fun hprefix => ?_, by simpa using fun heq => hlog (by rw [← heq]; simp)⟩
  rcases List.prefix_concat_iff.1 (List.isPrefixOf_iff_prefix.1 hprefix) with heq | hbefore
  · exact hbase (by rw [heq]; simp)
  · rw [List.isPrefixOf_iff_prefix.2 hbefore] at hgoal
    exact absurd hgoal.1 (by simp)

end Site

/-! ## Layouts -/

/-- A batch whose scenes have different stems, none of which leads nowhere or back from the output directory, so that
each has a directory of its own in it. -/
structure Named (i : Importer) (site : Site) (files : List Path) : Prop where
  directory : i.plan.output.directory.asPath = .ok site.out
  logFile : pathEnd i.plan.output.logFile = .ok site.log
  grounded : site.disk.Grounded
  stems : (files.map Path.stem).Nodup
  part : ∀ file ∈ files, Path.isPart file.stem = true
  forth : ∀ file ∈ files, file.stem ≠ ".."

/-- A batch whose directories and log files can be made, and lie outside of the scene files and the catalogs. -/
structure Secluded (i : Importer) (site : Site) (files : List Path) : Prop extends Named i site files where
  made : ∀ file ∈ files, ∃ made place, site.disk.makeDirectory (site.directory file) = .ok made ∧
    made.openFile (made.absolute (site.directory file ++ site.log)) = .ok place
  inputs : ∀ file ∈ files, ∀ other ∈ files, ∀ place ∈ site.disk.trail file, site.holds other place = false
  catalogs : ∀ entry ∈ i.processor.settings.catalogs, ∀ root, entry.2.directory site.disk.home = .ok root →
    ∀ file ∈ files, site.disk.Apart (site.holds file) root

/-- A batch whose scene trees and exported scenes lie in the directories of their scenes. -/
structure Spaced (i : Importer) (site : Site) (files : List Path) : Prop extends Named i site files where
  tree : i.plan.scene.saveSceneTree.isSet = true → ∀ name, pathEnd i.plan.output.sceneTreeFile = .ok name →
    name.Inward ∧ ∀ file ∈ files, site.disk.goal (site.directory file ++ name) ≠ site.logPlace file
  glb : i.plan.scene.saveGlb.isSet = true → ∀ name, pathEnd i.plan.output.glbFile = .ok name →
    name.Inward ∧ ∀ file ∈ files, ¬(site.directory file).LeadsHome

/-- A batch whose scenes are kept apart: no scene is read where results go, and the results of each go to places of
its own. -/
structure Layout (i : Importer) (site : Site) (files : List Path) : Prop extends Spaced i site files,
  Secluded i site files

/-- A batch with names for scene trees and exported scenes that lead to files of their own in the directories of
their scenes. -/
structure Filed (i : Importer) (site : Site) (files : List Path) : Prop extends Named i site files where
  tree : ∀ name, pathEnd i.plan.output.sceneTreeFile = .ok name →
    name.Inward ∧ ∀ file ∈ files, site.disk.goal (site.directory file ++ name) ≠ site.logPlace file
  glb : ∀ name, pathEnd i.plan.output.glbFile = .ok name →
    name.Inward ∧ ∀ file ∈ files, site.disk.goal (site.directory file ++ name) ≠ site.logPlace file
  distinct : ∀ tree glb, pathEnd i.plan.output.sceneTreeFile = .ok tree → pathEnd i.plan.output.glbFile = .ok glb →
    ∀ file ∈ files, site.disk.goal (site.directory file ++ tree) ≠ site.disk.goal (site.directory file ++ glb)
  leads : i.plan.scene.saveGlb.isSet = true → ∀ file ∈ files, ¬(site.directory file).LeadsHome

theorem Filed.spaced {i : Importer} {site : Site} {files : List Path} (h : Filed i site files) :
    Spaced i site files :=
  { h with tree := fun _ => h.tree, glb := fun hset name hname => ⟨(h.glb name hname).1, h.leads hset⟩ }

namespace Named

variable {i : Importer} {site : Site} {files : List Path} {file other : Path} {l : List String}

section

variable (h : Named i site files)
include h

theorem base_eq (hfile : file ∈ files) : site.base file = site.disk.goal site.out ++ [file.stem] :=
  goal_child _ _ (h.part file hfile) (h.forth file hfile)

theorem trail_directory (hfile : file ∈ files) :
    site.disk.trail (site.directory file) = site.approach ++ [site.base file] := by
  rw [Site.directory, trail_child _ _ (h.part file hfile), h.base_eq hfile, next, if_neg (h.forth file hfile)]
  rfl

theorem parts_directory_ne_nil (hfile : file ∈ files) : (site.directory file).parts ≠ [] := by
  rw [Site.directory, Path.child_of_isPart (h.part file hfile)]
  simp

/-- No place is below the bases of two scenes. -/
theorem eq_of_prefix (hfile : file ∈ files) (hother : other ∈ files) (hbase : site.base file <+: l)
    (hbase' : site.base other <+: l) : file = other := by
  rw [h.base_eq hfile] at hbase
  rw [h.base_eq hother] at hbase'
  have hlength : (site.disk.goal site.out ++ [file.stem]).length =
      (site.disk.goal site.out ++ [other.stem]).length := by simp
  have hsame := List.prefix_of_prefix_length_le hbase hbase' hlength.le
  have hstem : file.stem = other.stem := by
    have heq := hsame.eq_of_length hlength
    simpa using heq
  exact List.inj_on_of_nodup_map h.stems hfile hother hstem

end

end Named

namespace Secluded

variable {i : Importer} {site : Site} {files : List Path} {file : Path} {l : List String}

section

variable (h : Secluded i site files)
include h

/-- The directory of a scene can be made, and then its log file can be opened. -/
theorem openFile_log (hfile : file ∈ files) :
    site.disk.makeDirectory (site.directory file) =
        .ok (site.disk.founded (site.approach ++ [site.base file])) ∧
      (site.disk.founded (site.approach ++ [site.base file])).openFile
        (site.disk.absolute (site.directory file ++ site.log)) = .ok (site.logPlace file) := by
  rcases h.made file hfile with ⟨made, place, hmade, hopen⟩
  have hspec := (makeDirectory_spec hmade).2.1
  rw [h.trail_directory hfile] at hspec
  have hhome := home_founded site.disk (site.approach ++ [site.base file])
  have habsolute : made.absolute (site.directory file ++ site.log) =
      site.disk.absolute (site.directory file ++ site.log) := by
    rw [hspec, absolute, absolute, hhome]
  have hplace := eq_goal_of_openFile hopen
  rw [habsolute, hspec, goal_congr hhome, goal_absolute h.grounded] at hplace
  rw [habsolute, hspec, hplace] at hopen
  exact ⟨hspec ▸ hmade, hopen⟩

/-- All directories on the way to the base of a scene are there once it was made. -/
theorem entryAt?_approach (hfile : file ∈ files) (hl : l ∈ site.approach ++ [site.base file]) :
    (site.disk.founded (site.approach ++ [site.base file])).entryAt? l = some .directory := by
  have hstands := (makeDirectory_spec (h.openFile_log hfile).1).2.2
  refine hstands l ?_
  rwa [trail_congr (home_founded _ _), h.trail_directory hfile]

/-- A log file lies neither on the way to the base of its scene nor there. -/
theorem logPlace_notMem (hfile : file ∈ files) : site.logPlace file ∉ site.approach ++ [site.base file] := by
  intro hl
  exact (of_openFile (h.openFile_log hfile).2).2 (h.entryAt?_approach hfile hl)

end

end Secluded

/-- Parts that are followed from below one place or another: they stay below, or lead to the same place. -/
theorem Disk.ahead_cases (place : List String) (parts : List String) : ∀ below : List String,
    (∃ later, ∀ x, ahead (place ++ x :: below) parts = place ++ x :: later) ∨
      ∃ goal, ∀ x, ahead (place ++ x :: below) parts = goal := by
  induction parts with
  | nil => exact fun below => Or.inl ⟨below, fun _ => rfl⟩
  | cons part rest ih =>
      intro below
      by_cases hpart : part = ".."
      · -- a way back leads out of the place below exactly if nothing is left of it
        rcases List.eq_nil_or_concat below with rfl | ⟨front, last, rfl⟩
        · refine Or.inr ⟨ahead place rest, fun x => ?_⟩
          rw [ahead_cons, next, if_pos hpart, List.dropLast_concat]
        · have hnext : ∀ x, ahead (place ++ x :: (front ++ [last])) (part :: rest) =
              ahead (place ++ x :: front) rest := by
            intro x
            rw [ahead_cons, next, if_pos hpart, show place ++ x :: (front ++ [last]) =
              (place ++ x :: front) ++ [last] by simp, List.dropLast_concat]
          simpa only [List.concat_eq_append, hnext] using ih front
      · have hnext : ∀ x, ahead (place ++ x :: below) (part :: rest) =
            ahead (place ++ x :: (below ++ [part])) rest := by
          intro x
          rw [ahead_cons, next, if_neg hpart, show (place ++ x :: below) ++ [part] =
            place ++ x :: (below ++ [part]) by simp]
        simpa only [hnext] using ih (below ++ [part])

namespace Named

variable {i : Importer} {site : Site} {files : List Path} {file other : Path} {l : List String}
variable (h : Named i site files)
include h

/-- Each log file lies below the base of its scene, or all are one. -/
theorem logPlace_cases : (∀ file ∈ files, site.base file <+: site.logPlace file) ∨
    ∀ file ∈ files, ∀ other ∈ files, site.logPlace file = site.logPlace other := by
  cases habsolute : site.log.isAbsolute with
  | true =>
      have hshared : ∀ file, site.logPlace file = site.disk.goal site.log := by
        intro file
        unfold Site.logPlace
        rw [show site.directory file ++ site.log = site.log from if_pos habsolute]
      exact Or.inr fun file _ other _ => by rw [hshared, hshared]
  | false =>
      have hplace : ∀ file ∈ files, site.logPlace file =
          ahead (site.disk.goal site.out ++ file.stem :: []) site.log.parts := by
        intro file hfile
        rw [← h.base_eq hfile]
        show ahead (site.disk.origin (site.directory file ++ site.log)) _ = _
        rw [origin_append _ habsolute, parts_append habsolute, ahead_append]
        rfl
      rcases ahead_cases (site.disk.goal site.out) site.log.parts [] with ⟨later, hlater⟩ | ⟨goal, hgoal⟩
      · refine Or.inl fun file hfile => ?_
        rw [hplace file hfile, hlater, h.base_eq hfile]
        exact ⟨later, by simp⟩
      · exact Or.inr fun file hfile other hother => by
          rw [hplace file hfile, hplace other hother, hgoal, hgoal]

/-- A path that leads on from the directory of a scene leads through the approach and below the base of its scene. -/
theorem mem_trail_inward (hfile : file ∈ files) {name : Path} (hname : name.Inward)
    (hl : l ∈ site.disk.trail (site.directory file ++ name)) : l ∈ site.approach ∨ site.base file <+: l := by
  unfold trail at hl
  rw [origin_append _ hname.relative, parts_append hname.relative, mem_ways_append] at hl
  rcases hl with hl | hl
  · have hdirectory : l ∈ site.disk.trail (site.directory file) := hl
    rw [h.trail_directory hfile] at hdirectory
    rcases List.mem_append.1 hdirectory with hl | hl
    · exact Or.inl hl
    · exact Or.inr (List.mem_singleton.1 hl ▸ List.prefix_rfl)
  · exact Or.inr (hname.inside _ _ hl)

/-- Read from the working directory, such a path leads through places above and below the base of its scene. -/
theorem mem_trail_absolute {name : Path} (hname : name.Inward)
    (hl : l ∈ site.disk.trail (site.disk.absolute (site.directory file ++ name))) :
    site.base file <+: l ∨ l <+: site.base file := by
  have hgoal := site.base_prefix_goal file hname
  exact List.prefix_or_prefix_of_prefix hgoal (prefix_of_mem_trail_absolute h.grounded hl)

/-- Above and below the base of a scene, other scenes touch nothing but its log file. -/
theorem eq_logPlace_of_touches (hfile : file ∈ files) (hother : other ∈ files) (hne : other ≠ file)
    (hl : site.base file <+: l ∨ l <+: site.base file) (htouches : site.touches other l = true) :
    l = site.logPlace file := by
  -- nothing above the base of one scene is below that of another
  have hbelow : ¬site.base other <+: l := by
    intro hbase
    rcases hl with hl | hl
    · exact hne (h.eq_of_prefix hother hfile hbase hl)
    · exact hne (h.eq_of_prefix hother hfile (hbase.trans hl) List.prefix_rfl)
  rcases site.touches_iff.1 htouches with ⟨hbase, -⟩ | rfl
  · exact absurd hbase hbelow
  · rcases h.logPlace_cases with hown | hshared
    · exact absurd (hown other hother) hbelow
    · exact hshared other hother file hfile

end Named

/-- On the way to the base of a scene, other scenes touch nothing at all. -/
theorem Secluded.touches_approach {i : Importer} {site : Site} {files : List Path} {other : Path} {l : List String}
    (h : Secluded i site files) (hother : other ∈ files) (hl : l ∈ site.approach) : site.touches other l = false := by
  cases htouches : site.touches other l with
  | false => rfl
  | true =>
      rcases site.touches_iff.1 htouches with ⟨-, hnot⟩ | rfl
      · exact absurd hl hnot
      · exact absurd (List.mem_append_left _ hl) (h.logPlace_notMem hother)

end LevelPrep
