import LevelPrep.Proofs.Batch.Logging
import LevelPrep.Proofs.Batch.Separation

/-!
# Scenes of a batch on their own

A scene comes to the same in every batch, whatever the scenes before it have come to: what counts is the disk that
the batch started from (`Settled`).  An attempt settles its scene (`Underway.exists_attempt`) and leaves the others
as they are, so a whole batch settles all of its scenes (`Underway.exists_attempts`).
-/

namespace LevelPrep

open Disk

/-! ## Directories and log files -/

namespace Disk

variable {d d' : Disk} {p : Path} {place l : List String} {places : List (List String)}

/-- A directory that stands once others were made was there or is one of them. -/
theorem directory_of_founded (h : (d.founded places).entryAt? l = some .directory) :
    d.entryAt? l = some .directory ∨ l ∈ places := by
  induction places generalizing d with
  | nil => exact Or.inl h
  | cons place rest ih =>
      rcases ih h with hold | hin
      · rw [entryAt?_withDirectory] at hold
        split_ifs at hold with hl
        · exact Or.inr (hl ▸ List.mem_cons_self)
        · exact Or.inl hold
      · exact Or.inr (List.mem_cons_of_mem _ hin)

/-- Where a directory was made, something stands. -/
theorem exists_entry_founded (h : l ∈ places) : ∃ entry, (d.founded places).entryAt? l = some entry := by
  induction places generalizing d with
  | nil => cases h
  | cons place rest ih =>
      rcases List.mem_cons.1 h with rfl | hin
      · have hfirst : (d.withDirectory l).entryAt? l = some ((d.entryAt? l).getD .directory) := by
          rw [entryAt?_withDirectory, if_pos rfl]
        exact ⟨_, entryAt?_founded_of_some rest hfirst⟩
      · exact ih hin

/-- A file can still be opened where all directories on the way have lasted. -/
theorem openFile_of_directories (h : d.openFile p = .ok place) (hhome : d'.home = d.home)
    (hlasts : ∀ l, d.entryAt? l = some .directory → d'.entryAt? l = some .directory)
    (hplace : d'.entryAt? place ≠ some .directory) : d'.openFile p = .ok place := by
  rcases of_openFile h with ⟨hlocate, -⟩
  rcases locate_eq_ok_iff.1 hlocate with ⟨rfl, hfits, hplaces⟩
  have hlocate' : d'.locate p = .ok (d.goal p) := by
    refine locate_eq_ok_iff.2 ⟨(goal_congr hhome p).symm, hfits, fun l hl => hlasts l (hplaces l ?_)⟩
    rwa [origin_congr hhome] at hl
  unfold openFile
  rw [hlocate', ok_bind]
  split
  · next hdirectory => exact absurd hdirectory hplace
  · rfl

end Disk

/-! ## Scenes that were attempted -/

/-- Scenes without repetitions, parted into those that were attempted and those that are left. -/
structure Parted (files done rest : List Path) : Prop where
  attempted : ∀ file ∈ done, file ∈ files
  left : ∀ file ∈ rest, file ∈ files
  nodup : (done ++ rest).Nodup

namespace Parted

variable {files done rest : List Path} {file : Path}

theorem start (h : files.Nodup) : Parted files [] files :=
  ⟨by simp, fun _ hfile => hfile, h⟩

variable (h : Parted files done (file :: rest))
include h

theorem mem : file ∈ files :=
  h.left file List.mem_cons_self

/-- Those that were attempted before a scene are other ones. -/
theorem earlier : ∀ other ∈ done, other ∈ files ∧ other ≠ file := by
  intro other hother
  refine ⟨h.attempted other hother, ?_⟩
  rintro rfl
  exact (List.nodup_append.1 h.nodup).2.2 other hother other List.mem_cons_self rfl

/-- Those that are attempted after a scene are other ones. -/
theorem later : ∀ other ∈ rest, other ∈ files ∧ other ≠ file := by
  intro other hother
  refine ⟨h.left other (List.mem_cons_of_mem _ hother), ?_⟩
  rintro rfl
  exact (List.nodup_cons.1 (List.nodup_append.1 h.nodup).2.1).1 hother

theorem step : Parted files (done ++ [file]) rest := by
  refine ⟨fun other hother => ?_, fun other hother => (h.later other hother).1, by simpa using h.nodup⟩
  rcases List.mem_append.1 hother with hother | hother
  · exact h.attempted other hother
  · exact List.mem_singleton.1 hother ▸ h.mem

end Parted

/-- A scene that came to what it comes to at the start of a batch: its outcome is the same, and so are the files in
its directory, but for its log file. -/
structure Settled (i : Importer) (site : Site) (file : Path) (outcome : Except Fault Unit) (d : Disk) : Prop where
  outcome : outcome.toOption.isSome = (i.result file (site.directory file) (site.prepared site.disk file)).1
  files : ∀ name : Path, name.Inward → site.disk.goal (site.directory file ++ name) ≠ site.logPlace file →
    d.look (site.directory file ++ name) =
      (i.result file (site.directory file) (site.prepared site.disk file)).2.look (site.directory file ++ name)
  log : ∃ content, d.entryAt? (site.logPlace file) = some (.file content)

/-- What attempts of scenes change: their own places. -/
structure Changes (site : Site) (files : List Path) (d d' : Disk) : Prop where
  agree : Agree (site.touched files) (d.founded site.approach) (d'.founded site.approach)
  lasts : Lasts d d'

/-- A batch of which some scenes were attempted: only these have left anything behind. -/
structure Underway (site : Site) (done : List Path) (b : Batch) : Prop where
  inOrder : b.session.InOrder
  handlers : b.router.handlers = [.console]
  changes : Changes site done site.disk b.session.disk
  logs : ∀ file ∈ done, ∃ content, b.session.disk.entryAt? (site.logPlace file) = some (.file content)

theorem Changes.trans {site : Site} {files others : List Path} {d d' d'' : Disk} (h : Changes site files d d')
    (h' : Changes site others d' d'') : Changes site (files ++ others) d d'' := by
  have hmore : ∀ some : List Path, (∀ file ∈ some, file ∈ files ++ others) → ∀ l, site.touched some l = true →
      site.touched (files ++ others) l = true := by
    intro some hsome l hl
    rcases site.touched_iff.1 hl with ⟨file, hfile, htouches⟩
    exact site.touched_iff.2 ⟨file, hsome file hfile, htouches⟩
  exact ⟨(h.agree.mono (hmore files fun _ => List.mem_append_left _)).trans
    (h'.agree.mono (hmore others fun _ => List.mem_append_right _)), h.lasts.trans h'.lasts⟩

namespace Changes

variable {site : Site} {others : List Path} {place : List String} {d d' : Disk}

/-- What stands at a place that was not touched still stands there. -/
theorem entryAt?_eq (h : Changes site others d d') (hplace : site.touched others place = false) {entry : Entry}
    (hentry : d.entryAt? place = some entry) : d'.entryAt? place = some entry := by
  rcases h.lasts.kind place entry hentry with ⟨new, hnew, -⟩
  have hagree := h.agree.entryAt?_eq hplace
  rw [entryAt?_founded_of_some _ hentry, entryAt?_founded_of_some _ hnew] at hagree
  rw [hnew, hagree]

/-- No file comes to a place that was not touched. -/
theorem free (h : Changes site others d d') (hplace : site.touched others place = false) (hfree : d.Free place) :
    d'.Free place := by
  intro content hentry
  have hagree := h.agree.entryAt?_eq hplace
  rw [entryAt?_founded_of_some _ hentry] at hagree
  exact hfree.founded _ content hagree.symm

end Changes

/-- Attempts of other scenes leave alone what lies in the directory of a scene and is not its log file. -/
theorem Named.touched_eq_false {i : Importer} {site : Site} {files others : List Path} {file : Path}
    {place : List String} (h : Named i site files) (hfile : file ∈ files)
    (hothers : ∀ other ∈ others, other ∈ files ∧ other ≠ file) (hbase : site.base file <+: place)
    (hlog : place ≠ site.logPlace file) : site.touched others place = false := by
  cases htouched : site.touched others place with
  | false => rfl
  | true =>
      rcases site.touched_iff.1 htouched with ⟨other, hother, htouches⟩
      rcases hothers other hother with ⟨hin, hne⟩
      exact absurd (h.eq_logPlace_of_touches hfile hin hne (Or.inl hbase) htouches) hlog

namespace Layout

variable {i : Importer} {site : Site} {files done : List Path} {file : Path} {d d' : Disk} {l : List String}

/-- Attempts of other scenes leave the way to the base of a scene alone. -/
theorem touched_way (h : Layout i site files) (hfile : file ∈ files) {others : List Path}
    (hothers : ∀ other ∈ others, other ∈ files ∧ other ≠ file) (hl : l ∈ site.approach ++ [site.base file]) :
    site.touched others l = false := by
  rcases List.mem_append.1 hl with happroach | hbase
  · rw [Site.touched, List.any_eq_false]
    intro other hother
    rw [h.touches_approach (hothers other hother).1 happroach]
    exact Bool.false_ne_true
  · refine h.touched_eq_false hfile hothers (List.mem_singleton.1 hbase ▸ List.prefix_rfl) ?_
    rintro rfl
    exact h.logPlace_notMem hfile hl

/-- A scene stays settled while other scenes are attempted. -/
theorem settled_of_changes (h : Layout i site files) (hfile : file ∈ files) {others : List Path}
    (hothers : ∀ other ∈ others, other ∈ files ∧ other ≠ file) {outcome : Except Fault Unit}
    (hsettled : Settled i site file outcome d) (hhome : d.home = site.disk.home)
    (hstands : ∀ l ∈ site.approach, d.entryAt? l = some .directory) (hchanges : Changes site others d d') :
    Settled i site file outcome d' := by
  have hlog' := hchanges.lasts.file hsettled.log
  refine ⟨hsettled.outcome, fun name hname hne => ?_, hlog'⟩
  rw [← hsettled.files name hname hne]
  -- the approach stands already, so that making it changes neither disk
  have hkept : ∀ e : Disk, (∀ l ∈ site.approach, e.entryAt? l = some .directory) → e.founded site.approach = e :=
    fun e he => founded_of_present fun l hl => by rw [he l hl]; rfl
  have hagree := hchanges.agree
  rw [hkept d hstands, hkept d' fun l hl => hchanges.lasts.directory (hstands l hl)] at hagree
  have hdiffers : Agree (site.differs others file) d d' :=
    hagree.mono fun l hl => site.differs_iff.2 (Or.inl hl)
  exact h.look_eq hfile hothers hhome hdiffers hsettled.log hlog' hname hne

end Layout

/-! ## Attempts -/

namespace Underway

variable {i : Importer} {site : Site} {files done : List Path} {file : Path} {b : Batch}

variable (h : Layout i site files) (hdone : ∀ other ∈ done, other ∈ files ∧ other ≠ file) (hfile : file ∈ files)
  (hb : Underway site done b)
include h hdone hfile hb

omit h hdone hfile in
theorem home_eq : b.session.disk.home = site.disk.home :=
  hb.changes.lasts.home

/-- The directory of the next scene can be made. -/
theorem makeDirectory_eq : b.session.disk.makeDirectory (site.directory file) =
    .ok (b.session.disk.founded (site.approach ++ [site.base file])) := by
  rw [← h.trail_directory hfile]
  refine makeDirectory_again (h.openFile_log hfile).1 hb.home_eq fun l hl hfree => ?_
  rw [h.trail_directory hfile] at hl
  exact hb.changes.free (h.touched_way hfile hdone hl) hfree

/-- No directory came to the place of its log file: that is one that was opened before, or nobody has touched it. -/
theorem logPlace_ne_directory :
    (b.session.disk.founded (site.approach ++ [site.base file])).entryAt? (site.logPlace file) ≠
      some .directory := by
  -- untouched, the place is as it was when the log file could be opened; touched, it is the place of another
  -- log file, and that one is there
  cases htouched : site.touched done (site.logPlace file) with
  | false =>
      have hagree := hb.changes.agree.founded [site.base file]
      rw [← founded_append, ← founded_append] at hagree
      rw [hagree.entryAt?_eq htouched]
      exact (of_openFile (h.openFile_log hfile).2).2
  | true =>
      rcases site.touched_iff.1 htouched with ⟨other, hother, htouches⟩
      rcases hdone other hother with ⟨hin, hne⟩
      have hshared : site.logPlace file = site.logPlace other := by
        rcases h.logPlace_cases with hown | hall
        · rcases site.touches_iff.1 htouches with ⟨hbase, -⟩ | hsame
          · exact absurd (h.eq_of_prefix hin hfile hbase (hown file hfile)) hne
          · exact hsame
        · exact hall file hfile other hin
      rcases hb.logs other hother with ⟨content, hcontent⟩
      rw [hshared, entryAt?_founded_of_some _ hcontent]
      simp

/-- Once the directory of the next scene was made, its log file can be opened. -/
theorem openFile_log : (b.session.disk.founded (site.approach ++ [site.base file])).openFile
    ((b.session.disk.founded (site.approach ++ [site.base file])).absolute (site.directory file ++ site.log)) =
      .ok (site.logPlace file) := by
  have hstands := (makeDirectory_spec (makeDirectory_eq h hdone hfile hb)).2.2
  have hhome := home_founded b.session.disk (site.approach ++ [site.base file])
  have habsolute : (b.session.disk.founded (site.approach ++ [site.base file])).absolute
      (site.directory file ++ site.log) = site.disk.absolute (site.directory file ++ site.log) := by
    rw [absolute, absolute, hhome, hb.home_eq]
  rw [habsolute]
  refine openFile_of_directories (h.openFile_log hfile).2 ?_ (fun l hl => ?_)
    (logPlace_ne_directory h hdone hfile hb)
  · rw [hhome, home_founded, hb.home_eq]
  · rcases directory_of_founded hl with hold | hin
    · exact entryAt?_founded_of_some _ (hb.changes.lasts.directory hold)
    · refine hstands l ?_
      rwa [trail_congr (hhome.trans hb.home_eq), h.trail_directory hfile]

end Underway

section

variable {i : Importer} {site : Site} {files done : List Path} {file : Path} {d d' : Disk}

/-- A disk on which the directory of a scene was made and its log file can be opened, and what the import of the
scene has made of it; the log file was written to. -/
structure Visited (i : Importer) (site : Site) (file : Path) (d d' : Disk) : Prop where
  home : d.home = site.disk.home
  stands : ∀ l ∈ site.approach, (d.founded (site.approach ++ [site.base file])).entryAt? l = some .directory
  place : (d.founded (site.approach ++ [site.base file])).entryAt? (site.logPlace file) ≠ some .directory
  agree : Agree (· == site.logPlace file) (i.result file (site.directory file) (site.prepared d file)).2 d'
  lasts : Lasts (i.result file (site.directory file) (site.prepared d file)).2 d'

namespace Visited

variable (hvisited : Visited i site file d d')
include hvisited

theorem lasts_prepared : Lasts (d.founded (site.approach ++ [site.base file])) (site.prepared d file) :=
  lasts_append hvisited.place ""

theorem log_prepared : ∃ content, (site.prepared d file).entryAt? (site.logPlace file) = some (.file content) := by
  rcases exists_append_eq (d.founded (site.approach ++ [site.base file])) (site.logPlace file) "" with ⟨content, heq⟩
  exact ⟨content, by rw [Site.prepared, heq, entryAt?_put_self hvisited.place]⟩

theorem home_prepared : (site.prepared d file).home = site.disk.home :=
  hvisited.lasts_prepared.home.trans ((home_founded _ _).trans hvisited.home)

theorem lasts_end : Lasts (site.prepared d file) d' :=
  (i.lasts_result _ _ _).trans hvisited.lasts

theorem stands_end : ∀ l ∈ site.approach, d'.entryAt? l = some .directory := fun l hl =>
  hvisited.lasts_end.directory (hvisited.lasts_prepared.directory (hvisited.stands l hl))

/-- The import of a scene changes nothing but its own places. -/
theorem changes (h : Spaced i site files) (hfile : file ∈ files) : Changes site [file] d d' := by
  have htouched : site.touched [file] = site.touches file := by
    funext l
    simp [Site.touched]
  have hlog : site.touches file (site.logPlace file) = true := site.touches_iff.2 (Or.inr rfl)
  -- the directory is made, the log file opened, the results stored, and the log closed: each of these stays
  -- with the places of the scene
  have hbase : Agree (site.touches file) (d.founded site.approach)
      (d.founded (site.approach ++ [site.base file])) := by
    rw [founded_append]
    refine agree_withDirectory _ fun hnone => site.touches_iff.2 (Or.inl ⟨List.prefix_rfl, fun hin => ?_⟩)
    rcases exists_entry_founded (d := d) hin with ⟨entry, hentry⟩
    cases hentry.symm.trans hnone
  have hopened : Agree (site.touches file) (d.founded (site.approach ++ [site.base file])) (site.prepared d file) :=
    agree_append hlog _ _
  have hresult := h.agree_result hfile hvisited.home_prepared
    fun l hl => hvisited.lasts_prepared.directory (hvisited.stands l hl)
  have hlast : Agree (site.touches file) _ d' := hvisited.agree.mono fun l hl => by
    rw [show l = site.logPlace file by simpa using hl]
    exact hlog
  have hkept : d'.founded site.approach = d' := founded_of_present fun l hl => by
    rw [hvisited.stands_end l hl]
    rfl
  refine ⟨?_, (lasts_founded _ _).trans (hvisited.lasts_prepared.trans hvisited.lasts_end)⟩
  rw [htouched, hkept]
  exact ((hbase.trans hopened).trans hresult).trans hlast

/-- The import of a scene settles it, wherever other scenes have left their places. -/
theorem settled (h : Layout i site files) (hfile : file ∈ files)
    (hdone : ∀ other ∈ done, other ∈ files ∧ other ≠ file) (hload : i.processor.tools.LoadsAlone)
    (hagree : Agree (site.touched done) (site.disk.founded site.approach) (d.founded site.approach))
    {outcome : Except Fault Unit}
    (houtcome : (i.result file (site.directory file) (site.prepared d file)).1 = outcome.toOption.isSome) :
    Settled i site file outcome d' := by
  have hopen := (h.openFile_log hfile).2
  have hplace := (of_openFile hopen).2
  -- the same scene, imported before all others
  have hself : Visited i site file site.disk (i.result file (site.directory file) (site.prepared site.disk file)).2 :=
    ⟨rfl, fun l hl => h.entryAt?_approach hfile (List.mem_append_left _ hl), hplace, .refl _ _, .refl _⟩
  have hprepared : Agree (site.differs done file) (site.prepared site.disk file) (site.prepared d file) := by
    have hfounded := hagree.founded [site.base file]
    rw [← founded_append, ← founded_append] at hfounded
    have hmade : Agree (site.differs done file) _ _ :=
      hfounded.mono fun l hl => site.differs_iff.2 (Or.inl hl)
    have hlog : site.differs done file (site.logPlace file) = true := site.differs_iff.2 (Or.inr rfl)
    exact ((agree_append hlog _ _).symm.trans hmade).trans (agree_append hlog _ _)
  have hsame := h.sameResult hfile hdone hself.home_prepared hprepared hself.log_prepared hvisited.log_prepared hload
  have hlast : Agree (site.differs done file) _ d' :=
    hvisited.agree.mono fun l hl => site.differs_iff.2 (Or.inr (by simpa using hl))
  have hend := hsame.2.trans hlast
  have hlogs := hself.lasts_end.file hself.log_prepared
  have hlogs' := hvisited.lasts_end.file hvisited.log_prepared
  have hhome := hself.lasts_end.home.trans hself.home_prepared
  exact ⟨houtcome.symm.trans hsame.1, fun name hname hne =>
    h.look_eq hfile hdone hhome hend hlogs hlogs' hname hne, hlogs'⟩

end Visited

end

namespace Underway

variable {i : Importer} {site : Site} {files done : List Path} {file : Path} {b : Batch}

/-- An attempt of the next scene settles it, and changes nothing but its own places. -/
theorem exists_attempt (h : Layout i site files) (hdone : ∀ other ∈ done, other ∈ files ∧ other ≠ file)
    (hfile : file ∈ files) (hb : Underway site done b) (hi : i.Sound) (hload : i.processor.tools.LoadsAlone) :
    ∃ outcome b', (BatchWork.attemptScene i.processor i.plan file).runIn b = (.ok outcome, b') ∧
      Settled i site file outcome b'.session.disk ∧ Underway site (done ++ [file]) b' ∧
      Changes site [file] b.session.disk b'.session.disk ∧
      (∀ l ∈ site.approach, b'.session.disk.entryAt? l = some .directory) ∧ b'.output = b.output := by
  have hmake := makeDirectory_eq h hdone hfile hb
  have hopen := openFile_log h hdone hfile hb
  rcases BatchWork.attempted_of_attemptScene hi hb.inOrder hb.handlers h.directory h.logFile hmake hopen with
    ⟨outcome, b', hrun, houtcome, hattempted⟩
  have hvisited : Visited i site file b.session.disk b'.session.disk := by
    refine ⟨hb.home_eq, fun l hl => ?_, (of_openFile hopen).2, hattempted.agree, hattempted.lasts⟩
    refine (makeDirectory_spec hmake).2.2 l ?_
    rw [trail_congr ((home_founded _ _).trans hb.home_eq), h.trail_directory hfile]
    exact List.mem_append_left _ hl
  have hchanges := hvisited.changes h.toSpaced hfile
  have hsettled := hvisited.settled h hfile hdone hload hb.changes.agree houtcome
  refine ⟨outcome, b', hrun, hsettled, ⟨hattempted.inOrder, hattempted.handlers, hb.changes.trans hchanges, ?_⟩,
    hchanges, hvisited.stands_end, hattempted.output⟩
  -- the log files of the scenes before are still there, and so is the new one
  intro other hother
  rcases List.mem_append.1 hother with hother | hother
  · exact hchanges.lasts.file (hb.logs other hother)
  · rw [List.mem_singleton.1 hother]
    exact hsettled.log

/-- Scenes that are attempted one after another are all settled. -/
theorem exists_attempts (h : Layout i site files) (hi : i.Sound) (hload : i.processor.tools.LoadsAlone)
    (total number : Nat) {rest : List Path} (hparted : Parted files done rest) (hb : Underway site done b) :
    ∃ attempts b', BatchWork.Attempts i.processor i.plan total number rest attempts b b' ∧
      List.Forall₂ (fun file attempt => Settled i site file attempt.outcome b'.session.disk) rest attempts ∧
      Changes site rest b.session.disk b'.session.disk ∧
      b'.output = (b.printed (headings total number rest)).output := by
  induction rest generalizing done b number with
  | nil => exact ⟨[], b, .nil, .nil, ⟨.refl _ _, .refl _⟩, rfl⟩
  | cons file rest ih =>
      have hprinted : Underway site done (b.printed [heading total number file]) :=
        ⟨hb.inOrder, hb.handlers, hb.changes, hb.logs⟩
      obtain ⟨outcome, b₁, hattempt, hsettled, hunderway, hchanges, hstands, houtput⟩ :=
        exists_attempt h hparted.earlier hparted.mem hprinted hi hload
      rcases ih (number + 1) hparted.step hunderway with ⟨attempts, b', hattempts, hall, hlater, hlast⟩
      refine ⟨_ :: attempts, b', .cons hattempt hattempts, .cons ?_ hall, hchanges.trans hlater, ?_⟩
      · -- the scenes that follow are other ones
        exact h.settled_of_changes hparted.mem hparted.later hsettled hunderway.changes.lasts.home hstands hlater
      · have hsame : (b₁.printed (headings total (number + 1) rest)).output =
            ((b.printed [heading total number file]).printed (headings total (number + 1) rest)).output := by
          unfold Batch.printed
          dsimp only
          rw [houtput]
          rfl
        rw [hlast, hsame, Batch.printed_printed]
        rfl

end Underway

end LevelPrep
