import LevelPrep.Proofs.Batch.Returning

/-!
# Scenes of a batch do not depend on each other

Where the results of every scene lie in a directory of its own, a batch returns normally, having attempted every
scene in order, and each scene comes to the same as in a batch of its own (`scenes_independent`).  Scenes with
different stems are not enough for this: a file name that leads out of the directory of a scene can make one scene
depend on another (`not_independent_escapingName`).
-/

namespace LevelPrep

open BatchWork

/-- A batch with a valid configuration that skips scenes that fail; its scenes have different stems, and its
directories and log files can be made and lie outside of scene files and catalogs. -/
structure Arranged (tools : Tools Float) (config : Config) (start : Batch) (i : Importer) (site : Site)
    (files : List Path) : Prop extends Started tools config start i files, Secluded i site files where
  skips : i.plan.scene.skipFailed.isSet = true
  loads : tools.LoadsAlone
  disk : start.session.disk = site.disk

/-- What a scene comes to in a batch, it comes to in every batch of its own that differs from this one in nothing but
where its scenes come from: it succeeds in both or in neither, and its scene tree is the same. -/
def ComesToSame (tools : Tools Float) (start finish : Batch) (i : Importer) (site : Site) (file : Path)
    (attempt : Attempt) : Prop :=
  ∀ (config : Config) (input : InputPlan), Plan.ofConfig config = .ok { i.plan with input } →
    input.sceneFiles start.session.disk = .ok [file] →
    ∃ alone finish', Ran tools config i.processor { i.plan with input } [file] [alone] start finish' ∧
      alone.outcome.toOption.isSome = attempt.outcome.toOption.isSome ∧
      (i.plan.scene.saveSceneTree.isSet = true → ∀ name, pathEnd i.plan.output.sceneTreeFile = .ok name →
        finish'.session.disk.look (site.directory file ++ name) =
          finish.session.disk.look (site.directory file ++ name))

/-- A batch returns normally, having attempted its scenes in order and reported those that raised, and none of them
depends on another. -/
def Isolates (tools : Tools Float) (config : Config) (start : Batch) (i : Importer) (site : Site)
    (files : List Path) : Prop :=
  ∃ attempts finish, Ran tools config i.processor i.plan files attempts start finish ∧
    finish.output = (start.printed (announcement files ++ headings files.length 1 files ++
      report files (raised files attempts))).output ∧
    List.Forall₂ (ComesToSame tools start finish i site) files attempts

section

variable {i : Importer} {site : Site} {files : List Path} {file : Path}

/-! ## One scene -/

theorem Named.single (h : Named i site files) (hfile : file ∈ files) : Named i site [file] :=
  ⟨h.directory, h.logFile, h.grounded, by simp, fun other hother => h.part other (by simp_all),
    fun other hother => h.forth other (by simp_all)⟩

theorem Secluded.single (h : Secluded i site files) (hfile : file ∈ files) : Secluded i site [file] := by
  have hone : ∀ other ∈ [file], other ∈ files := fun other hother => List.mem_singleton.1 hother ▸ hfile
  exact ⟨h.toNamed.single hfile, fun other hother => h.made other (hone other hother),
    fun read hread written hwritten => h.inputs read (hone read hread) written (hone written hwritten),
    fun entry hentry root hroot other hother => h.catalogs entry hentry root hroot other (hone other hother)⟩

theorem Spaced.single (h : Spaced i site files) (hfile : file ∈ files) : Spaced i site [file] := by
  have hone : ∀ other ∈ [file], other ∈ files := fun other hother => List.mem_singleton.1 hother ▸ hfile
  refine ⟨h.toNamed.single hfile, fun hset name hname => ?_, fun hset name hname => ?_⟩
  · rcases h.tree hset name hname with ⟨hinward, hlog⟩
    exact ⟨hinward, fun other hother => hlog other (hone other hother)⟩
  · rcases h.glb hset name hname with ⟨hinward, hleads⟩
    exact ⟨hinward, fun other hother => hleads other (hone other hother)⟩

end

namespace Arranged

variable {tools : Tools Float} {config : Config} {start : Batch} {i : Importer} {site : Site} {files : List Path}
  {file : Path}

/-! ## Whole batches -/

/-- An arranged batch whose results are kept apart returns normally and settles all of its scenes. -/
theorem exists_run (h : Arranged tools config start i site files) (hspaced : Spaced i site files) :
    ∃ attempts finish, Ran tools config i.processor i.plan files attempts start finish ∧
      List.Forall₂ (fun file attempt => Settled i site file attempt.outcome finish.session.disk) files attempts ∧
      finish.output = (start.printed (announcement files ++ headings files.length 1 files ++
        report files (raised files attempts))).output := by
  have hload : i.processor.tools.LoadsAlone := h.tools_eq ▸ h.loads
  have hlayout : Layout i site files := { hspaced, h.toSecluded with }
  -- before the first scene nobody's places have been touched
  have hunderway : Underway site [] (start.printed (announcement files)) := by
    refine ⟨h.inOrder, h.console, ?_, by simp⟩
    show Changes site [] site.disk start.session.disk
    rw [h.disk]
    exact ⟨.refl _ _, .refl _⟩
  rcases hunderway.exists_attempts hlayout h.sound hload files.length 1 (.start hlayout.stems.of_map) with
    ⟨attempts, last, hattempts, hsettled, -, houtput⟩
  refine ⟨attempts, last.printed (report files (raised files attempts)),
    ran_of_attempts h.plan h.processor h.skips h.scenes hattempts, hsettled, ?_⟩
  have hsame : (last.printed (report files (raised files attempts))).output =
      (((start.printed (announcement files)).printed (headings files.length 1 files)).printed
        (report files (raised files attempts))).output := by
    unfold Batch.printed at houtput ⊢
    dsimp only at houtput ⊢
    rw [houtput]
  rw [hsame, Batch.printed_printed, Batch.printed_printed, List.append_assoc]

/-- A batch of one of the scenes is arranged too. -/
theorem single (h : Arranged tools config start i site files) (hfile : file ∈ files) {config' : Config}
    {input : InputPlan} (hplan : Plan.ofConfig config' = .ok { i.plan with input })
    (hscenes : input.sceneFiles start.session.disk = .ok [file]) :
    Arranged tools config' start { i with plan := { i.plan with input } } site [file] :=
  have hone := h.toSecluded.single hfile
  { hone, h with
    plan := hplan, processor := h.processor, scenes := hscenes, skips := h.skips, unwraps := h.unwraps
    directory := hone.directory, logFile := hone.logFile
    stems := hone.stems, part := hone.part, forth := hone.forth
    made := hone.made, inputs := hone.inputs, catalogs := hone.catalogs }

/-- Scenes whose results are kept apart do not depend on each other. -/
theorem comesToSame (h : Arranged tools config start i site files) (hspaced : Spaced i site files)
    (hfile : file ∈ files) {attempt : Attempt} {finish : Batch}
    (hsettled : Settled i site file attempt.outcome finish.session.disk) :
    ComesToSame tools start finish i site file attempt := by
  intro config' input hplan hscenes
  have hone := hspaced.single hfile
  have hspaced' : Spaced { i with plan := { i.plan with input } } site [file] :=
    { hone with directory := hone.directory, logFile := hone.logFile, tree := hone.tree, glb := hone.glb }
  rcases (h.single hfile hplan hscenes).exists_run hspaced' with ⟨attempts, finish', hran, hall, -⟩
  obtain ⟨alone, rest, halone, hrest, rfl⟩ := List.forall₂_cons_left_iff.1 hall
  rw [List.forall₂_nil_left_iff] at hrest
  subst hrest
  -- what is made of the scene does not depend on where scenes come from
  have hsame : Settled i site file alone.outcome finish'.session.disk := ⟨halone.outcome, halone.files, halone.log⟩
  refine ⟨alone, finish', hran, hsame.outcome.trans hsettled.outcome.symm, fun hset name hname => ?_⟩
  rcases hspaced.tree hset name hname with ⟨hinward, hlog⟩
  rw [hsame.files name hinward (hlog file hfile), hsettled.files name hinward (hlog file hfile)]

end Arranged

variable {tools : Tools Float} {config : Config} {start : Batch} {i : Importer} {site : Site} {files : List Path}

/-- Where the results of every scene lie in a directory of its own, no scene of a batch depends on another. -/
theorem scenes_independent (h : Arranged tools config start i site files) (hspaced : Spaced i site files) :
    Isolates tools config start i site files := by
  rcases h.exists_run hspaced with ⟨attempts, finish, hran, hsettled, houtput⟩
  refine ⟨attempts, finish, hran, houtput, ?_⟩
  have hall := (List.forall₂_and_left _ _).2 ⟨fun file (hfile : file ∈ files) => hfile, hsettled⟩
  exact hall.imp fun file attempt hboth => h.comesToSame hspaced hboth.1 hboth.2

/-! ### A broken scene and a good one -/

def workHome : Path :=
  Path.ofText "/w"

/-- The document of a scene of which the root has the given nodes below it. -/
def sceneText (children : String) : String :=
  "\x7b\"format\":\"sceneTree\",\"version\":\"sceneTree@1.0\",\"root\":\x7b\"type\":\"Node3D\",\"name\":\"A\"," ++
    "\"children\":[" ++ children ++ "]\x7d\x7d"

/-- The default configuration for the given scenes, with a name for scene trees, and with or without exports. -/
def batchConfig (tree : String) (exports : Bool) (scenes : List String) : Config :=
  let changes := .obj [
    ("import_plan", .obj [
      ("input_cfg", .obj [("root_dir", .str "in"), ("scene_list", .arr (scenes.map .str))]),
      ("output_cfg", .obj [("output_dir", .str "out"), ("scene_tree_file_name", .str tree)])]),
    ("scene", .obj [("save_glb", .bool exports)])]
  (Plan.configure workHome changes).toOption.getD { root := .null, environment := [] }

/-- A disk with a scene that cannot be read and one that can. -/
def pairDisk : Disk where
  home := workHome
  entries := [
    (["w", "in"], .directory),
    (["w", "in", "Broken.json"], .file "Broken".toUTF8),
    (["w", "in", "Good.json"], .file (sceneText "").toUTF8)]

def pairConfig (tree : String) (scenes : List String) : Config :=
  batchConfig tree false scenes

def pairSite : Site where
  disk := pairDisk
  out := Path.ofText "out"
  log := Path.ofText "import.log"

def brokenFile : Path :=
  Path.ofText "/w/in/Broken.json"

def goodFile : Path :=
  Path.ofText "/w/in/Good.json"

/-- What an importer of some of the two scenes has to be like. -/
def SuitsPair (tree : String) (files : List Path) (i : Importer) : Prop :=
  (i.plan.input.sceneFiles pairDisk).toOption = some files ∧ i.plan.scene.skipFailed.isSet = true ∧
  i.plan.output.directory.asPath.toOption = some pairSite.out ∧
  (pathEnd i.plan.output.logFile).toOption = some pairSite.log ∧
  (∀ entry ∈ i.processor.settings.catalogs, ∀ root ∈ (entry.2.directory pairDisk.home).toOption,
    ∀ file ∈ [brokenFile, goodFile],
      (∀ place ∈ pairDisk.trail root, pairSite.holds file place = false) ∧
      pairSite.holds file (pairDisk.goal root).dropLast = false ∧
      (pairSite.base file).dropLast ≠ pairDisk.goal root ∧ (pairSite.logPlace file).dropLast ≠ pairDisk.goal root) ∧
  i.plan.scene.saveSceneTree.isSet = true ∧ i.plan.scene.saveGlb.isSet = false ∧
  (pathEnd i.plan.output.sceneTreeFile).toOption = some (Path.ofText tree) ∧
  (pathEnd i.plan.output.glbFile).toOption = some (Path.ofText "scene.glb")

instance (tree : String) (files : List Path) (i : Importer) : Decidable (SuitsPair tree files i) :=
  inferInstanceAs (Decidable (_ ∧ _))

/-- A batch of some of the two scenes is arranged. -/
theorem exists_arranged_pair {tree : String} {scenes : List String} {files : List Path}
    (hfiles : files.Sublist [brokenFile, goodFile])
    (hsuits : (Importer.standard? (pairConfig tree scenes)).any (SuitsPair tree files ·) = true) :
    ∃ i, Arranged Tools.standard (pairConfig tree scenes) (.new pairDisk) i pairSite files ∧
      SuitsPair tree files i := by
  rcases (Option.any_eq_true _ _).1 hsuits with ⟨i, hi, hchecked⟩
  have hpair := of_decide_eq_true hchecked
  obtain ⟨hscenes, hskip, hdirectory, hlog, hcatalogs, -⟩ := of_decide_eq_true hchecked
  rw [toOption_eq_some_iff] at hscenes hdirectory hlog
  have hsite : ([brokenFile, goodFile].map Path.stem).Nodup ∧ ∀ file ∈ [brokenFile, goodFile],
      (Path.isPart file.stem = true ∧ file.stem ≠ "..") ∧
      ((pairDisk.makeDirectory (pairSite.directory file)).toOption.any fun made =>
        (made.openFile (made.absolute (pairSite.directory file ++ pairSite.log))).toOption.isSome) = true ∧
      ∀ other ∈ [brokenFile, goodFile], ∀ place ∈ pairDisk.trail file, pairSite.holds other place = false := by
    decide +kernel
  rcases hsite with ⟨hstems, hsite⟩
  refine ⟨i, { started_of_standard? hi hscenes with
    directory := hdirectory, logFile := hlog, grounded := ⟨rfl, by decide⟩
    stems := (hfiles.map _).nodup hstems
    part := fun file hfile => (hsite file (hfiles.subset hfile)).1.1
    forth := fun file hfile => (hsite file (hfiles.subset hfile)).1.2
    made := fun file hfile => ?_
    inputs := fun file hfile other hother => (hsite file (hfiles.subset hfile)).2.2 other (hfiles.subset hother)
    catalogs := fun entry hentry root hroot file hfile => ?_
    skips := hskip, loads := Tools.loadsAlone_of_eq rfl, disk := rfl }, hpair⟩
  · rcases (Option.any_eq_true _ _).1 (hsite file (hfiles.subset hfile)).2.1 with ⟨made, hmade, hopen⟩
    rcases Option.isSome_iff_exists.1 hopen with ⟨place, hplace⟩
    rw [toOption_eq_some_iff] at hmade hplace
    exact ⟨made, place, hmade, hplace⟩
  · rcases hcatalogs entry hentry root (toOption_eq_some_iff.2 hroot) file (hfiles.subset hfile) with
      ⟨htrail, habove, hbase, hlast⟩
    exact pairSite.apart htrail habove hbase hlast

/-- With plain names, the results of the two scenes lie in their directories. -/
theorem filed_pair {i : Importer} (h : Named i pairSite [brokenFile, goodFile])
    (hsuits : SuitsPair "scene_tree.json" [brokenFile, goodFile] i) : Filed i pairSite [brokenFile, goodFile] := by
  obtain ⟨-, -, -, -, -, -, hsave, htree, hglb⟩ := hsuits
  rw [toOption_eq_some_iff] at htree hglb
  have hplain : (Path.ofText "scene_tree.json").Plain ∧ (Path.ofText "scene.glb").Plain :=
    ⟨⟨by decide, by decide⟩, ⟨by decide, by decide⟩⟩
  refine ⟨h, fun name hname => ?_, fun name hname => ?_, fun tree glb hname hname' => ?_, fun hset => ?_⟩
  · cases htree.symm.trans hname
    exact ⟨hplain.1.inward, by decide +kernel⟩
  · cases hglb.symm.trans hname
    exact ⟨hplain.2.inward, by decide +kernel⟩
  · cases htree.symm.trans hname
    cases hglb.symm.trans hname'
    decide +kernel
  · rw [hsave] at hset
    cases hset

/-- A good scene next to one that cannot be read. -/
theorem scenes_independent_pair : ∃ i,
    Arranged Tools.standard (pairConfig "scene_tree.json" ["Broken.json", "Good.json"]) (.new pairDisk) i pairSite
      [brokenFile, goodFile] ∧
    Spaced i pairSite [brokenFile, goodFile] ∧
    Isolates Tools.standard (pairConfig "scene_tree.json" ["Broken.json", "Good.json"]) (.new pairDisk) i pairSite
      [brokenFile, goodFile] := by
  have hsuits : (Importer.standard? (pairConfig "scene_tree.json" ["Broken.json", "Good.json"])).any
      (SuitsPair "scene_tree.json" [brokenFile, goodFile] ·) = true := by decide +kernel
  rcases exists_arranged_pair (.refl _) hsuits with ⟨i, harranged, hpair⟩
  have hspaced := (filed_pair harranged.toNamed hpair).spaced
  exact ⟨i, harranged, hspaced, scenes_independent harranged hspaced⟩

/-- Scene trees with a name that leads into the directory of the broken scene: next to it the good scene is imported,
since its tree finds the directory there, and on its own it fails. -/
theorem not_independent_escapingName :
    (∃ i, Arranged Tools.standard (pairConfig "../Broken/tree.json" ["Broken.json", "Good.json"]) (.new pairDisk) i
      pairSite [brokenFile, goodFile]) ∧
    (∃ i, Arranged Tools.standard (pairConfig "../Broken/tree.json" ["Good.json"]) (.new pairDisk) i pairSite
      [goodFile]) ∧
    (runIn (run Tools.standard (pairConfig "../Broken/tree.json" ["Broken.json", "Good.json"]))
        (.new pairDisk)).2.output =
      ((Batch.new pairDisk).printed (announcement [brokenFile, goodFile] ++ headings 2 1 [brokenFile, goodFile] ++
        report [brokenFile, goodFile] [brokenFile])).output ∧
    (runIn (run Tools.standard (pairConfig "../Broken/tree.json" ["Good.json"])) (.new pairDisk)).2.output =
      ((Batch.new pairDisk).printed (announcement [goodFile] ++ headings 1 1 [goodFile] ++
        report [goodFile] [goodFile])).output := by
  have hboth : (Importer.standard? (pairConfig "../Broken/tree.json" ["Broken.json", "Good.json"])).any
      (SuitsPair "../Broken/tree.json" [brokenFile, goodFile] ·) = true := by decide +kernel
  have halone : (Importer.standard? (pairConfig "../Broken/tree.json" ["Good.json"])).any
      (SuitsPair "../Broken/tree.json" [goodFile] ·) = true := by decide +kernel
  rcases exists_arranged_pair (.refl _) hboth with ⟨i, harranged, -⟩
  rcases exists_arranged_pair (.cons _ (.refl _)) halone with ⟨i', harranged', -⟩
  exact ⟨⟨i, harranged⟩, ⟨i', harranged'⟩, by decide +kernel, by decide +kernel⟩

end LevelPrep
