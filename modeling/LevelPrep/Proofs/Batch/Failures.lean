import LevelPrep.Proofs.Batch.Independence

/-!
# What scenes that failed leave

A scene that failed has no exported scene, wherever it failed.  Its tree was saved already exactly if exporting is what
failed (`failed_leaves`): the tree is written before the scene is exported, and nothing takes it back
(`not_withoutOutput_emptyScene`).  So where a batch saves only one of the two, a scene that failed leaves nothing.
-/

namespace LevelPrep

open Disk BatchWork

/-- A scene that is made and saved, but cannot be exported. -/
def Importer.FailsToExport (i : Importer) (file directory : Path) (d : Disk) : Prop :=
  i.plan.scene.saveSceneTree.isSet = true ∧ i.plan.scene.saveGlb.isSet = true ∧ ∃ branch saved,
    i.processor.product i.bake d file = some branch ∧ i.savedTree directory branch d = some saved ∧
    i.exported directory branch saved = none

/-- What a scene leaves if it failed: no exported scene, and a tree only if it could not be exported. -/
structure LeavesAtMostTree (i : Importer) (site : Site) (d : Disk) (file : Path) (attempt : Attempt) : Prop where
  glb : ∀ name, pathEnd i.plan.output.glbFile = .ok name → d.isFile (site.directory file ++ name) ≠ .ok true
  tree : ∀ name, pathEnd i.plan.output.sceneTreeFile = .ok name →
    (d.isFile (site.directory file ++ name) = .ok true ↔
      i.FailsToExport file (site.directory file) (site.prepared attempt.before.session.disk file))

variable {i : Importer} {site : Site} {files : List Path} {file : Path} {d : Disk} {place : List String}

/-- What cannot be exported is to be exported. -/
theorem Importer.saveGlb_of_exported_eq_none {directory : Path} {branch : Branch Float}
    (h : i.exported directory branch d = none) : i.plan.scene.saveGlb.isSet = true := by
  unfold exported at h
  split_ifs at h with hset
  exact hset

/-- Where no file was before an import that fails, one is afterwards only if it is a tree that was saved. -/
theorem free_result (hhome : d.home = site.disk.home) (hfree : d.Free place)
    (hfailed : (i.result file (site.directory file) d).1 = false)
    (hplace : ∀ name, pathEnd i.plan.output.sceneTreeFile = .ok name →
      i.FailsToExport file (site.directory file) d → place ≠ site.disk.goal (site.directory file ++ name)) :
    (i.result file (site.directory file) d).2.Free place := by
  have hends := i.ends_result file (site.directory file) d
  generalize i.result file (site.directory file) d = result at hends hfailed ⊢
  -- however the import ended, it stored no more than the tree
  cases hends with
  | unmade => exact hfree
  | unsaved => exact hfree
  | imported => cases hfailed
  | @unexported branch saved hproduct hsaved hexported =>
      have hset := Importer.saveGlb_of_exported_eq_none hexported
      rcases Importer.savedTree_cases hsaved with ⟨-, rfl⟩ | ⟨name, htree, hname, hstore⟩
      · exact hfree
      · rcases of_store hstore with ⟨-, -, rfl⟩
        intro content hentry
        have hne := hplace name hname ⟨htree, hset, branch, _, hproduct, hsaved, hexported⟩
        rw [goal_congr hhome, entryAt?_put_of_ne hne] at hentry
        exact hfree content hentry

/-- A scene that cannot be exported leaves its tree. -/
theorem Importer.FailsToExport.holds_result {directory : Path} (h : i.FailsToExport file directory d) {name : Path}
    (hname : pathEnd i.plan.output.sceneTreeFile = .ok name) :
    ∃ text, (i.result file directory d).2.Holds (directory ++ name) text := by
  rcases h with ⟨htree, -, branch, saved, hproduct, hsaved, hexported⟩
  have hresult : (i.result file directory d).2 = saved := by
    unfold result
    rw [hproduct]
    dsimp only
    rw [hsaved]
    dsimp only
    rw [hexported]
  rcases savedTree_cases hsaved with ⟨hunset, -⟩ | ⟨tree, -, hname', hstore⟩
  · rw [htree] at hunset
    cases hunset
  · cases hname.symm.trans hname'
    exact ⟨_, hresult ▸ holds_of_store hstore⟩

variable {tools : Tools Float} {config : Config} {start finish : Batch}

/-- Where scenes have different stems and the output directories hold no files at first, a scene that failed leaves no
exported scene, and a tree only if exporting is what failed. -/
theorem failed_leaves (h : Started tools config start i files) (hdisk : start.session.disk = site.disk)
    (hfiled : Filed i site files)
    (hempty : ∀ file ∈ files, ∀ entry ∈ site.disk.entries, site.base file <+: entry.1 → entry.2.isFile = false)
    (hrun : (run tools config).runIn start = (.ok (), finish)) :
    ∃ attempts, Ran tools config i.processor i.plan files attempts start finish ∧
      List.Forall₂ (fun file attempt => attempt.outcome.toOption.isNone = true →
        LeavesAtMostTree i site finish.session.disk file attempt) files attempts := by
  rcases h.exists_occurs hfiled.spaced hdisk hrun with ⟨attempts, hran, hoccurs⟩
  have hall := (List.forall₂_and_left _ _).2 ⟨fun file (hfile : file ∈ files) => hfile, hoccurs⟩
  refine ⟨attempts, hran, hall.imp ?_⟩
  rintro file attempt ⟨hfile, after, hoccurs⟩ hfailed
  have hhome := hoccurs.visited.home_prepared
  have hresult : (i.result file (site.directory file) (site.prepared attempt.before.session.disk file)).1 = false := by
    rw [hoccurs.outcome]
    cases hoption : attempt.outcome.toOption with
    | none => rfl
    | some done =>
        rw [hoption] at hfailed
        cases hfailed
  -- a file is found in the directory only if the import has left it there
  have hnone : ∀ {name : Path}, name.Inward →
      site.disk.goal (site.directory file ++ name) ≠ site.logPlace file →
      (∀ tree, pathEnd i.plan.output.sceneTreeFile = .ok tree →
        i.FailsToExport file (site.directory file) (site.prepared attempt.before.session.disk file) →
        site.disk.goal (site.directory file ++ name) ≠ site.disk.goal (site.directory file ++ tree)) →
      finish.session.disk.isFile (site.directory file ++ name) ≠ .ok true := by
    intro name hinward hlog hne
    have hbase := site.base_prefix_goal file hinward
    have hfree := free_of_entries fun entry hentry heq => hempty file hfile entry hentry (heq ▸ hbase)
    have hprepared := hoccurs.free_prepared hfiled.toNamed hfile hbase hlog hfree
    have hleft := free_result hhome hprepared hresult hne
    have hfinish := hoccurs.free_finish hfiled.toNamed hfile hbase hlog hleft
    refine Free.not_isFile ?_
    rwa [goal_congr hoccurs.home_finish]
  constructor
  · intro name hname
    rcases hfiled.glb name hname with ⟨hinward, hlog⟩
    refine hnone hinward (hlog file hfile) fun tree htree _ => ?_
    exact (hfiled.distinct tree name htree hname file hfile).symm
  · intro name hname
    rcases hfiled.tree name hname with ⟨hinward, hlog⟩
    constructor
    · intro hthere
      by_contra hexports
      exact hnone hinward (hlog file hfile) (fun tree htree hfails => absurd hfails hexports) hthere
    · intro hfails
      rcases hfails.holds_result hname with ⟨text, hholds⟩
      exact (hoccurs.holds_finish hfiled.toNamed hfile hinward (hlog file hfile) hholds).isFile

/-- A scene that cannot be read, next to one that is imported. -/
theorem failed_leaves_pair : ∃ i finish,
    Started Tools.standard (pairConfig "scene_tree.json" ["Broken.json", "Good.json"]) (.new pairDisk) i
      [brokenFile, goodFile] ∧
    (Batch.new pairDisk).session.disk = pairSite.disk ∧ Filed i pairSite [brokenFile, goodFile] ∧
    (∀ file ∈ [brokenFile, goodFile], ∀ entry ∈ pairSite.disk.entries, pairSite.base file <+: entry.1 →
      entry.2.isFile = false) ∧
    (run Tools.standard (pairConfig "scene_tree.json" ["Broken.json", "Good.json"])).runIn (.new pairDisk) =
      (.ok (), finish) ∧
    ∃ attempts, Ran Tools.standard (pairConfig "scene_tree.json" ["Broken.json", "Good.json"]) i.processor i.plan
        [brokenFile, goodFile] attempts (.new pairDisk) finish ∧
      List.Forall₂ (fun file attempt => attempt.outcome.toOption.isNone = true →
        LeavesAtMostTree i pairSite finish.session.disk file attempt) [brokenFile, goodFile] attempts := by
  have hsuits : (Importer.standard? (pairConfig "scene_tree.json" ["Broken.json", "Good.json"])).any
      (SuitsPair "scene_tree.json" [brokenFile, goodFile] ·) = true := by decide +kernel
  have hempty : ∀ file ∈ [brokenFile, goodFile], ∀ entry ∈ pairSite.disk.entries, pairSite.base file <+: entry.1 →
      entry.2.isFile = false := by
    decide +kernel
  rcases exists_arranged_pair (.refl _) hsuits with ⟨i, harranged, hpair⟩
  have hfiled := filed_pair harranged.toNamed hpair
  rcases harranged.exists_run hfiled.spaced with ⟨attempts, finish, hran, -⟩
  exact ⟨i, finish, harranged.toStarted, rfl, hfiled, hempty, hran.run,
    failed_leaves harranged.toStarted rfl hfiled hempty hran.run⟩

/-- A scene without meshes, of which the tree is saved and the export fails: it is reported as failed, and its tree
stays. -/
theorem not_withoutOutput_emptyScene :
    ((Importer.standard? (batchConfig "scene_tree.json" true ["Good.json"])).any fun i =>
      (i.plan.input.sceneFiles pairDisk).toOption == some [goodFile] && i.plan.scene.saveSceneTree.isSet &&
      i.plan.scene.saveGlb.isSet) = true ∧
    pairDisk.entries.all (fun entry => !(List.isPrefixOf ["w", "out"] entry.1)) = true ∧
    let finish := (runIn (run Tools.standard (batchConfig "scene_tree.json" true ["Good.json"])) (.new pairDisk)).2
    finish.output = ((Batch.new pairDisk).printed (announcement [goodFile] ++ headings 1 1 [goodFile] ++
      report [goodFile] [goodFile])).output ∧
    (finish.session.disk.isFile (Path.ofText "out/Good/scene_tree.json")).toOption = some true := by
  refine ⟨by decide +kernel, by decide +kernel, ?_⟩
  decide +kernel

end LevelPrep
