import LevelPrep.Proofs.Batch.Independence

/-!
# Results of a batch

A scene that was imported has a scene tree, and no other scene touches it: where scenes have different stems, it holds
the tree that was made of this very scene once the batch has returned (`imported_ownTree`).  Scenes with one stem
share a directory, and there the tree of the first one is lost (`not_ownTree_sharedStem`).
-/

namespace LevelPrep

open Disk BatchWork

/-- A scene tree that holds the tree that was made of its own scene, if the scene was imported. -/
def HoldsOwnTree (i : Importer) (site : Site) (d : Disk) (file : Path) (attempt : Attempt) : Prop :=
  attempt.outcome.toOption.isSome = true → ∃ name branch,
    pathEnd i.plan.output.sceneTreeFile = .ok name ∧
    i.processor.product i.bake (site.prepared attempt.before.session.disk file) file = some branch ∧
    d.readPlain (site.directory file ++ name) = .ok (Json.print (Document.encode branch))

variable {i : Importer} {site : Site} {files : List Path} {file : Path} {d : Disk}

/-- An import that succeeds leaves the tree of its scene, and exporting the scene does not touch it. -/
theorem Filed.exists_holds (h : Filed i site files) (hfile : file ∈ files)
    (hset : i.plan.scene.saveSceneTree.isSet = true) (hhome : d.home = site.disk.home)
    (himported : (i.result file (site.directory file) d).1 = true) :
    ∃ name branch, pathEnd i.plan.output.sceneTreeFile = .ok name ∧
      i.processor.product i.bake d file = some branch ∧
      (i.result file (site.directory file) d).2.Holds (site.directory file ++ name)
        (Json.print (Document.encode branch)) := by
  have hends := i.ends_result file (site.directory file) d
  generalize i.result file (site.directory file) d = result at hends himported ⊢
  -- only an import that went all the way has succeeded
  cases hends with
  | unmade => cases himported
  | unsaved => cases himported
  | unexported => cases himported
  | @imported branch saved finished hproduct hsaved hexported =>
      rcases Importer.savedTree_cases hsaved with ⟨hunset, -⟩ | ⟨name, -, hname, hstore⟩
      · rw [hset] at hunset
        cases hunset
      have hsaved' := (Importer.lasts_of_savedTree hsaved).home.trans hhome
      refine ⟨name, branch, hname, hproduct, ?_⟩
      refine (holds_of_store hstore).of_lasts (Importer.lasts_of_exported hexported) ?_
      rw [goal_congr hsaved']
      -- what is exported goes to another file than the tree
      rcases h.spaced.put_of_exported hfile hsaved' hexported with rfl | ⟨glb, content, hglb, -, -, rfl⟩
      · rfl
      · exact entryAt?_put_of_ne (h.distinct name glb hname hglb file hfile)

variable {tools : Tools Float} {config : Config} {start finish : Batch}

/-- Where scenes have different stems, every scene that was imported has a tree of its own, and other scenes have not
touched it. -/
theorem imported_ownTree (h : Started tools config start i files) (hdisk : start.session.disk = site.disk)
    (hfiled : Filed i site files) (hset : i.plan.scene.saveSceneTree.isSet = true)
    (hrun : (run tools config).runIn start = (.ok (), finish)) :
    ∃ attempts, Ran tools config i.processor i.plan files attempts start finish ∧
      List.Forall₂ (HoldsOwnTree i site finish.session.disk) files attempts := by
  rcases h.exists_occurs hfiled.spaced hdisk hrun with ⟨attempts, hran, hoccurs⟩
  have hall := (List.forall₂_and_left _ _).2 ⟨fun file (hfile : file ∈ files) => hfile, hoccurs⟩
  refine ⟨attempts, hran, hall.imp ?_⟩
  rintro file attempt ⟨hfile, after, hoccurs⟩ himported
  have hprepared := hoccurs.visited.home_prepared
  rcases hfiled.exists_holds hfile hset hprepared (hoccurs.outcome.trans himported) with
    ⟨name, branch, hname, hproduct, hholds⟩
  rcases hfiled.tree name hname with ⟨hinward, hlog⟩
  have hlast := hoccurs.holds_finish hfiled.toNamed hfile hinward (hlog file hfile) hholds
  exact ⟨name, branch, hname, hproduct, hlast.readPlain⟩

/-- The tree of a good scene next to one that cannot be read. -/
theorem imported_ownTree_pair : ∃ i finish,
    Started Tools.standard (pairConfig "scene_tree.json" ["Broken.json", "Good.json"]) (.new pairDisk) i
      [brokenFile, goodFile] ∧
    (Batch.new pairDisk).session.disk = pairSite.disk ∧ Filed i pairSite [brokenFile, goodFile] ∧
    i.plan.scene.saveSceneTree.isSet = true ∧
    (run Tools.standard (pairConfig "scene_tree.json" ["Broken.json", "Good.json"])).runIn (.new pairDisk) =
      (.ok (), finish) ∧
    ∃ attempts, Ran Tools.standard (pairConfig "scene_tree.json" ["Broken.json", "Good.json"]) i.processor i.plan
        [brokenFile, goodFile] attempts (.new pairDisk) finish ∧
      List.Forall₂ (HoldsOwnTree i pairSite finish.session.disk) [brokenFile, goodFile] attempts := by
  have hsuits : (Importer.standard? (pairConfig "scene_tree.json" ["Broken.json", "Good.json"])).any
      (SuitsPair "scene_tree.json" [brokenFile, goodFile] ·) = true := by decide +kernel
  rcases exists_arranged_pair (.refl _) hsuits with ⟨i, harranged, hpair⟩
  have hfiled := filed_pair harranged.toNamed hpair
  have hset : i.plan.scene.saveSceneTree.isSet = true := by
    obtain ⟨-, -, -, -, -, hset, -⟩ := hpair
    exact hset
  rcases harranged.exists_run hfiled.spaced with ⟨attempts, finish, hran, -⟩
  exact ⟨i, finish, harranged.toStarted, rfl, hfiled, hset, hran.run,
    imported_ownTree harranged.toStarted rfl hfiled hset hran.run⟩

/-! ### Two scenes with one stem -/

def roomDisk : Disk where
  home := workHome
  entries := [
    (["w", "in"], .directory), (["w", "in", "a"], .directory), (["w", "in", "b"], .directory),
    (["w", "in", "a", "Room.json"], .file (sceneText "\x7b\"type\":\"Node3D\",\"name\":\"B\"\x7d").toUTF8),
    (["w", "in", "b", "Room.json"], .file (sceneText "").toUTF8)]

def furnishedRoom : Path :=
  Path.ofText "/w/in/a/Room.json"

def emptyRoom : Path :=
  Path.ofText "/w/in/b/Room.json"

/-- Different trees are made of the two rooms, and both rooms are reported as imported, but there is one scene tree
on the disk. -/
theorem not_ownTree_sharedStem :
    furnishedRoom ≠ emptyRoom ∧
    ((Importer.standard? (batchConfig "scene_tree.json" false ["a/Room.json", "b/Room.json"])).any fun i =>
      (i.plan.input.sceneFiles roomDisk).toOption == some [furnishedRoom, emptyRoom] &&
      i.plan.scene.saveSceneTree.isSet &&
      [furnishedRoom, emptyRoom].map (fun file => (i.processor.product i.bake roomDisk file).map (·.topLevel.length)) ==
        [some 1, some 0]) = true ∧
    let finish := (runIn (run Tools.standard (batchConfig "scene_tree.json" false ["a/Room.json", "b/Room.json"]))
      (.new roomDisk)).2
    finish.output = ((Batch.new roomDisk).printed (announcement [furnishedRoom, emptyRoom] ++
      headings 2 1 [furnishedRoom, emptyRoom] ++ report [furnishedRoom, emptyRoom] [])).output ∧
    (finish.session.disk.entries.map (·.1)).filter (·.getLast? == some "scene_tree.json") =
      [["w", "out", "Room", "scene_tree.json"]] := by
  refine ⟨by decide +kernel, by decide +kernel, ?_⟩
  decide +kernel

end LevelPrep
