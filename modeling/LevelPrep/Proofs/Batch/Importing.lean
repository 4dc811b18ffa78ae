import LevelPrep.Proofs.Disk.Writing
import LevelPrep.Proofs.Level.Processing
import LevelPrep.Proofs.Scene.Mirroring

/-!
# The import of one scene

Whether a scene file can be imported, and what is on the disk afterwards, is told by the disk alone
(`Importer.result`): the tree is made, then saved, then exported, as far as the plan asks for it, and what was
written before something fails stays.  An import in whatever session does just that (`result_of_importScene`).
-/

namespace LevelPrep

open Work SceneGraph

/-! ## What an import comes to -/

/-- The text that a tree is exported as. -/
def exportedText (branch : Branch Float) (path : Path) (upright : Bool) : Option String :=
  let planted := Stage.plant branch ({} : Stage Float)
  (exportFrames planted.2 planted.1 upright).toOption.bind fun made =>
    (FrameDocument.print path made.1 made.2).toOption

/-- How scenes are imported, with what the unwrapper makes of a mesh. -/
structure Importer where
  processor : LevelProcessor Float
  bake : MeshValue → Matrix Float → Float → Option MeshValue
  plan : Plan

namespace Importer

variable (i : Importer)

/-- The disk after the tree of a scene was saved as far as it is to be. -/
def savedTree (directory : Path) (branch : Branch Float) (d : Disk) : Option Disk :=
  if i.plan.scene.saveSceneTree.isSet then
    (pathEnd i.plan.output.sceneTreeFile).toOption.bind fun name =>
      d.store (directory ++ name) (Json.print (Document.encode branch))
  else some d

/-- The disk after a scene was exported as far as it is to be. -/
def exported (directory : Path) (branch : Branch Float) (d : Disk) : Option Disk :=
  if i.plan.scene.saveGlb.isSet then
    (pathEnd i.plan.output.glbFile).toOption.bind fun name =>
      (exportedText branch (directory ++ name) i.plan.scene.upright.isSet).bind fun text =>
        d.store (d.absolute ((directory ++ name).expandOwnHome d.home)) text
  else some d

/-- Whether a scene is imported, and the disk that is left. -/
def result (file directory : Path) (d : Disk) : Bool × Disk :=
  match i.processor.product i.bake d file with
  | none => (false, d)
  | some branch =>
    match i.savedTree directory branch d with
    | none => (false, d)
    | some saved =>
      match i.exported directory branch saved with
      | none => (false, saved)
      | some finished => (true, finished)

/-- The ways in which an import can end: what fails leaves what was written before. -/
inductive Ends (file directory : Path) (d : Disk) : Bool × Disk → Prop
  | unmade (hproduct : i.processor.product i.bake d file = none) : Ends file directory d (false, d)
  | unsaved {branch : Branch Float} (hproduct : i.processor.product i.bake d file = some branch)
      (hsaved : i.savedTree directory branch d = none) : Ends file directory d (false, d)
  | unexported {branch : Branch Float} {saved : Disk} (hproduct : i.processor.product i.bake d file = some branch)
      (hsaved : i.savedTree directory branch d = some saved)
      (hexported : i.exported directory branch saved = none) : Ends file directory d (false, saved)
  | imported {branch : Branch Float} {saved finished : Disk}
      (hproduct : i.processor.product i.bake d file = some branch)
      (hsaved : i.savedTree directory branch d = some saved)
      (hexported : i.exported directory branch saved = some finished) : Ends file directory d (true, finished)

theorem ends_result (file directory : Path) (d : Disk) : i.Ends file directory d (i.result file directory d) := by
  unfold result
  cases hproduct : i.processor.product i.bake d file with
  | none => exact .unmade hproduct
  | some branch =>
      dsimp only
      cases hsaved : i.savedTree directory branch d with
      | none => exact .unsaved hproduct hsaved
      | some saved =>
          dsimp only
          cases hexported : i.exported directory branch saved with
          | none => exact .unexported hproduct hsaved hexported
          | some finished => exact .imported hproduct hsaved hexported

/-- What is known of the tools: the unwrapper does no more than it should. -/
structure Sound : Prop where
  adds : i.processor.tools.OnlyAdds
  computes : .lightmap ∈ i.processor.passes → Lightmap.Computes i.processor.tools.unwrap i.bake

end Importer

/-! ## Steps -/

variable {i : Importer} {s s' : Session Float} {root : NodeId} {branch : Branch Float} {directory file : Path}

theorem runIn_readBranch (hbranch : s.stage.branch? root = some branch) :
    (readBranch root).runIn s = (.ok branch, s) := by
  unfold readBranch
  rw [runIn_bind, runIn_session]
  dsimp only
  rw [hbranch]
  rfl

/-- What is exported of a node is what is exported of the tree that it shows. -/
theorem exportFrames_of_branch? (hs : s.stage.graph.Linked) (hbranch : s.stage.branch? root = some branch)
    (upright : Bool) : exportFrames s.stage root upright =
      exportFrames (Stage.plant branch ({} : Stage Float)).2 (Stage.plant branch ({} : Stage Float)).1 upright := by
  have hplanted : Stage.Planted branch ({} : Stage Float) _ _ := Stage.plant_spec branch Linked.empty
  have hshows := (Stage.branch?_eq_some_iff hs).1 hbranch
  exact exportFrames_eq hplanted.linked hs ⟨branch, hplanted.shown, hshows⟩ upright

/-- A step that leaves the session as it is or puts another disk into it: it succeeds exactly if there is one. -/
structure Writes (step : Work Float Unit) (s : Session Float) (disk : Option Disk) : Prop where
  done : ∀ d, disk = some d → ∃ journal, step.runIn s = (.ok (), { s with disk := d, journal := journal })
  refused : disk = none → ∃ fault, step.runIn s = (.error fault, s)

namespace Writes

variable {α : Type} {disk : Option Disk} {step : Work Float Unit} {first : Work Float α} {next : α → Work Float Unit}

theorem after {a : α} (h : first.runIn s = (.ok a, s)) (hnext : Writes (next a) s disk) :
    Writes (first >>= next) s disk := by
  have hrun : (first >>= next).runIn s = (next a).runIn s := by rw [runIn_bind, h]
  exact ⟨fun d hd => hrun ▸ hnext.done d hd, fun hd => hrun ▸ hnext.refused hd⟩

theorem lift {outcome : Except Fault α} {made : α → Option Disk} (hnext : ∀ a, Writes (next a) s (made a)) :
    Writes (Work.lift outcome >>= next) s (outcome.toOption.bind made) := by
  cases outcome with
  | ok a => exact .after (runIn_lift _ s) (hnext a)
  | error fault => exact ⟨nofun, fun _ => ⟨fault, rfl⟩⟩

theorem logged (h : Writes step s disk) (level : LogLevel) (logger message : String) :
    Writes (step >>= fun _ => log level logger message) s disk := by
  refine ⟨fun d hd => ?_, fun hd => ?_⟩
  · rcases h.done d hd with ⟨journal, hrun⟩
    rw [runIn_bind, hrun]
    exact ⟨_, rfl⟩
  · rcases h.refused hd with ⟨fault, hrun⟩
    rw [runIn_bind, hrun]
    exact ⟨fault, rfl⟩

end Writes

theorem writes_writeFile (path : Path) (text : String) (s : Session Float) :
    Writes (writeFile path text) s (s.disk.store path text) := by
  unfold Disk.store writeFile
  refine .after (runIn_session s) ?_
  rw [Option.map_eq_bind]
  exact .lift fun place => ⟨fun d hd => ⟨s.journal, by cases hd; rfl⟩, nofun⟩

theorem writes_saveTree (hbranch : s.stage.branch? root = some branch) (path : Path) :
    Writes (saveTree root path) s (s.disk.store path (Json.print (Document.encode branch))) :=
  .after (runIn_readBranch hbranch) (writes_writeFile path _ s)

theorem writes_exportScene (hs : s.stage.graph.Linked) (hbranch : s.stage.branch? root = some branch) (path : Path)
    (upright : Bool) : Writes (exportScene root path upright) s
      ((exportedText branch path upright).bind fun text =>
        s.disk.store (s.disk.absolute (path.expandOwnHome s.disk.home)) text) := by
  unfold exportScene exportedText
  refine .after (runIn_session s) ?_
  rw [exportFrames_of_branch? hs hbranch, Option.bind_assoc]
  refine .lift fun made => .lift fun text => ?_
  exact .after (runIn_session s) (writes_writeFile _ text s)

/-! ## Imports -/

namespace Work

/-- Saves the tree of a scene if this is asked for. -/
def keepTree (plan : Plan) (directory : Path) (root : NodeId) : Work Float Unit :=
  if plan.scene.saveSceneTree.isSet then do
    let path := directory ++ (← lift (pathEnd plan.output.sceneTreeFile))
    saveTree root path
    log .info "main" ("Saved scene tree to: " ++ path.text)
  else pure ()

/-- Exports a scene if this is asked for. -/
def keepGlb (plan : Plan) (directory : Path) (root : NodeId) : Work Float Unit :=
  if plan.scene.saveGlb.isSet then do
    let path := directory ++ (← lift (pathEnd plan.output.glbFile))
    exportScene root path plan.scene.upright.isSet
    log .info "main" ("Exported scene to: " ++ path.text)
  else pure ()

/-- An import makes a scene, saves it and exports it. -/
theorem importScene_eq (p : LevelProcessor Float) (file directory : Path) (plan : Plan) :
    importScene p file directory plan.output plan.scene = (makeScene p file >>= fun root =>
      keepTree plan directory root >>= fun _ => keepGlb plan directory root) := by
  unfold importScene makeScene keepTree keepGlb
  simp only [bind_assoc, pure_bind]
  refine bind_congr fun branch => bind_congr fun root => bind_congr fun _ => ?_
  split_ifs <;> simp [bind_assoc]

end Work

theorem writes_keepTree (i : Importer) (hbranch : s.stage.branch? root = some branch) (directory : Path) :
    Writes (keepTree i.plan directory root) s (i.savedTree directory branch s.disk) := by
  unfold keepTree Importer.savedTree
  split_ifs
  · exact .lift fun name => (writes_saveTree hbranch _).logged _ _ _
  · exact ⟨fun d hd => ⟨s.journal, by cases hd; rfl⟩, nofun⟩

theorem writes_keepGlb (i : Importer) (hs : s.stage.graph.Linked) (hbranch : s.stage.branch? root = some branch)
    (directory : Path) : Writes (keepGlb i.plan directory root) s (i.exported directory branch s.disk) := by
  unfold keepGlb Importer.exported
  split_ifs
  · exact .lift fun name => (writes_exportScene hs hbranch _ _).logged _ _ _
  · exact ⟨fun d hd => ⟨s.journal, by cases hd; rfl⟩, nofun⟩

/-- How an import ends, and the disk that it leaves, depend on nothing but the disk; and the next scene can be
imported after it. -/
theorem result_of_importScene (hi : i.Sound) (hs : s.InOrder) {outcome : Except Fault Unit}
    (hrun : (importScene i.processor file directory i.plan.output i.plan.scene).runIn s = (outcome, s')) :
    s'.InOrder ∧ i.result file directory s.disk = (outcome.toOption.isSome, s'.disk) := by
  rw [importScene_eq, runIn_bind] at hrun
  rcases hmake : (makeScene i.processor file).runIn s with ⟨made, t⟩
  rcases makes_of_makeScene hs hi.adds hi.computes hmake with ⟨hmakes, ht, hdisk⟩
  rw [hmake] at hrun
  unfold Importer.result
  cases hmakes with
  | refused hnone =>
      cases hrun
      rw [hnone]
      exact ⟨ht, by rw [hdisk]; rfl⟩
  | @made root branch hproduct hbranch =>
      rw [hproduct]
      have htree := writes_keepTree i hbranch directory
      rw [hdisk] at htree
      dsimp only at hrun ⊢
      rw [runIn_bind] at hrun
      cases hsaved : i.savedTree directory branch s.disk with
      | none =>
          rcases htree.refused hsaved with ⟨fault, hrefused⟩
          rw [hrefused] at hrun
          cases hrun
          exact ⟨ht, by rw [hdisk]; rfl⟩
      | some saved =>
          rcases htree.done saved hsaved with ⟨journal, hdone⟩
          rw [hdone] at hrun
          -- the nodes are as they were, so what is exported is the tree that was saved
          have hglb := writes_keepGlb i (s := { t with disk := saved, journal := journal }) ht.linked hbranch
            directory
          dsimp only at hrun hglb ⊢
          cases hexported : i.exported directory branch saved with
          | none =>
              rcases hglb.refused hexported with ⟨fault, hrefused⟩
              rw [hrefused] at hrun
              cases hrun
              exact ⟨ht.of_stage rfl, rfl⟩
          | some finished =>
              rcases hglb.done finished hexported with ⟨journal', hdone'⟩
              rw [hdone'] at hrun
              cases hrun
              exact ⟨ht.of_stage rfl, rfl⟩

/-! ## What an import leaves -/

namespace Importer

theorem savedTree_cases {d d' : Disk} (h : i.savedTree directory branch d = some d') :
    (i.plan.scene.saveSceneTree.isSet = false ∧ d' = d) ∨ ∃ name, i.plan.scene.saveSceneTree.isSet = true ∧
      pathEnd i.plan.output.sceneTreeFile = .ok name ∧
      d.store (directory ++ name) (Json.print (Document.encode branch)) = some d' := by
  unfold savedTree at h
  split_ifs at h with hset
  · rcases Option.bind_eq_some_iff.1 h with ⟨name, hname, hstore⟩
    exact Or.inr ⟨name, hset, toOption_eq_some_iff.1 hname, hstore⟩
  · cases h
    exact Or.inl ⟨Bool.eq_false_iff.2 hset, rfl⟩

theorem exported_cases {d d' : Disk} (h : i.exported directory branch d = some d') :
    (i.plan.scene.saveGlb.isSet = false ∧ d' = d) ∨ ∃ name text, i.plan.scene.saveGlb.isSet = true ∧
      pathEnd i.plan.output.glbFile = .ok name ∧
      d.store (d.absolute ((directory ++ name).expandOwnHome d.home)) text = some d' := by
  unfold exported at h
  split_ifs at h with hset
  · rcases Option.bind_eq_some_iff.1 h with ⟨name, hname, htext⟩
    rcases Option.bind_eq_some_iff.1 htext with ⟨text, -, hstore⟩
    exact Or.inr ⟨name, text, hset, toOption_eq_some_iff.1 hname, hstore⟩
  · cases h
    exact Or.inl ⟨Bool.eq_false_iff.2 hset, rfl⟩

theorem lasts_of_savedTree {d d' : Disk} (h : i.savedTree directory branch d = some d') : Disk.Lasts d d' := by
  rcases savedTree_cases h with ⟨-, rfl⟩ | ⟨name, -, -, hstore⟩
  · exact .refl d'
  · exact Disk.lasts_of_store hstore

theorem lasts_of_exported {d d' : Disk} (h : i.exported directory branch d = some d') : Disk.Lasts d d' := by
  rcases exported_cases h with ⟨-, rfl⟩ | ⟨name, text, -, -, hstore⟩
  · exact .refl d'
  · exact Disk.lasts_of_store hstore

/-- Whatever an import comes to, nothing is taken away. -/
theorem lasts_result (i : Importer) (file directory : Path) (d : Disk) :
    Disk.Lasts d (i.result file directory d).2 := by
  have hends := i.ends_result file directory d
  generalize i.result file directory d = result at hends ⊢
  cases hends with
  | unmade => exact .refl d
  | unsaved => exact .refl d
  | unexported _ hsaved => exact lasts_of_savedTree hsaved
  | imported _ hsaved hexported => exact (lasts_of_savedTree hsaved).trans (lasts_of_exported hexported)

end Importer

end LevelPrep
