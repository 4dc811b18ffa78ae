import LevelPrep.Lightmap
import LevelPrep.Proofs.Level.Imaging
import LevelPrep.Scene.File

/-!
# Children that do not depend on each other

Every child of a scene is dealt with on its own, whatever the session has loaded or kept for other children.  What
is made of the children of a scene is the image of each of them (`children_independent`), and the same image
serves every scene with the same root and with some of these children in any order.
-/

namespace LevelPrep

variable {R : Type}

/-! ## Planted children -/

theorem Tree.allOwnedBy_eq {G : Type} (owner : Json) (trees : List (Tree G R)) :
    Tree.allOwnedBy owner trees = trees.map (Tree.ownedBy owner) := by
  induction trees with
  | nil => rfl
  | cons tree rest ih => rw [Tree.allOwnedBy, ih, List.map_cons]

@[simp] theorem Tree.isQueued_ownedBy (owner : Json) (branch : Branch R) :
    (branch.ownedBy owner).isQueued = false := by
  cases branch
  rfl

variable [Zero R] [One R] [Add R] [Mul R]

namespace LevelRules

/-- What a conversion leaves of a planted child; where nothing can be made of it, the child as it was. -/
def plantedImage (rules : LevelRules R) (level : Json) (branch : Branch R) : Snapshot Geometry R :=
  ((rules.childImage level (branch.ownedBy level)).getD (branch.ownedBy level)).flushed

/-- Something can be made of a planted scene if it can be made of each child, and then every child has its own
image. -/
theorem image_of_planted {rules : LevelRules R} {name : Json} {transform : Matrix R}
    {payload : Payload Geometry Material} {children : List (Branch R)}
    (hchildren : ∀ child ∈ children, ∃ d, rules.childImage name (child.ownedBy name) = some d) :
    rules.image (Tree.asScene (.node name transform payload children)) =
      some (.node name transform payload none false (children.map (rules.plantedImage name))) := by
  have hmade : (Tree.allOwnedBy name children).mapM (rules.childImage name) =
      some (children.map fun child =>
        (rules.childImage name (child.ownedBy name)).getD (child.ownedBy name)) := by
    rw [Tree.allOwnedBy_eq, mapM_eq_some_iff, List.forall₂_map_left_iff, List.forall₂_map_right_iff,
      List.forall₂_same]
    intro child hchild
    rcases hchildren child hchild with ⟨d, hd⟩
    rw [hd, Option.getD_some]
  -- no child of the scene is marked, so none is left out
  have hstay : ∀ d ∈ children.map (fun child =>
      (rules.childImage name (child.ownedBy name)).getD (child.ownedBy name)), (!d.isQueued) = true := by
    intro d hd
    rcases List.mem_map.1 hd with ⟨child, hchild, rfl⟩
    rcases hchildren child hchild with ⟨d, hd⟩
    rcases head_of_childImage hd with ⟨payload, hhead⟩
    have hqueued := child.isQueued_ownedBy name
    rw [hd, Option.getD_some]
    unfold Snapshot.isQueued at hqueued ⊢
    rw [hhead, hqueued]
    rfl
  show ((Tree.allOwnedBy name children).mapM (rules.childImage name)).map _ = _
  rw [hmade, Option.map_some, Snapshot.flushed_node, List.filter_eq_self.2 hstay, List.map_map]
  rfl

/-- Where something can be made of a planted scene, it can be made of each child. -/
theorem exists_of_image_planted {rules : LevelRules R} {name : Json} {transform : Matrix R}
    {payload : Payload Geometry Material} {children : List (Branch R)} {d : Snapshot Geometry R}
    (h : rules.image (Tree.asScene (.node name transform payload children)) = some d) :
    ∀ child ∈ children, ∃ d, rules.childImage name (child.ownedBy name) = some d := by
  rcases Option.map_eq_some_iff.1 h with ⟨ds, hds, -⟩
  have hds : (Tree.allOwnedBy name children).mapM (rules.childImage name) = some ds := hds
  rw [Tree.allOwnedBy_eq] at hds
  intro child hchild
  exact exists_mapM_iff.1 ⟨ds, hds⟩ (child.ownedBy name) (List.mem_map_of_mem hchild)

end LevelRules

/-! ## Scenes with fewer children -/

/-- If a scene can be converted, then so can every scene with the same root and with some of its children, in any
order and however often, and each child has the same image in both. -/
theorem children_independent (p : LevelProcessor R) {bake : MeshValue → Matrix R → Float → Option MeshValue}
    (hunwrap : .lightmap ∈ p.passes → Lightmap.Computes p.tools.unwrap bake)
    {name : Json} {transform : Matrix R} {payload : Payload Geometry Material} {children : List (Branch R)}
    {start s s' : Session R} {scene : NodeId} (hstart : start.InOrder)
    (hplant : (Work.plantScene (.node name transform payload children)).runIn start = (.ok scene, s))
    (hrun : (p.convert scene).runIn s = (.ok (), s')) :
    ∃ image : Branch R → Snapshot Geometry R,
      s'.stage.snapshot? scene = some (.node name transform payload none false (children.map image)) ∧
      ∀ children' : List (Branch R), children' ⊆ children →
        ∀ (other t : Session R) (root : NodeId), other.InOrder → other.disk = start.disk →
          (Work.plantScene (.node name transform payload children')).runIn other = (.ok root, t) →
          ∃ t', (p.convert root).runIn t = (.ok (), t') ∧
            t'.stage.snapshot? root =
              some (.node name transform payload none false (children'.map image)) := by
  have hready := ready_of_plantScene hstart hplant
  have hdump := snapshot?_of_plantScene hstart.linked hplant
  have hdisk : s.disk = start.disk := by rw [(stage_of_plantScene hplant).2]
  rcases (settles_convert hready hdump hunwrap).leaves s' hrun with ⟨⟨d, hd⟩, hconverts⟩
  -- the catalogs are opened, and something is made of every child
  rcases Option.bind_eq_some_iff.1 hd with ⟨shelf, hshelf, hrest⟩
  rcases Option.bind_eq_some_iff.1 hrest with ⟨catalog, hcatalog, himage⟩
  rw [toOption_eq_some_iff] at hshelf hcatalog
  have heach := LevelRules.exists_of_image_planted himage
  have hall : ∀ disk, disk = s.disk → ∀ children' : List (Branch R), children' ⊆ children →
      p.image bake disk (Tree.asScene (.node name transform payload children')) =
        some (.node name transform payload none false
          (children'.map ((p.rules bake s.disk shelf).plantedImage name))) := by
    intro disk hsame children' hsub
    rw [hsame, LevelProcessor.image_of_opened hshelf hcatalog]
    exact LevelRules.image_of_planted fun child hchild => heach child (hsub hchild)
  refine ⟨(p.rules bake s.disk shelf).plantedImage name, ?_, ?_⟩
  · rw [hconverts.dump]
    exact hall s.disk rfl children fun _ hchild => hchild
  · intro children' hsub other t root hother hsame hplant'
    have hready' := ready_of_plantScene hother hplant'
    have hdump' := snapshot?_of_plantScene hother.linked hplant'
    have hdisk' : t.disk = s.disk := by
      rw [(stage_of_plantScene hplant').2, hdisk]
      exact hsame
    have himage' := hall t.disk hdisk' children' hsub
    rcases (settles_convert hready' hdump' hunwrap).exists_after ⟨_, himage'⟩ with ⟨t', hrun', hconverts'⟩
    exact ⟨t', hrun', hconverts'.dump.trans himage'⟩

/-! ## A depot -/

/-- A scene with two children of one match and two without, which share a material. -/
def depotScene : Branch Float :=
  .node (.str "Level") Matrix.identity .plain [
    .node (.str "Crate_1") Matrix.identity (.meshInstance { mesh := some {} }) [
      .node (.str "Lid") Matrix.identity .plain []],
    .node (.str "Hall=NoBake") Matrix.identity (.meshInstance { mesh := some { name := .str "hall", surfaces := [
      { geometry := {}, material := some { name := .str "OldStone" } }, { geometry := {} }] } }) [],
    .node (.str "Crate_2") Matrix.identity .plain [],
    .node (.str "Shed") Matrix.identity .plain [
      .node (.str "Roof=NoShadow") Matrix.identity (.meshInstance { mesh := some { name := .str "roof", surfaces := [
        { geometry := {}, material := some { name := .str "OldStone" } }] } }) []]]

/-- A disk with a packaged scene and a material. -/
def depotDisk : Disk where
  home := { anchor := .root false, parts := ["home"] }
  entries := [(["home", "Scenes"], .directory), (["home", "Materials"], .directory),
    (["home", "Scenes", "Crate.json"], .file
      "\x7b\"format\": \"sceneTree\", \"root\": \x7b\"name\": \"Box\"\x7d\x7d".toUTF8),
    (["home", "Materials", "Stone.tres"], .file "".toUTF8)]

/-- Settings with the usual passes. -/
def depotSettings : ImportSettings where
  levelIndicator := .str "Level"
  baseTexel := .float 0.2
  grammar := { indicator := .str "=", valueStart := .str "(", valueEnd := .str ")", keywords := [] }
  catalogs := [("packed_scene", { root := .str "Scenes" }), ("material", { root := .str "Materials" })]
  passes := PassKind.all.map fun kind => .str kind.word

/-- An unwrapper that marks meshes, and scene files from the disk. -/
def depotTools : Tools Float where
  loadScene := SceneFile.load
  unwrap := fun mesh _ _ r => (.ok (Lightmap.placeholder mesh r), r)

def depotProcessor : LevelProcessor Float where
  settings := depotSettings
  grammar := Grammar.default
  passes := PassKind.all
  tools := depotTools

/-- The session with the planted depot. -/
def depotSession : Session Float :=
  ((Work.plantScene depotScene).runIn { disk := depotDisk }).2

theorem children_independent_depotScene :
    (.lightmap ∈ depotProcessor.passes → Lightmap.Computes depotProcessor.tools.unwrap
        fun mesh _ _ => some (Lightmap.marked mesh)) ∧
      ({ disk := depotDisk } : Session Float).InOrder ∧
      (Work.plantScene depotScene).runIn { disk := depotDisk } = (.ok ⟨0⟩, depotSession) ∧
      ((depotProcessor.convert ⟨0⟩).runIn depotSession).1.toOption = some () ∧
      ∃ image : Branch Float → Snapshot Geometry Float,
        ((depotProcessor.convert ⟨0⟩).runIn depotSession).2.stage.snapshot? ⟨0⟩ =
          some (.node (.str "Level") Matrix.identity .plain none false (depotScene.topLevel.map image)) ∧
        ∀ children' : List (Branch Float), children' ⊆ depotScene.topLevel →
          ∀ (other t : Session Float) (root : NodeId), other.InOrder → other.disk = depotDisk →
            (Work.plantScene (.node (.str "Level") Matrix.identity .plain children')).runIn other =
              (.ok root, t) →
            ∃ t', (depotProcessor.convert root).runIn t = (.ok (), t') ∧
              t'.stage.snapshot? root =
                some (.node (.str "Level") Matrix.identity .plain none false (children'.map image)) := by
  have hunwrap : .lightmap ∈ depotProcessor.passes → Lightmap.Computes depotProcessor.tools.unwrap
      fun mesh _ _ => some (Lightmap.marked mesh) := fun _ => Lightmap.computes_placeholder
  have hplant : (Work.plantScene depotScene).runIn { disk := depotDisk } = (.ok ⟨0⟩, depotSession) := rfl
  have hrun : ((depotProcessor.convert ⟨0⟩).runIn depotSession).1.toOption = some () := by
    decide +kernel
  exact ⟨hunwrap, Session.inOrder_new depotDisk, hplant, hrun, children_independent depotProcessor hunwrap
    (Session.inOrder_new depotDisk) hplant (Work.runIn_eq_of_toOption hrun)⟩

end LevelPrep
