import LevelPrep.Lightmap
import LevelPrep.Proofs.Level.Assembly
import LevelPrep.Proofs.Scene.Views
import LevelPrep.Scene.File

/-!
# The shape of a converted level

Whatever passes there are and whatever the tools do, a conversion that succeeds keeps the scene and the order
of its children.  A child with a match is left with one child, which is what is in the file of its match;
a child without one keeps its whole tree, and only collision bodies are added, behind its own children.

* `LevelShape`: what is left of a scene;
* `shape_of_convert`: every conversion that succeeds leaves it.
-/

namespace LevelPrep

variable {R : Type}

open Work SceneGraph

/-- What a conversion leaves of a scene, given the catalog of packaged scenes. -/
structure LevelShape [Zero R] [One R] (tools : Tools R) (catalog : Catalog) (scene : NodeId)
    (s s' : Session R) : Prop where
  /-- The scene is the same, with the same children in the same order. -/
  scene_same : s'.stage.graph.node? scene = s.stage.graph.node? scene
  /-- Every child can be looked up, and keeps its name, its transform and its place. -/
  child_same : ∀ child ∈ s.stage.graph.children scene, ∃ n n' found,
    s.stage.graph.node? child = some n ∧ s'.stage.graph.node? child = some n' ∧
    n'.name = n.name ∧ n'.transform = n.transform ∧ n'.parent = some scene ∧
    catalog.bestMatch n.name = .ok found
  /-- A child with a match has lost its mesh, and what it had below it has given way to the content of the
  file of its match. -/
  matched : ∀ child ∈ s.stage.graph.children scene, ∀ n entry,
    s.stage.graph.node? child = some n → catalog.bestMatch n.name = .ok (some entry) →
    ∃ branch replacement, (tools.loadScene s.disk entry.path).2 = .ok branch ∧
      s.stage.graph.size ≤ replacement.index ∧
      s'.stage.graph.node? child = some
        { n with
          payload := n.payload.mapInstance fun i => { i with mesh := none }
          children := [replacement] } ∧
      s'.stage.branch? replacement =
        some (branch.rename (.str (n.name.display ++ " (replaced)")))
  /-- A child without a match keeps every node of its tree in its place.  Only mesh instances are drawn in
  another way, and only the child itself has new children: collision bodies behind those that it had. -/
  unmatched : ∀ child ∈ s.stage.graph.children scene, ∀ n,
    s.stage.graph.node? child = some n → catalog.bestMatch n.name = .ok none →
    ∀ x m, s.stage.graph.Within child x → s.stage.graph.node? x = some m →
      ∃ change bodies, s'.stage.graph.node? x = some
          { m with payload := m.payload.mapInstance change, children := m.children ++ bodies } ∧
        (x ≠ child → bodies = []) ∧
        ∀ body ∈ bodies, s.stage.graph.size ≤ body.index ∧ s'.stage.graph.IsBody scene child body

namespace Assembled

variable [Zero R] [One R] {tools : Tools R} {catalog : Catalog} {scene : NodeId}
  {static replaceable : List NodeId} {s t u s' : Session R}

/-- What a conversion leaves of the tree of a static child. -/
theorem node?_of_static (h : Assembled tools catalog scene static replaceable s t u s')
    {root x : NodeId} {m : Node R} (hroot : root ∈ static) (hx : s.stage.graph.Within root x)
    (hm : s.stage.graph.node? x = some m) :
    ∃ change bodies, s'.stage.graph.node? x = some
        { m with payload := m.payload.mapInstance change, children := m.children ++ bodies } ∧
      (x ≠ root → bodies = []) ∧
      ∀ body ∈ bodies, s.stage.graph.size ≤ body.index ∧ s'.stage.graph.IsBody scene root body := by
  rcases h.reshaped.old x m hm with ⟨change, bodies, ht, hbodies, -⟩
  -- another static child has no part in the tree of this one
  have hown : ∀ body ∈ bodies, x = root := by
    intro body hbody
    exact h.opened.linked.child_unique (h.mem_children_of_static (hbodies body hbody).1)
      (h.mem_children_of_static hroot) (Within.refl _ x) hx
  refine ⟨change, bodies, h.node?_static hroot hx ht, ?_, ?_⟩
  · intro hne
    rw [List.eq_nil_iff_forall_not_mem]
    exact fun body hbody => hne (hown body hbody)
  · intro body hbody
    rcases hbodies body hbody with ⟨-, hnew, hisBody⟩
    exact ⟨hnew, hown body hbody ▸ h.isBody_kept hnew hisBody⟩

end Assembled

/-- A conversion that succeeds keeps the shape of the scene. -/
theorem shape_of_convert [Zero R] [One R] [Add R] [Mul R] (p : LevelProcessor R) {scene : NodeId}
    {s s' : Session R} (hscene : OpenScene scene s)
    (hrun : (p.convert scene).runIn s = (.ok (), s')) :
    ∃ (shelf : Shelf) (catalog : Catalog),
      Shelf.ofSettings s.disk p.settings.catalogs = .ok shelf ∧
      shelf.packedSceneCatalog = .ok catalog ∧ LevelShape p.tools catalog scene s s' := by
  rcases exists_assembled hscene hrun with ⟨shelf, catalog, sorted, t, u, hconverted, h⟩
  refine ⟨shelf, catalog, hconverted.opened, hconverted.catalog_eq, ?_⟩
  have hname : ∀ {child : NodeId} {n : Node R}, s.stage.graph.node? child = some n →
      s.stage.graph.name child = n.name := by
    intro child n hn
    simp [SceneGraph.name, hn]
  have hstatic : ∀ {child : NodeId} {n : Node R}, child ∈ s.stage.graph.children scene →
      s.stage.graph.node? child = some n → catalog.bestMatch n.name = .ok none →
      child ∈ staticChildren catalog scene s.stage.graph := by
    intro child n hchild hn hmatch
    refine List.mem_filter.2 ⟨hchild, ?_⟩
    rw [hname hn, Catalog.hasMatch_of_bestMatch hmatch]
    rfl
  have hreplaceable : ∀ {child : NodeId} {n : Node R} {entry : CatalogEntry},
      child ∈ s.stage.graph.children scene → s.stage.graph.node? child = some n →
      catalog.bestMatch n.name = .ok (some entry) →
      child ∈ replaceableChildren catalog scene s.stage.graph := by
    intro child n entry hchild hn hmatch
    refine List.mem_filter.2 ⟨hchild, ?_⟩
    rw [hname hn, Catalog.hasMatch_of_bestMatch hmatch]
    rfl
  refine ⟨h.node?_scene, ?_, ?_, ?_⟩
  · intro child hchild
    rcases exists_node?_iff.2 (hscene.linked.index_lt_of_mem_children hchild).2 with ⟨n, hn⟩
    rcases hconverted.answered child hchild with ⟨found, hfound⟩
    rw [hname hn] at hfound
    have hparent : n.parent = some scene := by
      rw [← parent?_of_node? hn]
      exact (hscene.linked.mem_children_iff scene child).1 hchild
    cases found with
    | none =>
        obtain ⟨change, bodies, hn', -⟩ :=
          h.node?_of_static (hstatic hchild hn hfound) (Within.refl _ child) hn
        exact ⟨n, _, none, hn, hn', rfl, rfl, hparent, hfound⟩
    | some entry =>
        rcases h.node?_replaceable (hreplaceable hchild hn hfound) hn with ⟨_, _, _, -, -, -, hn', -⟩
        exact ⟨n, _, some entry, hn, hn', rfl, rfl, hparent, hfound⟩
  · intro child hchild n entry hn hmatch
    obtain ⟨entry', branch, replacement, hmatch', hload, hnew, hn', hshown⟩ :=
      h.node?_replaceable (hreplaceable hchild hn hmatch) hn
    cases hmatch.symm.trans hmatch'
    exact ⟨branch, replacement, hload, hnew, hn', (Stage.branch?_eq_some_iff h.linked).2 hshown⟩
  · intro child hchild n hn hmatch x m hx hm
    exact h.node?_of_static (hstatic hchild hn hmatch) hx hm

/-! ## A level with a crate -/

/-- A scene with a child that has a match and one that has none. -/
def crateScene : Branch Float :=
  .node (.str "Level") Matrix.identity .plain [
    .node (.str "Crate_1") Matrix.identity (.meshInstance { mesh := some {} }) [
      .node (.str "Lid") Matrix.identity .plain []],
    .node (.str "Wall") Matrix.identity (.meshInstance { mesh := some {} }) []]

/-- A disk with one packaged scene. -/
def crateDisk : Disk where
  home := { anchor := .root false, parts := ["home"] }
  entries := [(["home", "Scenes"], .directory),
    (["home", "Scenes", "Crate.json"], .file
      "\x7b\"format\": \"sceneTree\", \"root\": \x7b\"name\": \"Box\"\x7d\x7d".toUTF8)]

/-- A processor that makes collision bodies. -/
def crateProcessor : LevelProcessor Float where
  settings :=
    { levelIndicator := .str "Level"
      baseTexel := .float 0.2
      grammar := { indicator := .str "=", valueStart := .str "(", valueEnd := .str ")", keywords := [] }
      catalogs := [("packed_scene", { root := .str "Scenes" })]
      passes := [.str "collision"] }
  grammar := Grammar.default
  passes := [.collision]
  tools := { loadScene := SceneFile.load, unwrap := fun mesh _ _ r => (.ok (Lightmap.placeholder mesh r), r) }

/-- The session with the planted scene. -/
def crateSession : Session Float :=
  ((plantScene crateScene).runIn { disk := crateDisk }).2

theorem shape_of_convert_crateScene :
    OpenScene ⟨0⟩ crateSession ∧
      ((crateProcessor.convert ⟨0⟩).runIn crateSession).1.toOption = some () ∧
      ∃ (shelf : Shelf) (catalog : Catalog),
        Shelf.ofSettings crateSession.disk crateProcessor.settings.catalogs = .ok shelf ∧
        shelf.packedSceneCatalog = .ok catalog ∧
        LevelShape crateProcessor.tools catalog ⟨0⟩ crateSession
          ((crateProcessor.convert ⟨0⟩).runIn crateSession).2 := by
  have hplant : (plantScene crateScene).runIn { disk := crateDisk } = (.ok ⟨0⟩, crateSession) := rfl
  have hopen : OpenScene ⟨0⟩ crateSession := openScene_of_plantScene Linked.empty hplant
  have hrun : ((crateProcessor.convert ⟨0⟩).runIn crateSession).1.toOption = some () := by
    decide +kernel
  exact ⟨hopen, hrun, shape_of_convert crateProcessor hopen (runIn_eq_of_toOption hrun)⟩

end LevelPrep
