import LevelPrep.Proofs.Level.Failing
import LevelPrep.Proofs.Level.Shape
import LevelPrep.Proofs.Pass.Hanging
import LevelPrep.Proofs.Pass.Order
import Mathlib.Algebra.Field.Rat

/-!
# Bodies in a converted level

The passes go over one static child after another, and over each child one pass after another; then come the
replacements and the flush.  None of them moves a node that is left in the level or gives it another name
(`Assembled.pose?_kept`), and none but the collision pass hangs anything under a static child.  So what the collision
pass has made of a static child is there in the end: behind the children that it had, a body for each mesh instance
to collide with, standing where that stands (`bodies_stand`).
-/

namespace LevelPrep

variable {R : Type}

open Work SceneGraph

/-- Passes over other children of a scene leave the children of a child as they are. -/
theorem SceneGraph.Reshaped.children_of_sibling [Zero R] [One R] {g g' : SceneGraph R} {scene child : NodeId}
    {roots : NodeId → Prop} (h : g.Reshaped scene roots g') (hg : g.Linked)
    (hroots : ∀ root, roots root → root ∈ g.children scene) (hchild : child ∈ g.children scene)
    (hleft : ¬ roots child) : g'.children child = g.children child := by
  have hsame := h.node?_of_sibling hg hroots hchild hleft (Within.refl g child)
  rw [children, hsame, children]

variable [Semiring R]

/-- Every child that the passes go over is given its bodies, and keeps them while they go over the others. -/
theorem hung_of_static {context : PassContext R} {passes : List PassKind} {nodes : List NodeId} {child : NodeId}
    {s s' : Session R} (hcollision : .collision ∈ passes) (hpasses : passes.Nodup) (hs : s.stage.graph.Linked)
    (hnodes : ∀ node ∈ nodes, node ∈ s.stage.graph.children context.scene) (hnodup : nodes.Nodup)
    (hchild : child ∈ nodes)
    (hrun : (nodes.forM fun node => passes.forM fun pass => pass.apply context node).runIn s = (.ok (), s')) :
    Hung child (collidable context child s.stage.graph) s.stage.graph s'.stage.graph := by
  have hin : ∀ node ∈ nodes, node.index < s.stage.graph.size := fun node hnode =>
    (hs.index_lt_of_mem_children (hnodes node hnode)).2
  rcases List.append_of_mem hchild with ⟨before, after, rfl⟩
  have honce := (List.nodup_cons.1 (List.nodup_middle.1 hnodup)).1
  rw [List.mem_append, not_or] at honce
  rcases exists_between_of_forM_append hrun with ⟨t, hfirst, hrest⟩
  rcases runIn_bind_eq_ok_iff.1 hrest with ⟨⟨⟩, u, hown, hlast⟩
  have hscene := hnodes child hchild
  have hlt := hin child hchild
  -- the children before this one
  have hbefore := reshaped_of_static hs (fun node hnode => hin node (List.mem_append_left _ hnode)) hfirst
  have hsame := hbefore.children_of_sibling hs
    (fun node hnode => hnodes node (List.mem_append_left _ hnode)) hscene honce.1
  -- this one
  have hlt' : child.index < t.stage.graph.size := hlt.trans_le hbefore.size_le
  have hmade := hung_of_passes hcollision hpasses hbefore.linked hlt' hown
  have hpassed := reshaped_of_passes hbefore.linked hlt' hown
  -- and those after it
  have hkept : ∀ node ∈ before ++ child :: after, node ∈ u.stage.graph.children context.scene := fun node hnode =>
    (Intact.of_reshaped hpassed).mem_children ((Intact.of_reshaped hbefore).mem_children (hnodes node hnode))
  have hlater : ∀ node ∈ after, node ∈ u.stage.graph.children context.scene := fun node hnode =>
    hkept node (List.mem_append_right before (List.mem_cons_of_mem child hnode))
  have hafter := reshaped_of_static hpassed.linked
    (fun node hnode => (hpassed.linked.index_lt_of_mem_children (hlater node hnode)).2) hlast
  have hsame' := hafter.children_of_sibling hpassed.linked hlater (hkept child hchild) honce.2
  exact hmade.between hs hlt hbefore hsame hafter hsame'

namespace Assembled

variable {tools : Tools R} {catalog : Catalog} {scene : NodeId} {static replaceable : List NodeId}
  {s t u s' : Session R}

/-- After the passes, no node is moved any more. -/
theorem pose?_kept (h : Assembled tools catalog scene static replaceable s t u s') {x : NodeId}
    {pose : Json × Matrix R} (hpose : t.stage.graph.pose? x = some pose) : s'.stage.graph.pose? x = some pose := by
  rcases Option.map_eq_some_iff.1 hpose with ⟨n, hn, rfl⟩
  have hfurnished : Intact scene t.stage.graph u.stage.graph := .of_furnished h.furnished
  rcases hfurnished.nodes x n hn with ⟨m, hm, hname, htransform, -⟩
  have hcut := h.cut.node?_eq x
  rw [hm, Option.map_some] at hcut
  rw [pose?_of_node? hcut, ← hname, ← htransform]

/-- In the tree of a static child, nodes stand as they stood before. -/
theorem relativeTransform_eq (h : Assembled tools catalog scene static replaceable s t u s') {root x : NodeId}
    (hroot : root ∈ static) (hx : s.stage.graph.Within root x) : s'.stage.graph.Within root x ∧
      s'.stage.graph.relativeTransform x root = s.stage.graph.relativeTransform x root := by
  have hlt := (h.opened.linked.index_lt_of_mem_children (h.mem_children_of_static hroot)).2
  have hltx := h.opened.linked.index_lt_of_within hx hlt
  rcases hx.exists_descends h.opened.linked with ⟨path, hpath⟩
  have hpath' : s'.stage.graph.Descends root x path := by
    refine hpath.of_kept fun y n hy hn => ?_
    rcases h.node?_of_static hroot hy hn with ⟨change, bodies, hn', -⟩
    exact ⟨_, hn', rfl, List.subset_append_left n.children bodies⟩
  have hltx' : x.index < s'.stage.graph.size := by
    rcases exists_node?_iff.2 hltx with ⟨n, hn⟩
    rcases h.node?_of_static hroot hx hn with ⟨change, bodies, hn', -⟩
    exact index_lt_of_node? hn'
  refine ⟨hpath'.within, ?_⟩
  rw [hpath.relativeTransform_eq_prod h.opened.linked hltx, hpath'.relativeTransform_eq_prod h.linked hltx']

end Assembled

/-- After a conversion, bodies stand under each static child where their mesh instances stand. -/
theorem standing_of_convert {settings : ImportSettings} {tools : Tools R} {p : LevelProcessor R} {scene : NodeId}
    {s s' : Session R} (hp : LevelProcessor.ofSettings settings tools = .ok p) (hcollision : .collision ∈ p.passes)
    (hscene : OpenScene scene s) (hrun : (p.convert scene).runIn s = (.ok (), s')) :
    ∃ (shelf : Shelf) (catalog : Catalog), Shelf.ofSettings s.disk p.settings.catalogs = .ok shelf ∧
      shelf.packedSceneCatalog = .ok catalog ∧ ∀ child ∈ staticChildren catalog scene s.stage.graph,
        Standing scene child (collidable (p.context scene) child s.stage.graph) s.stage.graph s'.stage.graph := by
  rcases exists_assembled hscene hrun with ⟨shelf, catalog, sorted, t, u, hconverted, h⟩
  refine ⟨shelf, catalog, hconverted.opened, hconverted.catalog_eq, fun child hchild => ?_⟩
  have hs := hscene.linked
  have hlt := (hs.index_lt_of_mem_children (h.mem_children_of_static hchild)).2
  rcases exists_node?_iff.2 hlt with ⟨n, hn⟩
  rcases h.reshaped.old child n hn with ⟨change, bodies, ht, -⟩
  have hkept := h.node?_static hchild (Within.refl _ child) ht
  have hnodes : ∀ node ∈ staticChildren catalog scene s.stage.graph, node ∈ s.stage.graph.children scene :=
    fun _ hnode => h.mem_children_of_static hnode
  have hhung : Hung child (collidable (p.context scene) child s.stage.graph) s.stage.graph t.stage.graph := by
    have hnodup : (staticChildren catalog scene s.stage.graph).Nodup := (hs.nodup_children scene).filter _
    have hpasses := hconverted.passes
    -- nothing has happened to the nodes before the passes
    have hsorted : sorted.stage.graph = s.stage.graph := by
      rcases hconverted.sorted_eq with ⟨journal, rfl⟩
      rfl
    rw [← hsorted] at hs hnodes hnodup hchild hpasses ⊢
    exact hung_of_static hcollision (LevelProcessor.made_of_ofSettings hp).nodup hs hnodes hnodup hchild hpasses
  have hend := hhung.later (by rw [children_of_node? hkept, children_of_node? ht]) fun _ _ => h.pose?_kept
  refine hend.standing h.linked ?_ fun x hx => h.relativeTransform_eq hchild (within_of_mem_collidable hs hx)
  intro bodies' hbodies'
  rcases h.node?_of_static hchild (Within.refl _ child) hn with ⟨_, _, hn', -, hisBody⟩
  rw [children_of_node? hn, children_of_node? hn'] at hbodies'
  rw [← List.append_cancel_left hbodies']
  exact fun body hbody => (hisBody body hbody).2

/-- With exact arithmetic, bodies stand where their mesh instances stand: after the collision pass over any subtree
of any linked graph, and after any conversion that makes bodies. -/
theorem bodies_stand (R : Type) [Semiring R] :
    (∀ (context : PassContext R) (root : NodeId) (s s' : Session R), s.stage.graph.Linked →
      root.index < s.stage.graph.size → (Collision.apply context root).runIn s = (.ok (), s') →
      Standing context.scene root (collidable context root s.stage.graph) s.stage.graph s'.stage.graph) ∧
    ∀ (settings : ImportSettings) (tools : Tools R) (p : LevelProcessor R) (scene : NodeId) (s s' : Session R),
      LevelProcessor.ofSettings settings tools = .ok p → .collision ∈ p.passes → OpenScene scene s →
      (p.convert scene).runIn s = (.ok (), s') →
      ∃ (shelf : Shelf) (catalog : Catalog), Shelf.ofSettings s.disk p.settings.catalogs = .ok shelf ∧
        shelf.packedSceneCatalog = .ok catalog ∧ ∀ child ∈ staticChildren catalog scene s.stage.graph,
          Standing scene child (collidable (p.context scene) child s.stage.graph) s.stage.graph s'.stage.graph := by
  constructor
  · intro context root s s' hs hroot hrun
    exact standing_of_apply hs hroot hrun
  · intro settings tools p scene s s' hp hcollision hscene hrun
    exact standing_of_convert hp hcollision hscene hrun

/-! ## A box on a board -/

/-- A matrix that moves and stretches. -/
def rackTransform (x y z size : ℚ) : Matrix ℚ :=
  ⟨⟨size, 0, 0, x⟩, ⟨0, size, 0, y⟩, ⟨0, 0, size, z⟩, ⟨0, 0, 0, 1⟩⟩

/-- A scene with a crate that has a match and with a rack that has none: on the rack is a board, and on that a box. -/
def rackScene : Branch ℚ :=
  .node (.str "Level") Matrix.identity .plain [
    .node (.str "Crate_1") Matrix.identity (.meshInstance { mesh := some {} }) [],
    .node (.str "Rack") (rackTransform 1 2 3 1) .plain [
      .node (.str "Board") (rackTransform 0 1 0 2) (.meshInstance { mesh := some {} }) [
        .node (.str "Box=OnlyCol") (rackTransform (1 / 2) 0 0 (1 / 3)) (.meshInstance { mesh := some {} }) []]]]

/-- Settings with the passes that need no textures. -/
def rackSettings : ImportSettings where
  levelIndicator := .str "Level"
  baseTexel := .float 0.2
  grammar :=
    { indicator := .str "=", valueStart := .str "\x7b", valueEnd := .str "\x7d"
      keywords := AttributeKind.all.map fun kind => (kind, .str kind.defaultKeyword) }
  catalogs := [("packed_scene", { root := .str "Scenes" })]
  passes := [.str "collision", .str "render_removal", .str "shadow"]

/-- Tools that read the one scene file that there is. -/
def rackTools : Tools ℚ where
  loadScene := fun _ _ => ([], .ok (.node (.str "Box") Matrix.identity .plain []))
  unwrap := fun mesh _ _ r => (.ok (Lightmap.placeholder mesh r), r)

def rackProcessor : LevelProcessor ℚ where
  settings := rackSettings
  grammar := Grammar.default
  passes := [.collision, .renderRemoval, .shadow]
  tools := rackTools

/-- The session with the planted scene. -/
def rackSession : Session ℚ :=
  ((plantScene rackScene).runIn { disk := crateDisk }).2

theorem bodies_stand_rackScene :
    rackSession.stage.graph.Linked ∧ (2 : Nat) < rackSession.stage.graph.size ∧
      collidable (rackProcessor.context ⟨0⟩) ⟨2⟩ rackSession.stage.graph = [⟨3⟩, ⟨4⟩] ∧
      ((Collision.apply (rackProcessor.context ⟨0⟩) ⟨2⟩).runIn rackSession).1.toOption = some () ∧
      Standing ⟨0⟩ ⟨2⟩ (collidable (rackProcessor.context ⟨0⟩) ⟨2⟩ rackSession.stage.graph)
        rackSession.stage.graph
        ((Collision.apply (rackProcessor.context ⟨0⟩) ⟨2⟩).runIn rackSession).2.stage.graph ∧
      LevelProcessor.ofSettings rackSettings rackTools = .ok rackProcessor ∧
      .collision ∈ rackProcessor.passes ∧ OpenScene ⟨0⟩ rackSession ∧
      ((Shelf.ofSettings rackSession.disk rackProcessor.settings.catalogs >>= fun (shelf : Shelf) =>
        shelf.packedSceneCatalog).map fun catalog =>
          staticChildren catalog ⟨0⟩ rackSession.stage.graph).toOption = some [⟨2⟩] ∧
      ((rackProcessor.convert ⟨0⟩).runIn rackSession).1.toOption = some () ∧
      ∃ (shelf : Shelf) (catalog : Catalog),
        Shelf.ofSettings rackSession.disk rackProcessor.settings.catalogs = .ok shelf ∧
        shelf.packedSceneCatalog = .ok catalog ∧ ∀ child ∈ staticChildren catalog ⟨0⟩ rackSession.stage.graph,
          Standing ⟨0⟩ child (collidable (rackProcessor.context ⟨0⟩) child rackSession.stage.graph)
            rackSession.stage.graph ((rackProcessor.convert ⟨0⟩).runIn rackSession).2.stage.graph := by
  have hplant : (plantScene rackScene).runIn { disk := crateDisk } = (.ok ⟨0⟩, rackSession) := rfl
  have hopen : OpenScene ⟨0⟩ rackSession := openScene_of_plantScene Linked.empty hplant
  have hinside : (2 : Nat) < rackSession.stage.graph.size := by decide +kernel
  have hmeshes : collidable (rackProcessor.context ⟨0⟩) ⟨2⟩ rackSession.stage.graph = [⟨3⟩, ⟨4⟩] := by
    decide +kernel
  have hpass : ((Collision.apply (rackProcessor.context ⟨0⟩) ⟨2⟩).runIn rackSession).1.toOption = some () := by
    decide +kernel
  have hp : LevelProcessor.ofSettings rackSettings rackTools = .ok rackProcessor := rfl
  have hcollision : .collision ∈ rackProcessor.passes := by decide
  have hstatic : ((Shelf.ofSettings rackSession.disk rackProcessor.settings.catalogs >>= fun (shelf : Shelf) =>
      shelf.packedSceneCatalog).map fun catalog =>
        staticChildren catalog ⟨0⟩ rackSession.stage.graph).toOption = some [⟨2⟩] := by
    decide +kernel
  have hrun : ((rackProcessor.convert ⟨0⟩).runIn rackSession).1.toOption = some () := by
    decide +kernel
  have hstanding := (bodies_stand ℚ).1 (rackProcessor.context ⟨0⟩) ⟨2⟩ rackSession _ hopen.linked hinside
    (runIn_eq_of_toOption hpass)
  exact ⟨hopen.linked, hinside, hmeshes, hpass, hstanding, hp, hcollision, hopen, hstatic, hrun,
    (bodies_stand ℚ).2 rackSettings rackTools rackProcessor ⟨0⟩ rackSession _ hp hcollision hopen
      (runIn_eq_of_toOption hrun)⟩

end LevelPrep
