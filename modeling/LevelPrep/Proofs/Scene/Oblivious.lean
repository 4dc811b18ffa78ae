import LevelPrep.Proofs.Scene.Copying

/-!
# Planting and copying do not look around

What is planted depends on the size of the graph and on the resources, and on no node that is there
(`Stage.SameOn.plant`); what is copied depends on the copied tree beside (`Stage.SameOn.copyTree`).  So what is known
of both in a linked graph is known of them anywhere, be the links of the other nodes as broken as they may: it is the
same as on a stage on which the links of these nodes have been cleared (`linked_keepLinks`).  Nor do they touch
anything that is there (`adds_plant`, `adds_copyTree`).
-/

namespace LevelPrep

variable {R : Type}

namespace SceneGraph

/-- Two graphs of one size that agree on some places. -/
structure SameOn (P : NodeId → Prop) (g g' : SceneGraph R) : Prop where
  size_eq : g'.size = g.size
  node?_eq : ∀ x, P x → g'.node? x = g.node? x

/-- Children and owners of nodes at some places are at these places as well. -/
structure ClosedOn (P : NodeId → Prop) (g : SceneGraph R) : Prop where
  children : ∀ x child, P x → child ∈ g.children x → P child
  owner : ∀ x owner, P x → g.owner? x = some owner → P owner

variable {P Q : NodeId → Prop} {g g' : SceneGraph R} {x : NodeId}

/-- A walk does not leave the places. -/
theorem ClosedOn.of_mem_levelsFrom (h : g.ClosedOn P) (fuel : Nat) {level : List NodeId} (hlevel : ∀ x ∈ level, P x)
    (hx : x ∈ g.levelsFrom fuel level) : P x := by
  induction fuel generalizing level with
  | zero => cases hx
  | succ fuel ih =>
      rw [levelsFrom_succ] at hx
      rcases List.mem_append.1 hx with hx | hx
      · exact hlevel x hx
      · refine ih (fun child hchild => ?_) hx
        rcases List.mem_flatMap.1 hchild with ⟨parent, hparent, hmem⟩
        exact h.children parent child (hlevel parent hparent) hmem

theorem ClosedOn.of_mem_levelOrder (h : g.ClosedOn P) {root : NodeId} (hroot : P root)
    (hx : x ∈ g.levelOrder root) : P x := by
  rcases List.mem_cons.1 hx with rfl | hx
  · exact hroot
  · exact h.of_mem_levelsFrom _ (fun child hchild => h.children root child hroot hchild) hx

namespace SameOn

theorem mono (h : g.SameOn P g') (hPQ : ∀ x, Q x → P x) : g.SameOn Q g' :=
  ⟨h.size_eq, fun x hx => h.node?_eq x (hPQ x hx)⟩

theorem children_eq (h : g.SameOn P g') (hx : P x) : g'.children x = g.children x := by
  unfold children
  rw [h.node?_eq x hx]

theorem name_eq (h : g.SameOn P g') (hx : P x) : g'.name x = g.name x := by
  unfold name
  rw [h.node?_eq x hx]

theorem insert (h : g.SameOn P g') (n : Node R) :
    (g'.insert n).1 = (g.insert n).1 ∧ (g.insert n).2.SameOn P (g'.insert n).2 := by
  have hsize := h.size_eq
  refine ⟨by rw [insert_fst, insert_fst, hsize], by rw [size_insert, size_insert, hsize], fun x hx => ?_⟩
  rw [node?_insert, node?_insert, hsize, h.node?_eq x hx]

theorem modify (h : g.SameOn P g') (id : NodeId) (f : Node R → Node R) :
    (g.modify id f).SameOn P (g'.modify id f) := by
  refine ⟨by rw [size_modify, size_modify, h.size_eq], fun x hx => ?_⟩
  rw [node?_modify, node?_modify, h.node?_eq x hx]

theorem link (h : g.SameOn P g') (parent child : NodeId) :
    (g.link parent child).SameOn P (g'.link parent child) :=
  (h.modify child _).modify parent _

/-- Walks that do not leave the places are the same. -/
theorem levelsFrom_eq (h : g.SameOn P g') (hclosed : g.ClosedOn P) (fuel : Nat) {level : List NodeId}
    (hlevel : ∀ x ∈ level, P x) : g'.levelsFrom fuel level = g.levelsFrom fuel level := by
  induction fuel generalizing level with
  | zero => rfl
  | succ fuel ih =>
      have hsame : level.flatMap g'.children = level.flatMap g.children :=
        List.flatMap_congr fun x hx => h.children_eq (hlevel x hx)
      rw [levelsFrom_succ, levelsFrom_succ, hsame, ih]
      intro child hchild
      rcases List.mem_flatMap.1 hchild with ⟨parent, hparent, hmem⟩
      exact hclosed.children parent child (hlevel parent hparent) hmem

theorem levelOrder_eq (h : g.SameOn P g') (hclosed : g.ClosedOn P) (hx : P x) :
    g'.levelOrder x = g.levelOrder x := by
  unfold levelOrder descendants
  rw [h.children_eq hx, h.size_eq, h.levelsFrom_eq hclosed]
  exact fun child hchild => hclosed.children x child hx hchild

theorem ownTree (h : g.SameOn P g') (hclosed : g.ClosedOn P) (hx : P x) :
    (g.ownTree x).SameOn P (g'.ownTree x) := by
  have hown := relabelled_ownTree g x
  have hown' := relabelled_ownTree g' x
  refine ⟨by rw [hown'.size_eq, hown.size_eq, h.size_eq], fun y hy => ?_⟩
  rw [hown'.node?_eq, hown.node?_eq, h.node?_eq y hy, h.levelOrder_eq hclosed hx]

end SameOn

/-! ## Clearing links -/

open Classical in
/-- The graph without the links of the nodes at other places. -/
noncomputable def keepLinks (P : NodeId → Prop) (g : SceneGraph R) : SceneGraph R where
  nodes := g.nodes.mapIdx fun i n => if P ⟨i⟩ then n else { n with parent := none, children := [] }

open Classical in
theorem node?_keepLinks (P : NodeId → Prop) (g : SceneGraph R) (x : NodeId) : (g.keepLinks P).node? x =
    (g.node? x).map fun n => if P x then n else { n with parent := none, children := [] } :=
  Array.getElem?_mapIdx

/-- At the places whose links are kept, and behind the last node, nothing changes. -/
theorem sameOn_keepLinks (P : NodeId → Prop) (g : SceneGraph R) :
    (g.keepLinks P).SameOn (fun x => P x ∨ g.size ≤ x.index) g := by
  refine ⟨by simp [keepLinks, size], fun x hx => ?_⟩
  rw [node?_keepLinks]
  rcases hx with hx | hx
  · simp [hx]
  · have hnone : g.node? x = none := Array.getElem?_eq_none hx
    rw [hnone]
    rfl

/-- Where the links at some places are those of a linked graph, and do not lead elsewhere, the others can be cleared:
what is left is linked. -/
theorem linked_keepLinks (hg : g.Linked) (hsame : ∀ x, P x → g'.node? x = g.node? x)
    (hdown : ∀ x child, P x → child ∈ g.children x → P child)
    (hup : ∀ x parent, P x → g.parent? x = some parent → P parent) : (g'.keepLinks P).Linked := by
  have hchildren : ∀ x child, child ∈ (g'.keepLinks P).children x ↔ P x ∧ child ∈ g.children x := by
    intro x child
    unfold children
    rw [node?_keepLinks]
    by_cases hx : P x
    · rw [hsame x hx]
      cases g.node? x <;> simp [hx]
    · cases g'.node? x <;> simp [hx]
  have hparent : ∀ x parent, (g'.keepLinks P).parent? x = some parent ↔ P x ∧ g.parent? x = some parent := by
    intro x parent
    unfold parent?
    rw [node?_keepLinks]
    by_cases hx : P x
    · rw [hsame x hx]
      cases g.node? x <;> simp [hx]
    · cases g'.node? x <;> simp [hx]
  constructor
  case mem_children_iff =>
    intro parent child
    rw [hchildren, hparent]
    constructor
    · rintro ⟨hin, hchild⟩
      exact ⟨hdown parent child hin hchild, (hg.mem_children_iff parent child).1 hchild⟩
    · rintro ⟨hin, hlink⟩
      exact ⟨hup child parent hin hlink, (hg.mem_children_iff parent child).2 hlink⟩
  case nodup_children =>
    intro parent
    unfold children
    rw [node?_keepLinks]
    by_cases hx : P parent
    · rw [hsame parent hx]
      have hnodup := hg.nodup_children parent
      unfold children at hnodup
      cases hn : g.node? parent with
      | none => exact List.nodup_nil
      | some n => simpa [hn, hx] using hnodup
    · cases g'.node? parent <;> simp [hx]
  case ranked =>
    rcases hg.ranked with ⟨rank, hrank⟩
    exact ⟨rank, fun parent child hlink => hrank parent child ((hparent child parent).1 hlink).2⟩

end SceneGraph

namespace Stage

open SceneGraph

/-- Two stages with the same resources that agree on some places. -/
structure SameOn (P : NodeId → Prop) (stage stage' : Stage R) : Prop where
  graph : stage.graph.SameOn P stage'.graph
  resources : stage'.resources = stage.resources

variable {P : NodeId → Prop} {stage stage' : Stage R}

theorem SameOn.payloadValue_eq (h : stage.SameOn P stage') (n : Node R) :
    stage'.payloadValue n = stage.payloadValue n := by
  unfold payloadValue
  rw [h.resources]

theorem SameOn.insert (h : stage.SameOn P stage') (name : Json) (transform : Matrix R)
    (payload : Payload Geometry Material) :
    (Stage.insert name transform payload stage').1 = (Stage.insert name transform payload stage).1 ∧
      (Stage.insert name transform payload stage).2.SameOn P (Stage.insert name transform payload stage').2 := by
  unfold Stage.insert
  rw [h.resources]
  rcases h.graph.insert _ with ⟨hid, hsame⟩
  exact ⟨hid, hsame, rfl⟩

mutual

/-- What is planted depends on the size of the graph and on the resources, and on no node that is there. -/
theorem SameOn.plant : ∀ (branch : Branch R) {stage stage' : Stage R}, stage.SameOn P stage' →
    (Stage.plant branch stage').1 = (Stage.plant branch stage).1 ∧
      (Stage.plant branch stage).2.SameOn P (Stage.plant branch stage').2
  | .node name transform payload children, stage, stage', h => by
      rcases h.insert name transform payload with ⟨hid, hsame⟩
      rw [plant_node, plant_node]
      simp only [hid]
      exact ⟨trivial, SameOn.plantBelow children _ hsame⟩

theorem SameOn.plantBelow : ∀ (branches : List (Branch R)) (parent : NodeId) {stage stage' : Stage R},
    stage.SameOn P stage' →
    (Stage.plantBelow parent branches stage).2.SameOn P (Stage.plantBelow parent branches stage').2
  | [], _, _, _, h => h
  | branch :: rest, parent, stage, stage', h => by
      rcases SameOn.plant branch h with ⟨hid, hsame⟩
      rw [plantBelow_cons, plantBelow_cons]
      simp only [hid]
      exact SameOn.plantBelow rest parent ⟨hsame.graph.link parent _, hsame.resources⟩

end

/-- What is copied depends on the copied tree, the size of the graph and the resources. -/
theorem SameOn.copyTree (h : stage.SameOn P stage') (hclosed : stage.graph.ClosedOn P) {root : NodeId}
    (hroot : P root) : (Stage.copyTree root stage').1 = (Stage.copyTree root stage).1 ∧
      (Stage.copyTree root stage).2.SameOn (fun x => P x ∨ stage.graph.size ≤ x.index)
        (Stage.copyTree root stage').2 := by
  have hwalk := h.graph.levelOrder_eq hclosed hroot
  have hnodes : stage'.treeNodes root = stage.treeNodes root := by
    unfold treeNodes
    rw [hwalk]
    exact List.filterMap_congr fun x hx => h.graph.node?_eq x (hclosed.of_mem_levelOrder hroot hx)
  have hsize := h.graph.size_eq
  have hnode : stage'.nodeCopy root = stage.nodeCopy root := by
    unfold nodeCopy
    rw [hwalk, hsize]
  have hgeometries : stage'.treeGeometries root = stage.treeGeometries root := by
    unfold treeGeometries
    rw [hnodes]
  have hmaterials : stage'.treeMaterials root = stage.treeMaterials root := by
    unfold treeMaterials
    rw [hnodes]
  have hgeometry : stage'.geometryCopy root = stage.geometryCopy root := by
    unfold geometryCopy
    rw [hgeometries, h.resources]
  have hmaterial : stage'.materialCopy root = stage.materialCopy root := by
    unfold materialCopy
    rw [hmaterials, h.resources]
  unfold Stage.copyTree
  simp only [hnodes, hnode, hgeometries, hmaterials, hgeometry, hmaterial, h.resources]
  refine ⟨trivial, ⟨?_, fun x hx => ?_⟩, rfl⟩
  · simpa [size] using hsize
  · -- old places agree if they did before, and behind them both have the same copies
    have hsize' : stage'.graph.nodes.size = stage.graph.nodes.size := hsize
    unfold node?
    by_cases hlt : x.index < stage.graph.nodes.size
    · rw [Array.getElem?_append_left hlt, Array.getElem?_append_left (hsize'.symm ▸ hlt)]
      exact h.graph.node?_eq x (hx.resolve_right (Nat.not_le.2 hlt))
    · rw [Array.getElem?_append_right (Nat.not_lt.1 hlt),
        Array.getElem?_append_right (hsize'.symm ▸ Nat.not_lt.1 hlt), hsize']

/-- Trees that do not leave the places are dumped in the same way. -/
theorem SameOn.snapshotTo_eq (h : stage.SameOn P stage') (hclosed : stage.graph.ClosedOn P) (fuel : Nat)
    {x : NodeId} (hx : P x) : stage'.snapshotTo fuel x = stage.snapshotTo fuel x := by
  induction fuel generalizing x with
  | zero => rfl
  | succ fuel ih =>
      rw [snapshotTo_succ, snapshotTo_succ, h.graph.node?_eq x hx]
      cases hn : stage.graph.node? x with
      | none => rfl
      | some n =>
          have hchildren : n.children.mapM (stage'.snapshotTo fuel) = n.children.mapM (stage.snapshotTo fuel) := by
            refine mapM_congr fun child hchild => ih ?_
            exact hclosed.children x child hx (by rwa [children_of_node? hn])
          have howner : n.owner.map stage'.graph.name = n.owner.map stage.graph.name := by
            refine Option.map_congr fun owner howner => h.graph.name_eq ?_
            exact hclosed.owner x owner hx (by simpa [owner?, hn] using howner)
          simp only [Option.bind_some, hchildren, howner, h.payloadValue_eq]

theorem SameOn.snapshot?_eq (h : stage.SameOn P stage') (hclosed : stage.graph.ClosedOn P) {x : NodeId}
    (hx : P x) : stage'.snapshot? x = stage.snapshot? x := by
  unfold snapshot?
  rw [h.graph.size_eq, h.snapshotTo_eq hclosed _ hx]

/-! ## What was there -/

/-- Nodes, geometry and materials were added to a stage; those that were there are as they were. -/
structure Adds (stage stage' : Stage R) : Prop where
  resources : stage.resources.Extends stage'.resources
  size_le : stage.graph.size ≤ stage'.graph.size
  node?_eq : ∀ x : NodeId, x.index < stage.graph.size → stage'.graph.node? x = stage.graph.node? x

namespace Adds

variable {stage₁ : Stage R}

theorem trans (h : stage.Adds stage₁) (h' : stage₁.Adds stage') : stage.Adds stage' :=
  ⟨h.resources.trans h'.resources, h.size_le.trans h'.size_le,
    fun x hx => (h'.node?_eq x (hx.trans_le h.size_le)).trans (h.node?_eq x hx)⟩

theorem insert (stage : Stage R) (name : Json) (transform : Matrix R) (payload : Payload Geometry Material) :
    stage.Adds (Stage.insert name transform payload stage).2 := by
  refine ⟨(Resources.addPayload_spec payload stage.resources).1, ?_, fun x hx => ?_⟩
  · show stage.graph.size ≤ (stage.graph.insert _).2.size
    rw [size_insert]
    exact Nat.le_succ _
  · show (stage.graph.insert _).2.node? x = _
    exact node?_insert_of_lt stage.graph _ hx

theorem modify (h : stage.Adds stage') {id : NodeId} (hid : stage.graph.size ≤ id.index) (f : Node R → Node R) :
    stage.Adds { stage' with graph := stage'.graph.modify id f } := by
  refine ⟨h.resources, h.size_le.trans_eq (size_modify _ id f).symm, fun x hx => ?_⟩
  have hne : x ≠ id := by
    rintro rfl
    exact absurd hx (Nat.not_lt.2 hid)
  rw [node?_modify_of_ne hne, h.node?_eq x hx]

theorem link (h : stage.Adds stage') {parent child : NodeId} (hparent : stage.graph.size ≤ parent.index)
    (hchild : stage.graph.size ≤ child.index) :
    stage.Adds { stage' with graph := stage'.graph.link parent child } :=
  (h.modify hchild _).modify hparent _

/-- A tree of new nodes may be given to its root. -/
theorem ownTree (h : stage.Adds stage') {root : NodeId}
    (hnew : ∀ x ∈ stage'.graph.levelOrder root, stage.graph.size ≤ x.index) :
    stage.Adds { stage' with graph := stage'.graph.ownTree root } := by
  refine ⟨h.resources, h.size_le.trans_eq (relabelled_ownTree stage'.graph root).size_eq.symm, fun x hx => ?_⟩
  have hout : x ∉ stage'.graph.levelOrder root := fun hmem => absurd hx (Nat.not_lt.2 (hnew x hmem))
  exact (node?_ownTree_of_notMem hout).trans (h.node?_eq x hx)

end Adds

theorem plant_fst (branch : Branch R) (stage : Stage R) : (plant branch stage).1 = ⟨stage.graph.size⟩ := by
  cases branch
  rw [plant_node]
  rfl

mutual

/-- Planting a branch leaves alone what was there. -/
theorem adds_plant : ∀ (branch : Branch R) (stage : Stage R), stage.Adds (plant branch stage).2
  | .node name transform payload children, stage => by
      rw [plant_node]
      exact adds_plantBelow children (Adds.insert stage name transform payload) (Nat.le_refl _)

theorem adds_plantBelow : ∀ (branches : List (Branch R)) {parent : NodeId} {stage stage' : Stage R},
    stage.Adds stage' → stage.graph.size ≤ parent.index → stage.Adds (plantBelow parent branches stage').2
  | [], _, _, _, h, _ => h
  | branch :: rest, parent, stage, stage', h, hparent => by
      rw [plantBelow_cons]
      refine adds_plantBelow rest ((h.trans (adds_plant branch stage')).link hparent ?_) hparent
      rw [plant_fst]
      exact h.size_le

end

/-- So does copying a tree. -/
theorem adds_copyTree (stage : Stage R) (root : NodeId) : stage.Adds (copyTree root stage).2 :=
  ⟨extends_copyTree stage root, size_le_copyTree stage root, fun _ => node?_copyTree_of_lt⟩

end Stage

end LevelPrep
