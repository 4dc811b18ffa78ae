import LevelPrep.Proofs.Scene.OwnScene
import LevelPrep.Scene.Copy

/-!
# Copying trees

Copying a scene of its own is planting what it shows (`copyTree_spec`): the copy shows what the scene shows, is made of
new nodes that refer to new geometry and new materials, and is a scene of its own as well.  All other nodes stay as
they were.
-/

namespace LevelPrep

variable {R : Type}

/-! ## References to copies -/

/-- Where every item has a result, the results stand at the places of their items. -/
theorem getElem?_filterMap_of_forall {α β : Type} {copied : List α} {f : α → Option β}
    (hall : ∀ a ∈ copied, ∃ b, f a = some b) (place : Nat) :
    (copied.filterMap f)[place]? = copied[place]?.bind f := by
  induction copied generalizing place with
  | nil => rfl
  | cons a rest ih =>
      rcases hall a List.mem_cons_self with ⟨b, hb⟩
      rw [List.filterMap_cons_some hb]
      cases place with
      | zero => simp [hb]
      | succ place => exact ih (fun c hc => hall c (List.mem_cons_of_mem a hc)) place

section

variable {α β : Type} [DecidableEq α] {ref : Nat → α} {copied : List α} {start : Nat} {x y : α}

theorem copyOf_of_mem (hx : x ∈ copied) : copyOf ref copied start x = ref (start + copied.idxOf x) :=
  if_pos hx

/-- Different things have different copies. -/
theorem copyOf_inj (href : Function.Injective ref) (hx : x ∈ copied) (hy : y ∈ copied)
    (h : copyOf ref copied start x = copyOf ref copied start y) : x = y := by
  rw [copyOf_of_mem hx, copyOf_of_mem hy] at h
  exact (List.idxOf_inj hx).1 (Nat.add_left_cancel (href h))

/-- The copy of a thing stands behind all that was there, at the place of the thing among those that are copied. -/
theorem getElem?_append_copies (items : Array β) (f : α → β) (hx : x ∈ copied) :
    (items ++ (copied.map f).toArray)[items.size + copied.idxOf x]? = some (f x) := by
  rw [Array.getElem?_append_right (Nat.le_add_right _ _), Nat.add_sub_cancel_left]
  simp [List.getElem?_idxOf hx]

end

namespace Stage

open SceneGraph

section

variable {stage : Stage R} {branch : Branch R} {root x y z : NodeId} {n : Node R}

theorem copyTree_fst (stage : Stage R) (root : NodeId) : (copyTree root stage).1 = stage.nodeCopy root root :=
  rfl

/-- Every node of a tree that is there is there. -/
theorem exists_node?_of_mem_levelOrder (hg : stage.graph.Linked) (hroot : root.index < stage.graph.size)
    (hx : x ∈ stage.graph.levelOrder root) : ∃ n, stage.graph.node? x = some n :=
  exists_node?_iff.2 (hg.index_lt_of_within ((mem_levelOrder_iff hg).1 hx) hroot)

/-- The nodes that were there are as they were. -/
theorem node?_copyTree_of_lt (hx : x.index < stage.graph.size) :
    (copyTree root stage).2.graph.node? x = stage.graph.node? x :=
  Array.getElem?_append_left hx

theorem size_le_copyTree (stage : Stage R) (root : NodeId) :
    stage.graph.size ≤ (copyTree root stage).2.graph.size := by
  simp [copyTree, size]

theorem nodeCopy_of_within (hg : stage.graph.Linked) (hx : stage.graph.Within root x) :
    stage.nodeCopy root x = ⟨stage.graph.size + (stage.graph.levelOrder root).idxOf x⟩ :=
  copyOf_of_mem ((mem_levelOrder_iff hg).2 hx)

/-- Copies are new. -/
theorem size_le_nodeCopy (hg : stage.graph.Linked) (hx : stage.graph.Within root x) :
    stage.graph.size ≤ (stage.nodeCopy root x).index := by
  rw [nodeCopy_of_within hg hx]
  exact Nat.le_add_right _ _

/-- Different nodes have different copies. -/
theorem nodeCopy_inj (hg : stage.graph.Linked) (hx : stage.graph.Within root x) (hy : stage.graph.Within root y)
    (h : stage.nodeCopy root x = stage.nodeCopy root y) : x = y :=
  copyOf_inj (fun _ _ => NodeId.mk.inj) ((mem_levelOrder_iff hg).2 hx) ((mem_levelOrder_iff hg).2 hy) h

/-- The node with its references replaced by those to copies. -/
def copyNode (stage : Stage R) (root : NodeId) (n : Node R) : Node R :=
  n.refer (stage.nodeCopy root) (stage.geometryCopy root) (stage.materialCopy root)

/-- What stands behind the nodes that were there are copies of the nodes of the tree, in the order of the walk. -/
theorem node?_copyTree_add (hg : stage.graph.Linked) (hroot : root.index < stage.graph.size) (place : Nat) :
    (copyTree root stage).2.graph.node? ⟨stage.graph.size + place⟩ =
      (((stage.graph.levelOrder root)[place]?).bind stage.graph.node?).map (stage.copyNode root) := by
  have hthere : ∀ x ∈ stage.graph.levelOrder root, ∃ n, stage.graph.node? x = some n :=
    fun x => exists_node?_of_mem_levelOrder hg hroot
  have hnodes := getElem?_filterMap_of_forall hthere place
  rw [← hnodes, ← List.getElem?_map]
  show (stage.graph.nodes ++ _)[stage.graph.nodes.size + place]? = _
  rw [Array.getElem?_append_right (Nat.le_add_right _ _), Nat.add_sub_cancel_left, List.getElem?_toArray]
  rfl

/-- The copy of a node of the tree. -/
theorem node?_nodeCopy (hg : stage.graph.Linked) (hroot : root.index < stage.graph.size)
    (hx : stage.graph.Within root x) : (copyTree root stage).2.graph.node? (stage.nodeCopy root x) =
      (stage.graph.node? x).map (stage.copyNode root) := by
  rw [nodeCopy_of_within hg hx, node?_copyTree_add hg hroot,
    List.getElem?_idxOf ((mem_levelOrder_iff hg).2 hx), Option.bind_some]

/-- A node that was not there before is the copy of a node of the tree. -/
theorem exists_of_copied (hg : stage.graph.Linked) (hroot : root.index < stage.graph.size)
    (hz : stage.graph.size ≤ z.index) (hn : (copyTree root stage).2.graph.node? z = some n) :
    ∃ x m, stage.graph.Within root x ∧ z = stage.nodeCopy root x ∧ stage.graph.node? x = some m ∧
      n = stage.copyNode root m := by
  rcases z with ⟨place⟩
  obtain ⟨place, rfl⟩ : ∃ k, place = stage.graph.size + k := Nat.exists_eq_add_of_le hz
  rw [node?_copyTree_add hg hroot] at hn
  rcases Option.map_eq_some_iff.1 hn with ⟨m, hm, rfl⟩
  rcases Option.bind_eq_some_iff.1 hm with ⟨x, hx, hm⟩
  have hin := (mem_levelOrder_iff hg).1 (List.mem_of_getElem? hx)
  refine ⟨x, m, hin, ?_, hm, rfl⟩
  -- no node is met twice, so the place of the node is the one that it was found at
  rcases List.getElem?_eq_some_iff.1 hx with ⟨hlt, rfl⟩
  rw [nodeCopy_of_within hg hin, (nodup_levelOrder hg root).idxOf_getElem]

/-! ### Resources -/

theorem extends_copyTree (stage : Stage R) (root : NodeId) :
    stage.resources.Extends (copyTree root stage).2.resources where
  geometry i g h := by
    rw [← h]
    exact Array.getElem?_append_left (Array.getElem?_eq_some_iff.1 h).1
  material i m h := by
    rw [← h]
    exact Array.getElem?_append_left (Array.getElem?_eq_some_iff.1 h).1

/-- The copy of geometry is new, and it is a copy. -/
theorem geometryCopy_spec {id : GeometryId} (hid : id ∈ stage.treeGeometries root) :
    (copyTree root stage).2.resources.HasGeometry (stage.geometryCopy root id) ∧
      (copyTree root stage).2.resources.geometry (stage.geometryCopy root id) = stage.resources.geometry id ∧
      stage.resources.geometries.size ≤ (stage.geometryCopy root id).index := by
  have hcopy : stage.geometryCopy root id =
      ⟨stage.resources.geometries.size + (stage.treeGeometries root).idxOf id⟩ := copyOf_of_mem hid
  have hput : (copyTree root stage).2.resources.geometries[(stage.geometryCopy root id).index]? =
      some (stage.resources.geometry id) := by
    rw [hcopy]
    exact getElem?_append_copies _ _ hid
  refine ⟨(Array.getElem?_eq_some_iff.1 hput).1, ?_, hcopy ▸ Nat.le_add_right _ _⟩
  rw [Resources.geometry, Array.getD_eq_getD_getElem?, hput, Option.getD_some]

/-- The copy of a material is new, and it is a copy. -/
theorem materialCopy_spec {id : MaterialId} (hid : id ∈ stage.treeMaterials root) :
    (copyTree root stage).2.resources.HasMaterial (stage.materialCopy root id) ∧
      (copyTree root stage).2.resources.material (stage.materialCopy root id) = stage.resources.material id ∧
      stage.resources.materials.size ≤ (stage.materialCopy root id).index := by
  have hcopy : stage.materialCopy root id =
      ⟨stage.resources.materials.size + (stage.treeMaterials root).idxOf id⟩ := copyOf_of_mem hid
  have hput : (copyTree root stage).2.resources.materials[(stage.materialCopy root id).index]? =
      some (stage.resources.material id) := by
    rw [hcopy]
    exact getElem?_append_copies _ _ hid
  refine ⟨(Array.getElem?_eq_some_iff.1 hput).1, ?_, hcopy ▸ Nat.le_add_right _ _⟩
  rw [Resources.material, Array.getD_eq_getD_getElem?, hput, Option.getD_some]

/-- What a node of the tree refers to is copied. -/
theorem mem_tree_of_payload (hg : stage.graph.Linked) (hx : stage.graph.Within root x)
    (hn : stage.graph.node? x = some n) : (∀ id ∈ n.payload.geometries, id ∈ stage.treeGeometries root) ∧
      ∀ id ∈ n.payload.materials, id ∈ stage.treeMaterials root := by
  have hin : n ∈ stage.treeNodes root := List.mem_filterMap.2 ⟨x, (mem_levelOrder_iff hg).2 hx, hn⟩
  exact ⟨fun id hid => List.mem_eraseDups.2 (List.mem_flatMap.2 ⟨n, hin, hid⟩),
    fun id hid => List.mem_eraseDups.2 (List.mem_flatMap.2 ⟨n, hin, hid⟩)⟩

/-- The copy of a node refers to copies: these are new, and it shows what the node shows. -/
theorem payload_copyNode (hg : stage.graph.Linked) (hx : stage.graph.Within root x)
    (hn : stage.graph.node? x = some n) :
    (stage.copyNode root n).payload.Known (copyTree root stage).2.resources ∧
      (stage.copyNode root n).payload.Fresh stage.resources ∧
      (copyTree root stage).2.payloadValue (stage.copyNode root n) = stage.payloadValue n := by
  rcases mem_tree_of_payload hg hx hn with ⟨hgeometry, hmaterial⟩
  refine ⟨Payload.known_iff.2 ?_, Payload.fresh_iff.2 ?_, ?_⟩
  · simp only [copyNode, Node.refer, Payload.geometries_map, Payload.materials_map, List.forall_mem_map]
    exact ⟨fun id hid => (geometryCopy_spec (hgeometry id hid)).1,
      fun id hid => (materialCopy_spec (hmaterial id hid)).1⟩
  · simp only [copyNode, Node.refer, Payload.geometries_map, Payload.materials_map, List.forall_mem_map]
    exact ⟨fun id hid => (geometryCopy_spec (hgeometry id hid)).2.2,
      fun id hid => (materialCopy_spec (hmaterial id hid)).2.2⟩
  · unfold payloadValue copyNode Node.refer
    rw [Payload.map_map]
    exact Payload.map_congr (fun id hid => (geometryCopy_spec (hgeometry id hid)).2.1)
      (fun id hid => (materialCopy_spec (hmaterial id hid)).2.1)

/-! ### Links -/

theorem children_nodeCopy (hg : stage.graph.Linked) (hroot : root.index < stage.graph.size)
    (hx : stage.graph.Within root x) : (copyTree root stage).2.graph.children (stage.nodeCopy root x) =
      (stage.graph.children x).map (stage.nodeCopy root) := by
  unfold children
  rw [node?_nodeCopy hg hroot hx]
  cases stage.graph.node? x <;> rfl

theorem parent?_nodeCopy (hg : stage.graph.Linked) (hroot : root.index < stage.graph.size)
    (hx : stage.graph.Within root x) : (copyTree root stage).2.graph.parent? (stage.nodeCopy root x) =
      (stage.graph.parent? x).map (stage.nodeCopy root) := by
  unfold parent?
  rw [node?_nodeCopy hg hroot hx]
  cases stage.graph.node? x <;> rfl

/-- What lies below a copy are copies of what lies below the node. -/
theorem exists_of_within_nodeCopy (hg : stage.graph.Linked) (hroot : root.index < stage.graph.size) {top : NodeId}
    (htop : stage.graph.Within root top)
    (hz : (copyTree root stage).2.graph.Within (stage.nodeCopy root top) z) :
    ∃ x, stage.graph.Within top x ∧ z = stage.nodeCopy root x := by
  induction hz with
  | refl => exact ⟨top, Within.refl _ top, rfl⟩
  | @tail parent child _ hchild ih =>
      rcases ih with ⟨x, hx, rfl⟩
      rw [children_nodeCopy hg hroot (htop.trans hx)] at hchild
      rcases List.mem_map.1 hchild with ⟨y, hy, rfl⟩
      exact ⟨y, hx.child hy, rfl⟩

/-- The parents after copying: a link is one that was there, or the copy of a link of the tree. -/
theorem parent?_copyTree_iff (hg : stage.graph.Linked) (h : stage.OwnScene branch root) {parent child : NodeId} :
    (copyTree root stage).2.graph.parent? child = some parent ↔ child ∈ stage.graph.children parent ∨
      ∃ x y, stage.graph.Within root x ∧ y ∈ stage.graph.children x ∧ parent = stage.nodeCopy root x ∧
        child = stage.nodeCopy root y := by
  constructor
  · intro hparent
    rcases exists_node?_of_parent? hparent with ⟨n, hn, hlink⟩
    by_cases hold : child.index < stage.graph.size
    · rw [node?_copyTree_of_lt hold] at hn
      exact Or.inl ((hg.mem_children_iff parent child).2 ((parent?_of_node? hn).trans hlink))
    · rcases exists_of_copied hg h.index_lt (Nat.not_lt.1 hold) hn with ⟨y, m, hy, rfl, hm, rfl⟩
      rcases Option.map_eq_some_iff.1 hlink with ⟨x, hx, rfl⟩
      have hmem := (hg.mem_children_iff x y).2 ((parent?_of_node? hm).trans hx)
      exact Or.inr ⟨x, y, h.within_parent hg hy hm hx, hmem, rfl, rfl⟩
  · rintro (hmem | ⟨x, y, hx, hy, rfl, rfl⟩)
    · unfold parent?
      rw [node?_copyTree_of_lt (hg.index_lt_of_mem_children hmem).2]
      exact (hg.mem_children_iff parent child).1 hmem
    · rw [parent?_nodeCopy hg h.index_lt (hx.child hy), (hg.mem_children_iff x y).1 hy, Option.map_some]

/-- The children after copying are told by the same links. -/
theorem mem_children_copyTree_iff (hg : stage.graph.Linked) (h : stage.OwnScene branch root) {parent child : NodeId} :
    child ∈ (copyTree root stage).2.graph.children parent ↔ child ∈ stage.graph.children parent ∨
      ∃ x y, stage.graph.Within root x ∧ y ∈ stage.graph.children x ∧ parent = stage.nodeCopy root x ∧
        child = stage.nodeCopy root y := by
  constructor
  · intro hmem
    rcases exists_node?_of_mem_children hmem with ⟨n, hn, hlink⟩
    by_cases hold : parent.index < stage.graph.size
    · rw [node?_copyTree_of_lt hold] at hn
      exact Or.inl (by rwa [children_of_node? hn])
    · rcases exists_of_copied hg h.index_lt (Nat.not_lt.1 hold) hn with ⟨x, m, hx, rfl, hm, rfl⟩
      rcases List.mem_map.1 hlink with ⟨y, hy, rfl⟩
      exact Or.inr ⟨x, y, hx, by rwa [children_of_node? hm], rfl, rfl⟩
  · rintro (hmem | ⟨x, y, hx, hy, rfl, rfl⟩)
    · unfold children
      rw [node?_copyTree_of_lt (hg.index_lt_of_mem_children hmem).1]
      exact hmem
    · rw [children_nodeCopy hg h.index_lt hx]
      exact List.mem_map_of_mem hy

/-- The node that a copy was made of. -/
def copySource (stage : Stage R) (root z : NodeId) : NodeId :=
  (stage.graph.levelOrder root).getD (z.index - stage.graph.size) root

theorem copySource_nodeCopy (hg : stage.graph.Linked) (hx : stage.graph.Within root x) :
    stage.copySource root (stage.nodeCopy root x) = x := by
  rw [copySource, nodeCopy_of_within hg hx, Nat.add_sub_cancel_left, List.getD_eq_getElem?_getD,
    List.getElem?_idxOf ((mem_levelOrder_iff hg).2 hx), Option.getD_some]

/-- Copying a scene keeps the graph linked. -/
theorem linked_copyTree (hg : stage.graph.Linked) (h : stage.OwnScene branch root) :
    (copyTree root stage).2.graph.Linked where
  mem_children_iff parent child := (mem_children_copyTree_iff hg h).trans (parent?_copyTree_iff hg h).symm
  nodup_children parent := by
    by_cases hold : parent.index < stage.graph.size
    · unfold children
      rw [node?_copyTree_of_lt hold]
      exact hg.nodup_children parent
    · cases hn : (copyTree root stage).2.graph.node? parent with
      | none => simp [children, hn]
      | some n =>
          rcases exists_of_copied hg h.index_lt (Nat.not_lt.1 hold) hn with ⟨x, m, hx, rfl, -⟩
          rw [children_nodeCopy hg h.index_lt hx]
          exact List.Nodup.map_on (fun y hy z hz => nodeCopy_inj hg (hx.child hy) (hx.child hz)) (hg.nodup_children x)
  ranked := by
    rcases hg.ranked with ⟨rank, hrank⟩
    -- a copy has the rank of the node that it was made of
    refine ⟨fun z => if z.index < stage.graph.size then rank z else rank (stage.copySource root z), ?_⟩
    intro parent child hlink
    beta_reduce
    rcases (parent?_copyTree_iff hg h).1 hlink with hmem | ⟨x, y, hx, hy, rfl, rfl⟩
    · rcases hg.index_lt_of_mem_children hmem with ⟨hparent, hchild⟩
      rw [if_pos hparent, if_pos hchild]
      exact hrank parent child ((hg.mem_children_iff parent child).1 hmem)
    · rw [if_neg (Nat.not_lt.2 (size_le_nodeCopy hg hx)), if_neg (Nat.not_lt.2 (size_le_nodeCopy hg (hx.child hy))),
        copySource_nodeCopy hg hx, copySource_nodeCopy hg (hx.child hy)]
      exact hrank x y ((hg.mem_children_iff x y).1 hy)

/-! ### What copying does -/

/-- The copy looks like the tree. -/
theorem looksAs_nodeCopy (hg : stage.graph.Linked) (hroot : root.index < stage.graph.size)
    (hx : stage.graph.Within root x) : stage.LooksAs (copyTree root stage).2 (stage.nodeCopy root) x := by
  intro n hn
  refine ⟨stage.copyNode root n, ?_, rfl, rfl, (payload_copyNode hg hx hn).2.2, rfl⟩
  rw [node?_nodeCopy hg hroot hx, hn, Option.map_some]

/-- Copying a scene is planting what it shows, as a scene of its own. -/
theorem copyTree_spec (hg : stage.graph.Linked) (h : stage.OwnScene branch root) :
    stage.Planted branch (copyTree root stage).1 (copyTree root stage).2 ∧
      (copyTree root stage).2.OwnScene branch (copyTree root stage).1 := by
  have hlinked := linked_copyTree hg h
  have hself := Within.refl stage.graph root
  have hshown : (copyTree root stage).2.Shows branch (stage.nodeCopy root root) :=
    h.shown.of_image fun x hx => looksAs_nodeCopy hg h.index_lt hx
  have hfree : (copyTree root stage).2.graph.parent? (stage.nodeCopy root root) = none := by
    rw [parent?_nodeCopy hg h.index_lt hself, h.parent?_eq, Option.map_none]
  rw [copyTree_fst]
  refine ⟨⟨⟨⟨hlinked, extends_copyTree stage root, size_le_copyTree stage root, ?_⟩,
    fun x => node?_copyTree_of_lt⟩, size_le_nodeCopy hg hself, hfree, hshown⟩, hshown, ?_, ?_, ?_⟩
  · intro z n hz hn
    rcases exists_of_copied hg h.index_lt hz hn with ⟨x, m, hx, rfl, hm, rfl⟩
    rcases h.kept hx hm with ⟨hqueued, howner⟩
    rcases payload_copyNode hg hx hm with ⟨hknown, hfresh, -⟩
    refine ⟨hqueued, fun owner howned => ?_, hknown, hfresh⟩
    rcases Option.map_eq_some_iff.1 howned with ⟨o, ho, rfl⟩
    cases howner o ho
    have hroot := hshown.exists_node
    exact ⟨size_le_nodeCopy hg hself, exists_node?_iff.1 hroot⟩
  · rcases h.free with ⟨n, hn, hparent, howner, hqueued⟩
    refine ⟨stage.copyNode root n, ?_, ?_, ?_, hqueued⟩
    · rw [node?_nodeCopy hg h.index_lt hself, hn, Option.map_some]
    · show n.parent.map _ = none
      rw [hparent, Option.map_none]
    · show n.owner.map _ = none
      rw [howner, Option.map_none]
  · intro child hchild z hz
    rw [children_nodeCopy hg h.index_lt hself] at hchild
    rcases List.mem_map.1 hchild with ⟨c, hc, rfl⟩
    have hin := hself.child hc
    rcases exists_of_within_nodeCopy hg h.index_lt hin hz with ⟨x, hx, rfl⟩
    rcases h.below c hc x hx with ⟨howner, hstays⟩
    have hnode := node?_nodeCopy hg h.index_lt (hin.trans hx)
    constructor
    · rw [owner?, hnode]
      rcases Option.bind_eq_some_iff.1 howner with ⟨m, hm, howned⟩
      rw [hm]
      show m.owner.map _ = _
      rw [howned, Option.map_some]
    · rw [SceneGraph.isQueued, hnode]
      unfold SceneGraph.isQueued at hstays
      cases hm : stage.graph.node? x with
      | none => rfl
      | some m =>
          rw [hm] at hstays
          exact hstays
  · intro z n hz hn
    rcases exists_of_within_nodeCopy hg h.index_lt hself hz with ⟨x, hx, rfl⟩
    rw [node?_nodeCopy hg h.index_lt hx] at hn
    rcases Option.map_eq_some_iff.1 hn with ⟨m, hm, rfl⟩
    exact (payload_copyNode hg hx hm).1

end

end Stage

end LevelPrep
