import LevelPrep.Proofs.Scene.Oblivious
import Mathlib.Data.Set.Basic

/-!
# What leads where

The nodes, the geometry and the materials of a stage are its things.  A node refers to its parent, its owner and its
children, and to the geometry and the materials that it shows; who holds a reference can follow it, and reaches what
`Reaches` tells.

* `Reaches.mem_of_closed`: a set of things that refer to each other only is not left;
* `reaches_congr`: what is reached depends on nothing but what is reached;
* `OwnScene.reaches_node_iff`: from the root of a scene of its own the nodes of the scene are reached, and no others;
* `Planted.closed_new`: the things that were planted refer to each other only.
-/

namespace LevelPrep

variable {R : Type}

/-- A reference to a thing of a stage. -/
inductive Ref where
  | node (id : NodeId)
  | geometry (id : GeometryId)
  | material (id : MaterialId)

/-- What a reference stands for. -/
inductive Thing (R : Type) where
  | node (n : Node R)
  | geometry (g : Geometry)
  | material (m : Material)

/-- What a thing refers to. -/
def Thing.refs : Thing R → List Ref
  | .node n => n.parent.toList.map .node ++ n.owner.toList.map .node ++ n.children.map .node ++
      n.payload.geometries.map .geometry ++ n.payload.materials.map .material
  | .geometry _ => []
  | .material _ => []

namespace Stage

open SceneGraph

/-- The thing under a reference. -/
def thing? (stage : Stage R) : Ref → Option (Thing R)
  | .node id => (stage.graph.node? id).map .node
  | .geometry id => stage.resources.geometries[id.index]?.map .geometry
  | .material id => stage.resources.materials[id.index]?.map .material

/-- The references under which there is something. -/
def things (stage : Stage R) : Set Ref :=
  { x | ∃ t, stage.thing? x = some t }

/-- One thing refers to another. -/
def Refers (stage : Stage R) (x y : Ref) : Prop :=
  ∃ t, stage.thing? x = some t ∧ y ∈ t.refs

/-- References lead from one thing to another. -/
def Reaches (stage : Stage R) : (x y : Ref) → Prop :=
  Relation.ReflTransGen stage.Refers

variable {stage stage' : Stage R} {root id : NodeId} {x y : Ref} {branch : Branch R}

theorem Reaches.refl (stage : Stage R) (x : Ref) : stage.Reaches x x :=
  Relation.ReflTransGen.refl

theorem Reaches.refers {z : Ref} (h : stage.Reaches x y) (hz : stage.Refers y z) : stage.Reaches x z :=
  Relation.ReflTransGen.tail h hz

/-- A set of things that refer to each other only is not left. -/
theorem Reaches.mem_of_closed {S : Set Ref} (h : stage.Reaches x y) (hclosed : ∀ x ∈ S, ∀ y, stage.Refers x y → y ∈ S)
    (hx : x ∈ S) : y ∈ S := by
  induction h with
  | refl => exact hx
  | tail _ hrefers ih => exact hclosed _ ih _ hrefers

/-- What is reached depends on nothing but the things that are reached. -/
theorem reaches_congr (hsame : ∀ y, stage.Reaches x y → stage'.thing? y = stage.thing? y) :
    stage'.Reaches x y ↔ stage.Reaches x y := by
  constructor
  · intro h
    induction h with
    | refl => exact Reaches.refl stage x
    | @tail y z _ hrefers ih =>
        refine ih.refers ?_
        unfold Refers at hrefers ⊢
        rwa [hsame y ih] at hrefers
  · intro h
    induction h with
    | refl => exact Reaches.refl stage' x
    | @tail y z hy hrefers ih =>
        refine ih.refers ?_
        unfold Refers at hrefers ⊢
        rwa [hsame y hy]

/-! ## Things of a stage -/

theorem node_mem_things : Ref.node id ∈ stage.things ↔ id.index < stage.graph.size := by
  rw [← exists_node?_iff]
  constructor
  · rintro ⟨t, ht⟩
    rcases Option.map_eq_some_iff.1 ht with ⟨n, hn, -⟩
    exact ⟨n, hn⟩
  · rintro ⟨n, hn⟩
    exact ⟨.node n, by rw [thing?, hn, Option.map_some]⟩

theorem geometry_mem_things {id : GeometryId} :
    Ref.geometry id ∈ stage.things ↔ id.index < stage.resources.geometries.size := by
  constructor
  · rintro ⟨t, ht⟩
    rcases Option.map_eq_some_iff.1 ht with ⟨g, hg, -⟩
    exact (Array.getElem?_eq_some_iff.1 hg).1
  · intro h
    exact ⟨_, by rw [thing?, Array.getElem?_eq_getElem h, Option.map_some]⟩

theorem material_mem_things {id : MaterialId} :
    Ref.material id ∈ stage.things ↔ id.index < stage.resources.materials.size := by
  constructor
  · rintro ⟨t, ht⟩
    rcases Option.map_eq_some_iff.1 ht with ⟨m, hm, -⟩
    exact (Array.getElem?_eq_some_iff.1 hm).1
  · intro h
    exact ⟨_, by rw [thing?, Array.getElem?_eq_getElem h, Option.map_some]⟩

/-- Where things were only added, those that were there are as they were. -/
theorem Adds.thing?_eq (h : stage.Adds stage') (hx : x ∈ stage.things) : stage'.thing? x = stage.thing? x := by
  cases x with
  | node id => rw [thing?, thing?, h.node?_eq id (node_mem_things.1 hx)]
  | geometry id =>
      have hthere := Array.getElem?_eq_getElem (geometry_mem_things.1 hx)
      rw [thing?, thing?, hthere, h.resources.geometry id.index _ hthere]
  | material id =>
      have hthere := Array.getElem?_eq_getElem (material_mem_things.1 hx)
      rw [thing?, thing?, hthere, h.resources.material id.index _ hthere]

/-- What refers to something is a node. -/
theorem exists_node_of_refers (h : stage.Refers x y) :
    ∃ id n, x = .node id ∧ stage.graph.node? id = some n ∧ y ∈ (Thing.node n).refs := by
  rcases h with ⟨t, ht, hy⟩
  cases x with
  | node id =>
      rcases Option.map_eq_some_iff.1 ht with ⟨n, hn, rfl⟩
      exact ⟨id, n, rfl, hn, hy⟩
  | geometry id =>
      rcases Option.map_eq_some_iff.1 ht with ⟨g, -, rfl⟩
      cases hy
  | material id =>
      rcases Option.map_eq_some_iff.1 ht with ⟨m, -, rfl⟩
      cases hy

theorem not_refers_material {id : MaterialId} : ¬ stage.Refers (.material id) y := by
  intro h
  rcases exists_node_of_refers h with ⟨_, _, ⟨⟩, -⟩

/-- What holds of the links of a node, and of the references of its payload, holds of all that it refers to. -/
theorem forall_refs_iff {n : Node R} {S : Set Ref} : (∀ y ∈ (Thing.node n).refs, y ∈ S) ↔
    (∀ parent, n.parent = some parent → .node parent ∈ S) ∧ (∀ owner, n.owner = some owner → .node owner ∈ S) ∧
      (∀ child ∈ n.children, .node child ∈ S) ∧ (∀ id ∈ n.payload.geometries, .geometry id ∈ S) ∧
        ∀ id ∈ n.payload.materials, .material id ∈ S := by
  simp [Thing.refs, or_imp, forall_and]

/-- A set of things is closed if all that its nodes refer to lies in it. -/
theorem closed_of_nodes {S : Set Ref}
    (hnodes : ∀ id n, Ref.node id ∈ S → stage.graph.node? id = some n → ∀ y ∈ (Thing.node n).refs, y ∈ S) :
    ∀ x ∈ S, ∀ y, stage.Refers x y → y ∈ S := by
  intro x hx y h
  rcases exists_node_of_refers h with ⟨id, n, rfl, hn, hy⟩
  exact hnodes id n hx hn y hy

/-- A node reaches what lies below it. -/
theorem reaches_of_within {x : NodeId} (h : stage.graph.Within root x) : stage.Reaches (.node root) (.node x) := by
  induction h with
  | refl => exact Reaches.refl stage _
  | @tail parent child _ hchild ih =>
      rcases exists_node?_of_mem_children hchild with ⟨n, hn, hmem⟩
      exact ih.refers ⟨.node n, by rw [thing?, hn, Option.map_some], by simp [Thing.refs, hmem]⟩

/-- A node reaches the geometry and the materials that it shows. -/
theorem reaches_of_payload {x : NodeId} {n : Node R} (h : stage.Reaches y (.node x))
    (hn : stage.graph.node? x = some n) : (∀ id ∈ n.payload.geometries, stage.Reaches y (.geometry id)) ∧
      ∀ id ∈ n.payload.materials, stage.Reaches y (.material id) := by
  have hthing : stage.thing? (.node x) = some (.node n) := by rw [thing?, hn, Option.map_some]
  exact ⟨fun id hid => h.refers ⟨_, hthing, by simp [Thing.refs, hid]⟩,
    fun id hid => h.refers ⟨_, hthing, by simp [Thing.refs, hid]⟩⟩

/-! ## Scenes of their own -/

/-- The nodes of a scene, with the geometry and the materials that are there. -/
def sceneThings (stage : Stage R) (root : NodeId) : Set Ref :=
  { x | x ∈ stage.things ∧ ∀ id, x = .node id → stage.graph.Within root id }

namespace OwnScene

theorem closed (h : stage.OwnScene branch root) (hg : stage.graph.Linked) :
    ∀ x ∈ stage.sceneThings root, ∀ y, stage.Refers x y → y ∈ stage.sceneThings root := by
  have hmem : ∀ id, stage.graph.Within root id → Ref.node id ∈ stage.sceneThings root := by
    intro id hid
    refine ⟨node_mem_things.2 (hg.index_lt_of_within hid h.index_lt), ?_⟩
    rintro _ ⟨⟩
    exact hid
  refine closed_of_nodes fun id n hid hn => forall_refs_iff.2 ?_
  have hin := hid.2 id rfl
  rcases h.kept hin hn with ⟨-, howner⟩
  rcases Payload.known_iff.1 (h.known id n hin hn) with ⟨hgeometry, hmaterial⟩
  refine ⟨fun parent hparent => hmem _ (h.within_parent hg hin hn hparent), fun owner howned => ?_,
    fun child hchild => hmem _ (hin.child (by rwa [children_of_node? hn])), fun i hi => ?_, fun i hi => ?_⟩
  · rw [howner owner howned]
    exact hmem root (Within.refl _ root)
  · exact ⟨geometry_mem_things.2 (hgeometry i hi), by rintro _ ⟨⟩⟩
  · exact ⟨material_mem_things.2 (hmaterial i hi), by rintro _ ⟨⟩⟩

theorem mem_sceneThings (h : stage.OwnScene branch root) (hg : stage.graph.Linked)
    (hx : stage.Reaches (.node root) x) : x ∈ stage.sceneThings root := by
  refine hx.mem_of_closed (h.closed hg) ⟨node_mem_things.2 h.index_lt, ?_⟩
  rintro _ ⟨⟩
  exact Within.refl _ root

/-- From the root of a scene of its own the nodes of the scene are reached, and no others. -/
theorem reaches_node_iff (h : stage.OwnScene branch root) (hg : stage.graph.Linked) {x : NodeId} :
    stage.Reaches (.node root) (.node x) ↔ stage.graph.Within root x :=
  ⟨fun hx => (h.mem_sceneThings hg hx).2 x rfl, reaches_of_within⟩

/-- A scene of its own does not refer to what is not there. -/
theorem mem_things_of_reaches (h : stage.OwnScene branch root) (hg : stage.graph.Linked)
    (hx : stage.Reaches (.node root) x) : x ∈ stage.things :=
  (h.mem_sceneThings hg hx).1

end OwnScene

/-! ## What was planted -/

/-- The nodes that were planted have no links to those that were there. -/
theorem Planted.le_index_of_link (h : stage.Planted branch id stage') (hg : stage.graph.Linked)
    {parent child : NodeId} (hlink : child ∈ stage'.graph.children parent) :
    stage.graph.size ≤ parent.index ↔ stage.graph.size ≤ child.index := by
  have hparent := (h.linked.mem_children_iff parent child).1 hlink
  constructor
  · intro hle
    refine Nat.le_of_not_lt fun hlt => absurd hle (Nat.not_le.2 ?_)
    rw [parent?, h.old child hlt, ← parent?] at hparent
    exact (hg.index_lt_of_mem_children ((hg.mem_children_iff parent child).2 hparent)).1
  · intro hle
    refine Nat.le_of_not_lt fun hlt => absurd hle (Nat.not_le.2 ?_)
    rw [children, h.old parent hlt, ← children] at hlink
    exact (hg.index_lt_of_mem_children hlink).2

/-- The things that were planted refer to each other only. -/
theorem Planted.closed_new (h : stage.Planted branch id stage') (hg : stage.graph.Linked) :
    ∀ x ∈ stage'.things \ stage.things, ∀ y, stage'.Refers x y → y ∈ stage'.things \ stage.things := by
  have hmem : ∀ z : NodeId, Ref.node z ∈ stage'.things \ stage.things ↔
      z.index < stage'.graph.size ∧ stage.graph.size ≤ z.index := by
    intro z
    rw [Set.mem_sdiff, node_mem_things, node_mem_things, Nat.not_lt]
  refine closed_of_nodes fun z n hz hn => forall_refs_iff.2 ?_
  have hlate := ((hmem z).1 hz).2
  have hadded := h.new z n hlate hn
  rcases Payload.known_iff.1 hadded.known with ⟨hgeometry, hmaterial⟩
  rcases Payload.fresh_iff.1 hadded.fresh with ⟨hgeometry', hmaterial'⟩
  refine ⟨fun parent hparent => ?_, fun owner howner => (hmem owner).2 (hadded.owner owner howner).symm,
    fun child hchild => ?_, fun i hi => ?_, fun i hi => ?_⟩
  · have hlink := (h.linked.mem_children_iff parent z).2 ((parent?_of_node? hn).trans hparent)
    exact (hmem parent).2 ⟨(h.linked.index_lt_of_mem_children hlink).1, (h.le_index_of_link hg hlink).2 hlate⟩
  · have hlink : child ∈ stage'.graph.children z := by rwa [children_of_node? hn]
    exact (hmem child).2 ⟨(h.linked.index_lt_of_mem_children hlink).2, (h.le_index_of_link hg hlink).1 hlate⟩
  · exact ⟨geometry_mem_things.2 (hgeometry i hi), fun hin => absurd (geometry_mem_things.1 hin)
      (Nat.not_lt.2 (hgeometry' i hi))⟩
  · exact ⟨material_mem_things.2 (hmaterial i hi), fun hin => absurd (material_mem_things.1 hin)
      (Nat.not_lt.2 (hmaterial' i hi))⟩

end Stage

end LevelPrep
