import LevelPrep.Scene.Traversal

/-!
# Trees as values

A branch is a tree of nodes with everything in it and without any links.  Documents are read into
branches, and `plant` makes live nodes of a branch.  A snapshot shows the tree below a live node; beside
what a tree has it tells the owner of every node and whether the node is to be taken out.
-/

namespace LevelPrep

/-- A tree of nodes as a value, with meshes made of a `G`. -/
inductive Tree (G R : Type) where
  | node (name : Json) (transform : Matrix R) (payload : Payload G Material)
    (children : List (Tree G R))

/-- A tree of nodes as a value, with everything in it. -/
abbrev Branch (R : Type) := Tree Geometry R

/-- A live tree as a value. -/
inductive Snapshot (G R : Type) where
  | node (name : Json) (transform : Matrix R) (payload : Payload G Material)
    (owner : Option Json) (queued : Bool) (children : List (Snapshot G R))

namespace Snapshot

variable {G R : Type}

mutual

/-- The tree without owners and marks. -/
def tree : Snapshot G R → Tree G R
  | .node name transform payload _ _ children =>
    .node name transform payload (trees children)

/-- The trees without owners and marks. -/
def trees : List (Snapshot G R) → List (Tree G R)
  | [] => []
  | snapshot :: rest => tree snapshot :: trees rest

end

end Snapshot

namespace Tree

variable {G R : Type}

/-- The trees right below the root. -/
def topLevel : Tree G R → List (Tree G R)
  | .node _ _ _ children => children

mutual

/-- The tree with an owner at every node. -/
def ownedBy (owner : Json) : Tree G R → Snapshot G R
  | .node name transform payload children =>
    .node name transform payload (some owner) false (allOwnedBy owner children)

/-- The trees with an owner at every node. -/
def allOwnedBy (owner : Json) : List (Tree G R) → List (Snapshot G R)
  | [] => []
  | tree :: rest => ownedBy owner tree :: allOwnedBy owner rest

end

/-- The tree as a scene of its own: the root owns all nodes below it and has no owner itself. -/
def asScene : Tree G R → Snapshot G R
  | .node name transform payload children =>
    .node name transform payload none false (allOwnedBy name children)

end Tree

/-- Live nodes and the resources of their meshes. -/
structure Stage (R : Type) where
  graph : SceneGraph R := {}
  resources : Resources := {}

namespace Stage

variable {R : Type}

/-- Adds a node with its payload. -/
def insert (name : Json) (transform : Matrix R) (payload : Payload Geometry Material) :
    StateM (Stage R) NodeId := fun stage =>
  let (payload, resources) :=
    payload.mapM (m := StateM Resources) Resources.addGeometry Resources.addMaterial stage.resources
  let (id, graph) := stage.graph.insert { name, transform, payload }
  (id, { graph, resources })

mutual

/-- Makes live nodes of a branch and returns its root, which has no parent and no owner. -/
def plant : Branch R → StateM (Stage R) NodeId
  | .node name transform payload children => do
    let id ← insert name transform payload
    plantBelow id children
    return id

/-- Makes live nodes of branches and adds them to a node, in order. -/
def plantBelow (parent : NodeId) : List (Branch R) → StateM (Stage R) Unit
  | [] => return
  | branch :: rest => do
    let child ← plant branch
    modify fun stage => { stage with graph := stage.graph.link parent child }
    plantBelow parent rest

end

/-- The payload of a live node with everything it refers to. -/
def payloadValue (stage : Stage R) (n : Node R) : Payload Geometry Material :=
  n.payload.map stage.resources.geometry stage.resources.material

/-- The tree below a live node, to the depth of the fuel. -/
def snapshotTo (stage : Stage R) : (fuel : Nat) → NodeId → Option (Snapshot Geometry R)
  | 0, _ => none
  | fuel + 1, id => do
    let n ← stage.graph.node? id
    let children ← n.children.mapM (stage.snapshotTo fuel)
    return .node n.name n.transform (stage.payloadValue n) (n.owner.map stage.graph.name) n.queued
      children

/-- The tree below a live node, if it is one.  A tree is no deeper than the graph is large. -/
def snapshot? (stage : Stage R) (id : NodeId) : Option (Snapshot Geometry R) :=
  stage.snapshotTo stage.graph.size id

/-- The tree below a live node as a branch. -/
def branch? (stage : Stage R) (id : NodeId) : Option (Branch R) :=
  (stage.snapshot? id).map Snapshot.tree

end Stage

end LevelPrep
