import LevelPrep.Scene.Branch

/-!
# Copies of live trees

A copy of a live tree has a new node for each of its nodes, and copies of the geometry and of the materials
that these refer to.  What is referred to more than once is copied once, and links among the nodes of the
tree become links among their copies.  Links that lead out of the tree stay as they are: a tree that was
planted as a scene of its own has none.
-/

namespace LevelPrep

/-- The reference to take instead of another after things were copied, when the copies stand behind each
other from some place on.  A reference to something that was not copied stays. -/
def copyOf {α : Type} [DecidableEq α] (ref : Nat → α) (copied : List α) (start : Nat) (x : α) : α :=
  if x ∈ copied then ref (start + copied.idxOf x) else x

/-- The node with other references. -/
def Node.refer {R : Type} (node : NodeId → NodeId) (geometry : GeometryId → GeometryId)
    (material : MaterialId → MaterialId) (n : Node R) : Node R :=
  { n with
    payload := n.payload.map geometry material
    parent := n.parent.map node
    owner := n.owner.map node
    children := n.children.map node }

namespace Stage

variable {R : Type}

/-- The nodes of the tree below a node. -/
def treeNodes (stage : Stage R) (root : NodeId) : List (Node R) :=
  (stage.graph.levelOrder root).filterMap stage.graph.node?

/-- The geometry that a tree refers to. -/
def treeGeometries (stage : Stage R) (root : NodeId) : List GeometryId :=
  ((stage.treeNodes root).flatMap (·.payload.geometries)).eraseDups

/-- The materials that a tree refers to. -/
def treeMaterials (stage : Stage R) (root : NodeId) : List MaterialId :=
  ((stage.treeNodes root).flatMap (·.payload.materials)).eraseDups

/-- The node to refer to in the copy of a tree. -/
def nodeCopy (stage : Stage R) (root : NodeId) : NodeId → NodeId :=
  copyOf NodeId.mk (stage.graph.levelOrder root) stage.graph.size

/-- The geometry to refer to in the copy of a tree. -/
def geometryCopy (stage : Stage R) (root : NodeId) : GeometryId → GeometryId :=
  copyOf GeometryId.mk (stage.treeGeometries root) stage.resources.geometries.size

/-- The material to refer to in the copy of a tree. -/
def materialCopy (stage : Stage R) (root : NodeId) : MaterialId → MaterialId :=
  copyOf MaterialId.mk (stage.treeMaterials root) stage.resources.materials.size

/-- Copies the tree below a node and returns the root of the copy. -/
def copyTree (root : NodeId) : StateM (Stage R) NodeId := fun stage =>
  let nodes := (stage.treeNodes root).map fun n =>
    n.refer (stage.nodeCopy root) (stage.geometryCopy root) (stage.materialCopy root)
  let geometries := (stage.treeGeometries root).map stage.resources.geometry
  let materials := (stage.treeMaterials root).map stage.resources.material
  (stage.nodeCopy root root,
    { graph := { nodes := stage.graph.nodes ++ nodes.toArray }
      resources :=
        { geometries := stage.resources.geometries ++ geometries.toArray
          materials := stage.resources.materials ++ materials.toArray } })

end Stage

end LevelPrep
