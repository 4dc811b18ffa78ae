import LevelPrep.Scene.Node

/-!
# Scene graphs

A scene graph holds nodes under references, with their links: each node knows its children in order
and its parent.  The operations keep the two in step: `addChild` refuses a node that has a parent
already, and `removeChild` and `flush` clear the parent of what they take out.  Nodes are never
destroyed; what is taken out of a tree stays, as the root of a tree of its own.
-/

namespace LevelPrep

structure SceneGraph (R : Type) where
  nodes : Array (Node R) := #[]

namespace SceneGraph

variable {R : Type}

/-- The number of nodes. -/
def size (g : SceneGraph R) : Nat :=
  g.nodes.size

/-- The node under a reference. -/
def node? (g : SceneGraph R) (id : NodeId) : Option (Node R) :=
  g.nodes[id.index]?

/-- Adds a node without any links. -/
def insert (g : SceneGraph R) (n : Node R) : NodeId × SceneGraph R :=
  (⟨g.nodes.size⟩, { nodes := g.nodes.push n })

/-- Changes the node under a reference. -/
def modify (g : SceneGraph R) (id : NodeId) (f : Node R → Node R) : SceneGraph R :=
  { nodes := g.nodes.modify id.index f }

@[simp] theorem size_modify (g : SceneGraph R) (id : NodeId) (f : Node R → Node R) :
    (g.modify id f).size = g.size := by
  simp [size, modify]

@[simp] theorem node?_modify_self (g : SceneGraph R) (id : NodeId) (f : Node R → Node R) :
    (g.modify id f).node? id = (g.node? id).map f := by
  simp [node?, modify, Array.getElem?_modify]

@[simp] theorem node?_modify_of_ne {id other : NodeId} (h : other ≠ id) (g : SceneGraph R)
    (f : Node R → Node R) : (g.modify id f).node? other = g.node? other := by
  have hi : ¬ id.index = other.index := fun he => h (by cases id; cases other; simp_all)
  simp [node?, modify, Array.getElem?_modify, hi]

@[simp] theorem node?_insert_self (g : SceneGraph R) (n : Node R) :
    (g.insert n).2.node? (g.insert n).1 = some n := by
  simp [node?, insert]

/-- Nodes that were there stay as they were. -/
theorem node?_insert_of_lt {id : NodeId} (g : SceneGraph R) (n : Node R) (h : id.index < g.size) :
    (g.insert n).2.node? id = g.node? id := by
  have hs : id.index < g.nodes.size := h
  simp [node?, insert, Array.getElem?_push, Nat.ne_of_lt hs]

def children (g : SceneGraph R) (id : NodeId) : List NodeId :=
  ((g.node? id).map (·.children)).getD []

def parent? (g : SceneGraph R) (id : NodeId) : Option NodeId :=
  (g.node? id).bind (·.parent)

def owner? (g : SceneGraph R) (id : NodeId) : Option NodeId :=
  (g.node? id).bind (·.owner)

def isQueued (g : SceneGraph R) (id : NodeId) : Bool :=
  (g.node? id).any (·.queued)

/-- The name of a node. -/
def name (g : SceneGraph R) (id : NodeId) : Json :=
  ((g.node? id).map (·.name)).getD .null

/-- The mesh instance that the node is, if it is one. -/
def meshInstance? (g : SceneGraph R) (id : NodeId) : Option (MeshInstance GeometryId MaterialId) :=
  (g.node? id).bind (·.payload.meshInstance?)

/-- The mesh that the node shows. -/
def mesh? (g : SceneGraph R) (id : NodeId) : Option LiveMesh :=
  (g.meshInstance? id).bind (·.mesh)

/-- Changes a node that is a mesh instance. -/
def modifyInstance (g : SceneGraph R) (id : NodeId)
    (f : MeshInstance GeometryId MaterialId → MeshInstance GeometryId MaterialId) : SceneGraph R :=
  g.modify id fun n => { n with payload := n.payload.mapInstance f }

/-! ## Children -/

/-- Makes a node the last child of another, without asking. -/
def link (g : SceneGraph R) (parent child : NodeId) : SceneGraph R :=
  (g.modify child fun n => { n with parent := some parent }).modify parent
    fun n => { n with children := n.children ++ [child] }

/-- Adds a child to a node, behind its other children. -/
def addChild (g : SceneGraph R) (node : NodeId) (child : Option NodeId) :
    Except Fault (SceneGraph R) :=
  match child with
  | none => .error (.noSuchMember Json.null.kindWord "parent")
  | some child =>
    match g.parent? child with
    | some parent => .error (.alreadyHasParent (g.name child).display (g.name parent).display)
    | none =>
      if child = node then .error (.ownChild (g.name node).display)
      else .ok (g.link node child)

/-- Takes a child from a node, without asking. -/
def unlink (g : SceneGraph R) (parent child : NodeId) : SceneGraph R :=
  (g.modify parent fun n => { n with children := n.children.erase child }).modify child
    fun n => { n with parent := none }

/-- Takes a child from a node. -/
def removeChild (g : SceneGraph R) (node : NodeId) (child : Option NodeId) :
    Except Fault (SceneGraph R) :=
  match child with
  | none => .error .notChild
  | some child => if child ∈ g.children node then .ok (g.unlink node child) else .error .notChild

/-- The first child of the given name. -/
def findChild? (g : SceneGraph R) (node : NodeId) (name : Json) : Option NodeId :=
  (g.children node).find? fun child => g.name child == name

/-! ## Taking nodes out -/

/-- Marks a node to be taken out at the next flush. -/
def queueFree (g : SceneGraph R) (id : NodeId) : SceneGraph R :=
  g.modify id fun n => { n with queued := true }

/-- Takes the queued nodes out of the tree below a node, and counts them.  What lies below a node that
is taken out goes with it.  The fuel bounds the depth. -/
def flushBelow : (fuel : Nat) → NodeId → SceneGraph R → Nat × SceneGraph R
  | 0, _, g => (0, g)
  | fuel + 1, id, g =>
    (g.children id).foldl
      (fun (count, g) child =>
        if g.isQueued child then (count + 1, g.unlink id child)
        else
          let (below, g) := flushBelow fuel child g
          (count + below, g))
      (0, g)

/-- Takes all queued nodes out of the tree below a node; the node itself stays.  A tree is no deeper
than the graph is large. -/
def flush (g : SceneGraph R) (root : NodeId) : Nat × SceneGraph R :=
  flushBelow g.size root g

end SceneGraph

end LevelPrep
