import LevelPrep.Scene.Graph

/-!
# Walking a tree

`levelOrder` lists a node and everything below it, level by level; the list is taken at once, so
changes made while going through it do not disturb the walk.  `relativeTransform` climbs from a node to
one of its ancestors.
-/

namespace LevelPrep.SceneGraph

variable {R : Type}

/-- The nodes of a level and of all levels below it. -/
def levelsFrom (g : SceneGraph R) : (fuel : Nat) → (level : List NodeId) → List NodeId
  | 0, _ => []
  | _ + 1, [] => []
  | fuel + 1, level => level ++ g.levelsFrom fuel (level.flatMap g.children)

/-- All nodes below a node, level by level.  A tree has no more levels than the graph has nodes. -/
def descendants (g : SceneGraph R) (node : NodeId) : List NodeId :=
  g.levelsFrom g.size (g.children node)

/-- A node and all nodes below it, level by level. -/
def levelOrder (g : SceneGraph R) (node : NodeId) : List NodeId :=
  node :: g.descendants node

/-- Gives an owner to a node and to all nodes below it. -/
def setOwner (g : SceneGraph R) (node : NodeId) (owner : Option NodeId) : SceneGraph R :=
  (g.levelOrder node).foldl (fun g id => g.modify id fun n => { n with owner := owner }) g

/-- Makes a node the owner of all nodes below it; it has no owner itself. -/
def ownTree (g : SceneGraph R) (root : NodeId) : SceneGraph R :=
  (g.setOwner root (some root)).modify root fun n => { n with owner := none }

variable [Zero R] [One R] [Add R] [Mul R]

/-- Climbs from a node, if there is one, to the ancestor, and multiplies the transforms on the way;
`below` is the product so far. -/
def climb (g : SceneGraph R) (ancestor : NodeId) : (fuel : Nat) → Option NodeId → Matrix R →
    Option (Matrix R)
  | _, none, _ => none
  | 0, some current, below => if current = ancestor then some below else none
  | fuel + 1, some current, below =>
    if current = ancestor then some below
    else
      match g.node? current with
      | none => none
      | some n => g.climb ancestor fuel n.parent (n.transform * below)

/-- The transform of a node in the space of an ancestor: the product of the transforms of the nodes on
the path strictly below the ancestor, from the top down. -/
def relativeTransform (g : SceneGraph R) (node ancestor : NodeId) : Except Fault (Matrix R) :=
  match g.climb ancestor g.size (some node) Matrix.identity with
  | some transform => .ok transform
  | none => .error (.notAncestor (g.name ancestor).display (g.name node).display)

end LevelPrep.SceneGraph
