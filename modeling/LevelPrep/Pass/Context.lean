import LevelPrep.Attribute.Reading
import LevelPrep.Catalog.Retriever
import LevelPrep.Level.Settings

/-!
# What passes work with

A pass is applied to the root of a static subtree.  It goes through the nodes of the subtree level by
level, as they were when it started.
-/

namespace LevelPrep

/-- What a pass needs beside the subtree it works on. -/
structure PassContext (R : Type) where
  /-- The root of the level, which owns every node that the passes make. -/
  scene : NodeId
  settings : ImportSettings
  grammar : Grammar
  tools : Tools R

namespace PassContext

variable {R : Type}

/-- Whether the name of a node carries an attribute. -/
def has (context : PassContext R) (id : NodeId) (kind : AttributeKind) : Work R Bool := do
  Work.lift (context.grammar.nameHas ((← Work.graph).name id) kind)

/-- The number that an attribute carries in the name of a node. -/
def value (context : PassContext R) (id : NodeId) (kind : AttributeKind) :
    Work R (Option AttributeValue) := do
  Work.lift (context.grammar.nameValue ((← Work.graph).name id) kind)

end PassContext

/-- The mesh instances of a subtree, level by level. -/
def SceneGraph.instances {R : Type} (g : SceneGraph R) (root : NodeId) : List NodeId :=
  (g.levelOrder root).filter fun id => (g.meshInstance? id).isSome

/-- The mesh instances of a subtree that show a mesh, level by level. -/
def SceneGraph.meshNodes {R : Type} (g : SceneGraph R) (root : NodeId) : List NodeId :=
  (g.levelOrder root).filter fun id => (g.mesh? id).isSome

end LevelPrep
