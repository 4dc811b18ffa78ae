import LevelPrep.Pass.Context

/-!
# Collision bodies

Every mesh instance of a static subtree gets a static body, unless its name asks for none.  The bodies
become children of the subtree root, each with one collision shape made from the mesh, and stand where
their meshes stand.
-/

namespace LevelPrep.Collision

variable {R : Type}

/-- The collision shape of a mesh instance: its hull if the name asks for it, its triangles if not. -/
def shapeOf (g : SceneGraph R) (r : Resources) (attributes : NodeAttributes) (id : NodeId) :
    Except Fault Shape :=
  match g.mesh? id with
  | none => .error (.noMesh (g.name id).display)
  | some mesh =>
    if attributes.contains .convexCollision then mesh.convexShape r
    else (mesh.corners r).map .concave

/-- The bits that an attribute sets; one where the name does not ask for any. -/
def bits (attributes : NodeAttributes) (kind : AttributeKind) : Int :=
  match attributes.mask? kind with
  | some n => n
  | none => 1

variable [Zero R] [One R] [Add R] [Mul R]

/-- Adds a body with its collision shape to the subtree root. -/
def addBody (scene root : NodeId) (name : Json) (transform : Matrix R) (layer mask : Int)
    (shape : Shape) (g : SceneGraph R) : SceneGraph R :=
  let (body, g) := g.insert
    { name := .str (name.display ++ "_StaticBody"), transform,
      payload := .staticBody layer mask, owner := some scene }
  let (hull, g) := g.insert
    { name := .str "CollisionShape", transform := Matrix.identity,
      payload := .collisionShape (some shape), owner := some scene }
  (g.link body hull).link root body

/-- Makes the body of one mesh instance. -/
def makeBody (context : PassContext R) (root id : NodeId) : Work R Unit := do
  let g ← Work.graph
  let name := g.name id
  let attributes ← Work.lift (context.grammar.nameAttributes name)
  let shape ← Work.lift (shapeOf g (← Work.resources) attributes id)
  let transform ← Work.lift (g.relativeTransform id root)
  let layer := bits attributes .collisionLayer
  let mask := bits attributes .collisionMask
  Work.onGraph (addBody context.scene root name transform layer mask shape)
  Work.debug "pipeline.collision"
    ("Added " ++ shape.title ++ " body for '" ++ name.display ++ "' (layer " ++ toString layer ++
      ", mask " ++ toString mask ++ ").")

/-- Makes the bodies of a subtree. -/
def apply (context : PassContext R) (root : NodeId) : Work R Unit := do
  let collidable ← ((← Work.graph).instances root).filterM fun id =>
    return !(← context.has id .noCollision)
  collidable.forM (makeBody context root)

end LevelPrep.Collision
