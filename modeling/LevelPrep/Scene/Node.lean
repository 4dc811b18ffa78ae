import LevelPrep.Matrix
import LevelPrep.Mesh.Resources

/-!
# Nodes

A node has a name, a transform relative to its parent, and what it is for: a plain node only groups its
children, a mesh instance shows a mesh, a static body is solid, and a collision shape gives a body its
extent.
-/

namespace LevelPrep

/-- How a mesh casts shadows. -/
inductive ShadowCasting where
  | off
  | on
  | doubleSided
  | shadowsOnly
deriving DecidableEq, Repr

/-- How a mesh takes part in global illumination. -/
inductive GIMode where
  | disabled
  | static
  | dynamic
deriving DecidableEq, Repr

namespace ShadowCasting

def all : List ShadowCasting :=
  [off, on, doubleSided, shadowsOnly]

/-- The word for the mode in documents. -/
def word : ShadowCasting → String
  | off => "off"
  | on => "on"
  | doubleSided => "double_sided"
  | shadowsOnly => "shadows_only"

def ofWord? (word : String) : Option ShadowCasting :=
  all.find? (·.word = word)

end ShadowCasting

namespace GIMode

def all : List GIMode :=
  [disabled, static, dynamic]

/-- The word for the mode in documents. -/
def word : GIMode → String
  | disabled => "disabled"
  | static => "static"
  | dynamic => "dynamic"

def ofWord? (word : String) : Option GIMode :=
  all.find? (·.word = word)

end GIMode

/-- What a mesh instance shows, and how. -/
structure MeshInstance (G M : Type) where
  mesh : Option (Mesh G M) := none
  castShadow : ShadowCasting := .on
  giMode : GIMode := .static
  layers : Int := 1
  ignoreOcclusionCulling : Bool := false

/-- What a node is for. -/
inductive Payload (G M : Type) where
  | plain
  | meshInstance (shown : MeshInstance G M)
  | staticBody (layer mask : Int)
  | collisionShape (shape : Option Shape)

/-- The types of node that documents name. -/
inductive NodeType where
  | plain
  | meshInstance
  | staticBody
  | collisionShape
deriving DecidableEq, Repr

namespace NodeType

def all : List NodeType :=
  [plain, meshInstance, staticBody, collisionShape]

/-- The word for the type in documents. -/
def word : NodeType → String
  | plain => "Node3D"
  | meshInstance => "MeshInstance3D"
  | staticBody => "StaticBody3D"
  | collisionShape => "CollisionShape3D"

def ofWord? (word : String) : Option NodeType :=
  all.find? (·.word = word)

/-- The title of the type in reports, which is also the name of a node that is given none. -/
def title : NodeType → String
  | plain => "Node"
  | meshInstance => "MeshInstance"
  | staticBody => "StaticBody"
  | collisionShape => "CollisionShape"

/-- What a new node of the type is for. -/
def payload {G M : Type} : NodeType → Payload G M
  | plain => .plain
  | meshInstance => .meshInstance {}
  | staticBody => .staticBody 1 1
  | collisionShape => .collisionShape none

end NodeType

namespace Payload

variable {G M G' M' : Type}

def type : Payload G M → NodeType
  | plain => .plain
  | meshInstance _ => .meshInstance
  | staticBody .. => .staticBody
  | collisionShape _ => .collisionShape

/-- The mesh instance that the node is, if it is one. -/
def meshInstance? : Payload G M → Option (MeshInstance G M)
  | meshInstance i => some i
  | _ => none

/-- Changes a mesh instance and leaves every other payload as it is. -/
def mapInstance (f : MeshInstance G M → MeshInstance G M) : Payload G M → Payload G M
  | meshInstance i => .meshInstance (f i)
  | payload => payload

/-- The geometry of all surfaces that are shown. -/
def geometries (payload : Payload G M) : List G :=
  (payload.meshInstance?.bind (·.mesh)).toList.flatMap fun mesh => mesh.surfaces.map (·.geometry)

/-- The materials of all surfaces that are shown. -/
def materials (payload : Payload G M) : List M :=
  (payload.meshInstance?.bind (·.mesh)).toList.flatMap fun mesh => mesh.surfaces.filterMap (·.material)

/-- The payload with its geometry and its materials replaced. -/
def map (geometry : G → G') (material : M → M') : Payload G M → Payload G' M'
  | plain => .plain
  | meshInstance i => .meshInstance { i with mesh := i.mesh.map (Mesh.map geometry material) }
  | staticBody layer mask => .staticBody layer mask
  | collisionShape shape => .collisionShape shape

/-- The payload with its geometry and its materials replaced, in order. -/
def mapM {m : Type → Type} [Monad m] (geometry : G → m G') (material : M → m M') :
    Payload G M → m (Payload G' M')
  | plain => return .plain
  | meshInstance i =>
    match i.mesh with
    | none => return .meshInstance { i with mesh := none }
    | some mesh => do
      let mesh ← mesh.mapM geometry material
      return .meshInstance { i with mesh := some mesh }
  | staticBody layer mask => return .staticBody layer mask
  | collisionShape shape => return .collisionShape shape

end Payload

/-- A reference to a node of a live scene. -/
structure NodeId where
  index : Nat
deriving DecidableEq, Repr

/-- A node of a live scene, with its links to other nodes. -/
structure Node (R : Type) where
  name : Json
  transform : Matrix R
  payload : Payload GeometryId MaterialId := .plain
  parent : Option NodeId := none
  /-- The root of the scene that the node is saved with. -/
  owner : Option NodeId := none
  children : List NodeId := []
  /-- Whether the node is to be taken out at the next flush. -/
  queued : Bool := false

/-- The text of a node in reports. -/
def Node.title {R : Type} (n : Node R) : String :=
  n.payload.type.title ++ "(" ++ n.name.quoted ++ ")"

end LevelPrep
