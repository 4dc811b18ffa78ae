import LevelPrep.Json.Printer
import LevelPrep.Json.Reader
import LevelPrep.Scene.Branch

/-!
# Scene documents

A scene document is a JSON object that marks itself as a scene tree, names its version and holds the
root node.  Writing (`encodeNode`) spells everything out; reading (`decodeNode`) also takes documents
that leave fields out, write a material as its bare name, or nest their numbers in any way.
-/

namespace LevelPrep.Document

/-- The mark of a scene document. -/
def format : String :=
  "sceneTree"

/-- The version of the documents that are written. -/
def version : String :=
  "sceneTree@1.0"

/-! ## Reading -/

/-- The value of a field that has to be there. -/
def field (key : String) : Json → Except Fault Json
  | .obj fields =>
    match fields.lookup key with
    | some value => .ok value
    | none => .error (.missingField key)
  | value => .error (.noFields value.kindWord)

/-- The points of a list of numbers, three to a point. -/
def pointsOf? : List Float → Option (List Point)
  | [] => some []
  | x :: y :: z :: rest => (pointsOf? rest).map (⟨x, y, z⟩ :: ·)
  | _ => none

/-- The faces of a list of indices, three to a face. -/
def facesOf? : List Int → Option (List Face)
  | [] => some []
  | a :: b :: c :: rest => (facesOf? rest).map (⟨a, b, c⟩ :: ·)
  | _ => none

/-- The coordinates of a list of numbers, two to a vertex. -/
def pairsOf? : List Float → Option (List (Float × Float))
  | [] => some []
  | u :: v :: rest => (pairsOf? rest).map ((u, v) :: ·)
  | _ => none

/-- Puts numbers into rows, which they have to fill; `rows` tells the size of the rows in reports. -/
def fill {α β : Type} (rows : String) (ofList? : List α → Option β) (numbers : List α) :
    Except Fault β :=
  match ofList? numbers with
  | some filled => .ok filled
  | none => .error (.wrongCount numbers.length rows)

def decodePoints (value : Json) : Except Fault (List Point) := do
  fill "(3)" pointsOf? (← value.numbers)

def decodeFaces (value : Json) : Except Fault (List Face) := do
  fill "(3)" facesOf? (← value.indices)

def decodeUv (value : Json) : Except Fault (List (Float × Float)) := do
  fill "(2)" pairsOf? (← value.numbers)

def decodeTransform (value : Json) : Except Fault (Matrix Float) := do
  fill "(4,4)" Matrix.ofList? (← value.numbers)

/-- Reads a material: nothing, its bare name, or its name and its file. -/
def decodeMaterial : Json → Except Fault (Option Material)
  | .null => .ok none
  | .str name => .ok (some { name := .str name })
  | .obj fields => do
    let path := (fields.lookup "resourcePath").getD .null
    let path ← if path.isSet then some <$> path.asPath else pure none
    return some { name := (fields.lookup "name").getD (.str ""), resourcePath := path }
  | other => .error (.noSuchMember other.kindWord "get")

def decodeSurface (value : Json) : Except Fault (Surface Geometry Material) := do
  let vertices ← decodePoints (← field "vertices" value)
  let faces ← decodeFaces (← field "faces" value)
  let material ← decodeMaterial ((value.get? "material").getD .null)
  let uv ← (value.get? "lightmapUv").mapM decodeUv
  return { geometry := { vertices, faces }, material, lightmapUv := uv }

def decodeMesh (value : Json) : Except Fault MeshValue := do
  let fields ← value.asObject "get"
  let surfaces ← ((fields.lookup "surfaces").getD (.arr [])).members
  let surfaces ← surfaces.mapM decodeSurface
  let hint ← (fields.lookup "lightmapSizeHint").mapM Json.members
  return { name := (fields.lookup "name").getD (.str ""), surfaces, sizeHint := hint }

def decodeShape (value : Json) : Except Fault Shape := do
  let fields ← value.asObject "get"
  let kind := (fields.lookup "type").getD .null
  if kind == .str "ConcavePolygonShape3D" then
    return .concave (← decodePoints (← field "faces" value))
  else if kind == .str "ConvexPolygonShape3D" then
    return .convex (← decodePoints (← field "points" value))
  else throw (.unknownShape kind.display)

/-- Reads a field that may be missing or null. -/
def optionalField {α : Type} (fields : List (String × Json)) (key : String)
    (read : Json → Except Fault α) : Except Fault (Option α) :=
  match fields.lookup key with
  | none | some .null => .ok none
  | some value => some <$> read value

/-- Reads a word of a closed list, or takes the default if the field is missing; `setting` is what the
list is called in reports. -/
def wordField {α : Type} (fields : List (String × Json)) (key setting : String) (default : α)
    (ofWord? : String → Option α) : Except Fault α :=
  match fields.lookup key with
  | none => .ok default
  | some value =>
    let found := match value with | .str word => ofWord? word | _ => none
    match found with
    | some mode => .ok mode
    | none => .error (.unknownWord value.quoted setting)

/-- Reads an integer, one if the field is missing. -/
def integerField (fields : List (String × Json)) (key : String) : Except Fault Int :=
  ((fields.lookup key).getD (.int 1)).asInteger

/-- Reads what a node of the given type is for; fields of other types do not matter. -/
def decodePayload (fields : List (String × Json)) :
    NodeType → Except Fault (Payload Geometry Material)
  | .plain => .ok .plain
  | .meshInstance => do
    let mesh ← optionalField fields "mesh" decodeMesh
    let castShadow ← wordField fields "castShadow" "ShadowCasting" .on ShadowCasting.ofWord?
    let giMode ← wordField fields "giMode" "GIMode" .static GIMode.ofWord?
    let layers ← integerField fields "layers"
    let ignore := ((fields.lookup "ignoreOcclusionCulling").getD (.bool false)).isSet
    return .meshInstance { mesh, castShadow, giMode, layers, ignoreOcclusionCulling := ignore }
  | .staticBody =>
    return .staticBody (← integerField fields "collisionLayer") (← integerField fields "collisionMask")
  | .collisionShape => return .collisionShape (← optionalField fields "shape" decodeShape)

/-- Reads the type of a node; a node that names none is plain. -/
def decodeType (fields : List (String × Json)) : Except Fault NodeType :=
  match (fields.lookup "type").getD (.str NodeType.plain.word) with
  | .str word =>
    match NodeType.ofWord? word with
    | some type => .ok type
    | none => .error (.unknownNodeType word (NodeType.all.map NodeType.word))
  | kind => do
    kind.checkKey
    throw (.unknownNodeType kind.display (NodeType.all.map NodeType.word))

/-- A node without its children. -/
structure NodeHead where
  name : Json
  transform : Matrix Float
  payload : Payload Geometry Material

/-- Reads a node without its children.  A node without a name is named after its type. -/
def decodeHead (fields : List (String × Json)) : Except Fault NodeHead := do
  let type ← decodeType fields
  let name := (fields.lookup "name").getD (.str type.word)
  let transform ←
    match fields.lookup "transform" with
    | some value => decodeTransform value
    | none => pure Matrix.identity
  return { name, transform, payload := ← decodePayload fields type }

mutual

/-- Reads a node with everything below it. -/
def decodeNode : Json → Except Fault (Branch Float)
  | .obj fields => do
    let head ← decodeHead fields
    let children ← decodeChildren fields
    return .node head.name head.transform head.payload children
  | other => .error (.noSuchMember other.kindWord "get")

/-- Reads the children among the fields of a node. -/
def decodeChildren : List (String × Json) → Except Fault (List (Branch Float))
  | [] => .ok []
  | (key, value) :: rest =>
    if key = "children" then
      match value with
      | .arr items => decodeNodes items
      | other => do
        match ← other.members with
        | [] => return []
        | member :: _ => throw (.noSuchMember member.kindWord "get")
    else decodeChildren rest

/-- Reads nodes in order. -/
def decodeNodes : List Json → Except Fault (List (Branch Float))
  | [] => .ok []
  | item :: rest => do
    let branch ← decodeNode item
    return branch :: (← decodeNodes rest)

end

/-! ## Writing -/

def encodeRow (r : Row Float) : Json :=
  .arr (r.toList.map .float)

def encodeTransform (m : Matrix Float) : Json :=
  .arr (m.rows.map encodeRow)

def encodePoints (points : List Point) : Json :=
  .arr (points.map fun p => .arr [.float p.x, .float p.y, .float p.z])

def encodeFaces (faces : List Face) : Json :=
  .arr (faces.map fun f => .arr [.int f.a, .int f.b, .int f.c])

def encodeUv (uv : List (Float × Float)) : Json :=
  .arr (uv.map fun (u, v) => .arr [.float u, .float v])

def encodeMaterial (m : Material) : Json :=
  .obj [("name", m.name),
    ("resourcePath", match m.resourcePath with | some path => .str path.text | none => .null)]

/-- The value of an optional part, null if it is missing. -/
def encodeOption {α : Type} (encode : α → Json) : Option α → Json
  | some value => encode value
  | none => .null

/-- The fields of geometry. -/
def geometryFields (g : Geometry) : List (String × Json) :=
  [("vertices", encodePoints g.vertices), ("faces", encodeFaces g.faces)]

/-- Writes a surface, `fields` telling the fields of its geometry. -/
def encodeSurface {G : Type} (fields : G → List (String × Json)) (s : Surface G Material) : Json :=
  .obj (fields s.geometry ++ [("material", encodeOption encodeMaterial s.material)] ++
    (s.lightmapUv.map fun uv => ("lightmapUv", encodeUv uv)).toList)

def encodeMesh {G : Type} (fields : G → List (String × Json)) (m : Mesh G Material) : Json :=
  .obj ([("name", m.name), ("surfaces", .arr (m.surfaces.map (encodeSurface fields)))] ++
    (m.sizeHint.map fun hint => ("lightmapSizeHint", .arr hint)).toList)

def encodeShape : Shape → Json
  | .concave corners => .obj [("type", .str "ConcavePolygonShape3D"), ("faces", encodePoints corners)]
  | .convex points => .obj [("type", .str "ConvexPolygonShape3D"), ("points", encodePoints points)]

def encodePayload {G : Type} (fields : G → List (String × Json)) :
    Payload G Material → List (String × Json)
  | .plain => []
  | .meshInstance i =>
    [("mesh", encodeOption (encodeMesh fields) i.mesh), ("castShadow", .str i.castShadow.word),
      ("giMode", .str i.giMode.word), ("layers", .int i.layers),
      ("ignoreOcclusionCulling", .bool i.ignoreOcclusionCulling)]
  | .staticBody layer mask => [("collisionLayer", .int layer), ("collisionMask", .int mask)]
  | .collisionShape shape => [("shape", encodeOption encodeShape shape)]

/-- The fields of a node, its children apart. -/
def encodeHead {G : Type} (fields : G → List (String × Json)) (name : Json)
    (transform : Matrix Float) (payload : Payload G Material) : List (String × Json) :=
  [("type", .str payload.type.word), ("name", name), ("transform", encodeTransform transform)] ++
    encodePayload fields payload

mutual

/-- Writes a node with everything below it. -/
def encodeNode : Branch Float → Json
  | .node name transform payload children =>
    .obj (encodeHead geometryFields name transform payload ++
      [("children", .arr (encodeNodes children))])

/-- Writes nodes in order. -/
def encodeNodes : List (Branch Float) → List Json
  | [] => []
  | branch :: rest => encodeNode branch :: encodeNodes rest

end

/-! ## Documents -/

/-- Writes the document of a tree. -/
def encode (root : Branch Float) : Json :=
  .obj [("format", .str format), ("version", .str version), ("root", encodeNode root)]

/-- What a document says. -/
structure Contents where
  version : Json
  root : Branch Float

/-- The warning about a document of another version. -/
def versionWarning (found : Json) : String :=
  "This module is developed for " ++ version ++ ", but the scene tree version is " ++
    found.display ++ "."

/-- Reads a document; the first component holds the warnings, which come even if reading fails later. -/
def decode (value : Json) : List String × Except Fault Contents :=
  match value with
  | .obj fields =>
    if (fields.lookup "format").getD .null == .str format then
      let found := (fields.lookup "version").getD .null
      let warnings := if found == .str version then [] else [versionWarning found]
      (warnings,
        match (fields.lookup "root").getD .null with
        | .null => .error .missingRoot
        | root => (decodeNode root).map fun branch => { version := found, root := branch })
    else ([], .error (.wrongFormat format))
  | other => ([], .error (.noSuchMember other.kindWord "get"))

/-- Reads a document that is given as a value and not as a file: it has to be an object. -/
def decodeValue (value : Json) : List String × Except Fault Contents :=
  match value with
  | .obj _ => decode value
  | other => ([], .error (.notDocument other.kindWord))

end LevelPrep.Document
