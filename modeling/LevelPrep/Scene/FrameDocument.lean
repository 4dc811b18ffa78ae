import LevelPrep.Mesh.Triangulation
import LevelPrep.Scene.Document
import LevelPrep.Scene.Frames
import LevelPrep.Text.Lowering

/-!
# Written frame graphs

An exported scene is written as a list of its frames, each with its parent, its matrix and the name of
its geometry, and a list of its geometry.
-/

namespace LevelPrep.FrameDocument

/-- A frame with its link and what it carries. -/
def encodeLink (g : FrameGraph Float) (link : FrameLink Float) : Json :=
  .obj [("to", .str link.frame.display), ("from", .str link.parent.display),
    ("matrix", Document.encodeTransform link.transform),
    ("geometry", (g.carried.lookup link.frame).getD .null)]

def encodeLinks (g : FrameGraph Float) : Json :=
  .arr (g.current.map (encodeLink g))

/-- The name of some geometry and the numbers of its vertices and faces. -/
def encodeSummary (geometry : String × Geometry) : Json :=
  .arr [.str geometry.1, .int geometry.2.vertices.length, .int geometry.2.faces.length]

/-- Some geometry with its vertices and faces. -/
def encodeGeometry (geometry : String × Geometry) : Json :=
  .obj (("name", .str geometry.1) :: Document.geometryFields geometry.2)

/-- Matrix entries are handed on with six decimals where they are only to be looked at. -/
def rounded (g : FrameGraph Float) : FrameGraph Float :=
  { g with
    links := g.links.map fun link =>
      { link with transform := link.transform.map (Number.roundToPlaces 6) } }

/-- The endings of the files that a scene can be exported to. -/
def endings : List String :=
  ["gltf", "glb", "dict", "obj", "dict64", "svg", "ply", "stl", "3mf"]

/-- The ending of a path: what follows its last point, without spaces and without regard to case. -/
def endingOf (path : Path) : String :=
  let piece := ((Text.splitAt '.' path.text.toList).getLastD [])
  Text.lower (String.ofList (Text.trimSpaces piece))

/-- The text of a scene exported to a file, which has to have some geometry. -/
def print (path : Path) (frames : FrameGraph Float) (geometries : List (String × Geometry)) :
    Except Fault String := do
  if geometries.isEmpty then throw .emptyExport
  if !endings.contains (endingOf path) then throw (.unsupportedExport (endingOf path))
  return Json.print (.obj [("frames", encodeLinks frames),
    ("geometry", .arr (geometries.map encodeGeometry))])

/-! ## Reading -/

/-- Geometry as other programs hand it over: numbers in nested lists of any even shape. -/
structure LooseGeometry where
  vertices : Json.Grid Float
  faces : Json.Grid Int

/-- Nested lists of the given sizes. -/
def encodeGrid {α : Type} (encode : α → Json) : (sizes : List Nat) → List α → Json
  | [], values => (values.head?.map encode).getD .null
  | [_], values => .arr (values.map encode)
  | size :: sizes, values =>
    let chunk := sizes.foldl (· * ·) 1
    .arr ((List.range size).map fun i =>
      encodeGrid encode sizes ((values.drop (i * chunk)).take chunk))

/-- The fields of loose geometry. -/
def looseFields (g : LooseGeometry) : List (String × Json) :=
  [("vertices", encodeGrid .float g.vertices.sizes g.vertices.values),
    ("faces", encodeGrid .int g.faces.sizes g.faces.values)]

/-- Faces as triangles where they are given in rows of another size. -/
def triangles (faces : Json.Grid Int) : Json.Grid Int :=
  match faces.sizes with
  | [count, size] =>
    if size = 3 then faces
    else
      let cut := triangulate (rowsOf size count faces.values)
      { sizes := [cut.length, 3], values := cut.flatMap fun f => [f.a, f.b, f.c] }
  | _ => faces

/-- A single value as a list of one. -/
def listed {α : Type} (grid : Json.Grid α) : Json.Grid α :=
  if grid.sizes.isEmpty then { grid with sizes := [grid.values.length] } else grid

/-- Reads loose geometry. -/
def decodeLoose (vertices faces : Json) : Except Fault LooseGeometry := do
  let vertices ← vertices.grid Json.asNumber
  let faces ← faces.grid Json.asIndex
  return { vertices := listed vertices, faces := triangles (listed faces) }

/-- Reads the matrix of a link, which has to be nested as four rows of four or two of eight. -/
def decodeMatrix (value : Json) : Except Fault (Matrix Float) := do
  let grid ← value.grid Json.asNumber
  match grid.sizes with
  | [] | [_] => throw .outOfRange
  | [4, 4] | [2, 8] =>
    match Matrix.ofList? grid.values with
    | some m => return m
    | none => throw .malformed
  | _ => throw .malformed

end LevelPrep.FrameDocument
