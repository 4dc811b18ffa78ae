import LevelPrep.Json.Coercion
import LevelPrep.Mesh.Cleaning
import LevelPrep.Mesh.Triangulation
import LevelPrep.Scene.Document
import LevelPrep.Text.Words

/-!
# OFF files

An OFF file is a text of triangle geometry: behind the mark `OFF` come the numbers of vertices and
faces, then a line per vertex, then a line per face with the number of its corners in front.  What
follows a `#` on a line is a comment.
-/

namespace LevelPrep.OffFile

open Text

/-- A line without its comment. -/
def withoutComment (line : List Char) : List Char :=
  line.takeWhile (· != '#')

/-- What follows the mark of the format. -/
def body? (text : List Char) : Option (List Char) :=
  afterFirst? "OFF".toList text

/-- Reads integers. -/
def integers (words : List (List Char)) : Except Fault (List Int) :=
  words.mapM fun word => (Json.str (String.ofList word)).asInteger

/-- Reads the first three numbers of every line as a point; `count` lines have to be there. -/
def points (count : Nat) (rows : List (List (List Char))) : Except Fault (List Point) := do
  let row (words : List (List Char)) : Json :=
    .arr ((words.take 3).map fun word => .str (String.ofList word))
  let numbers ← (Json.arr (rows.map row)).numbers
  match (Document.pointsOf? numbers).filter (·.length = count) with
  | some points => return points
  | none => throw (.wrongCount numbers.length ("(" ++ toString count ++ ",3)"))

/-- The corners of a face, as they are written; their number stands in front of them. -/
def corners (words : List (List Char)) : Except Fault (List (List Char)) := do
  match ← integers (words.take 1) with
  | [count] => return (words.drop 1).take count.toNat
  | _ => throw .outOfRange

/-- Refuses faces with corners that are not among the vertices. -/
def checkFaces (g : Geometry) : Except Fault Unit :=
  if g.faces.all fun face =>
      [face.a, face.b, face.c].all fun index => (place? g.vertices.length index).isSome then
    .ok ()
  else .error .malformed

/-- Reads the lines behind the mark, blank ones left out. -/
def readLines : List (List (List Char)) → Except Fault Geometry
  | [] => .error .outOfRange
  | counts :: rest => do
    match ← integers counts with
    | vertexCount :: faceCount :: _ =>
      let vertices ← points vertexCount.toNat (rest.take vertexCount.toNat)
      let faces ← ((rest.drop vertexCount.toNat).take faceCount.toNat).mapM corners
      let faces ← faces.mapM integers
      let g : Geometry := { vertices, faces := triangulate faces }
      checkFaces g
      return g.cleaned
    | found => throw (.tooFew 2 found.length)

/-- Reads an OFF file. -/
def read (text : String) : Except Fault Geometry :=
  let bare := ("\n".toList).intercalate ((lines text.toList).map withoutComment)
  match body? bare with
  | none => .error (.tooFew 3 1)
  | some body => readLines (((anyLines body).map words).filter (!·.isEmpty))

end LevelPrep.OffFile
