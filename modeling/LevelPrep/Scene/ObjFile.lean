import LevelPrep.Json.Coercion
import LevelPrep.Mesh.Cleaning
import LevelPrep.Mesh.Triangulation
import LevelPrep.Text.Words

/-!
# OBJ files

An OBJ file is a text of triangle geometry with a line per vertex (`v`) and per face (`f`), whose
corners count vertices from one; what stands behind a slash in a corner does not matter.  Lines `o` and
`usemtl` name the object and the material that the faces behind them belong to.  All faces of one
material make one part, under the object that was named last, and parts come out last one first.
-/

namespace LevelPrep.ObjFile

open Text

/-- The text with every line feed alone that a carriage return stands before. -/
def lineFeeds : List Char → List Char
  | '\r' :: '\n' :: rest => '\n' :: lineFeeds rest
  | c :: rest => c :: lineFeeds rest
  | [] => []

/-- The text with its lines joined that end in a backslash. -/
def joined : List Char → List Char
  | '\\' :: '\n' :: rest => joined rest
  | c :: rest => c :: joined rest
  | [] => []

/-- The text as it is gone through: between two line feeds, with the lines joined that belong together. -/
def prepared (text : List Char) : List Char :=
  '\n' :: joined (lineFeeds (trimSpaces text)) ++ ['\n']

/-! ## Vertices -/

/-- The numbers on the lines of vertices. -/
def vertexRows (text : List Char) : List (List (List Char)) :=
  (lines text).filterMap fun line =>
    if "v ".toList.isPrefixOf line then some (words (line.drop 2)) else none

/-- Reads a vertex; what follows the first three numbers does not matter, but has to be numbers. -/
def vertex (row : List (List Char)) : Except Fault Point :=
  match row.mapM fun word => (Json.str (String.ofList word)).asNumber with
  | .ok (x :: y :: z :: _) => .ok ⟨x, y, z⟩
  | .ok _ => .error .malformed
  | .error fault => .error fault

/-- Reads the vertices.  Where all rows together have the numbers for as many rows as the first one, they
count as such rows; other rows of several sizes are cut to the shortest. -/
def vertices (text : List Char) : Except Fault (List Point) :=
  let rows := vertexRows text
  let width := (rows.head?.map List.length).getD 0
  let least := (rows.map List.length).min?.getD 0
  let even :=
    if rows.flatten.length = rows.length * width then rowsOf width rows.length rows.flatten
    else rows.map (·.take least)
  even.mapM vertex

/-! ## Parts -/

/-- Faces that go together. -/
structure Part where
  material : Option String
  object : Option String
  /-- The lines with the faces. -/
  text : List Char

/-- The part of the text that has to do with faces: from the first line that opens or describes them to
the last face. -/
def faceText (text : List Char) : List Char :=
  let begins (rest : List Char) : Bool :=
    ["\nusemtl ", "\no ", "\nf ", "\ng ", "\ns "].any fun word => word.toList.isPrefixOf rest
  let rec fromFirst : List Char → List Char
    | [] => []
    | c :: rest => if begins (c :: rest) then c :: rest else fromFirst rest
  let tail := fromFirst text
  match throughLast? "\nf ".toList tail with
  | some before => before ++ (tail.drop before.length).takeWhile (· != '\n')
  | none => tail

/-- The first line of a text without its first characters and without blanks around, and what follows
that line. -/
def splitHead (count : Nat) (text : List Char) : String × List Char :=
  let line := text.takeWhile (· != '\n')
  (String.ofList (trimSpaces (line.drop count)), text.drop (line.length + 1))

/-- Whether some line of a text is a face. -/
def hasFaces (text : List Char) : Bool :=
  "f ".toList.isPrefixOf text || occursIn "\nf".toList text

/-- The parts of the text, each under the material and the object named before it. -/
def partsFrom : (material object : Option String) → List (List Char) → List Part
  | _, _, [] => []
  | material, object, piece :: rest =>
    let piece := trimSpaces piece ++ ['\n']
    let (material, object, body) :=
      if "o ".toList.isPrefixOf piece then
        let (name, body) := splitHead 2 piece
        (material, some name, body)
      else if "usemtl".toList.isPrefixOf piece then
        let (name, body) := splitHead 6 piece
        (some name, object, body)
      else (material, object, piece)
    let others := partsFrom material object rest
    if hasFaces body then { material, object, text := body } :: others else others

/-- Puts a part together with those of the same material, under its own object. -/
def addPart (part : Part) : List Part → List Part
  | [] => [part]
  | other :: rest =>
    if other.material = part.material then
      { part with text := other.text ++ '\n' :: part.text } :: rest
    else other :: addPart part rest

/-- The parts of a file, one for each material. -/
def parts (text : List Char) : List Part :=
  let pieces := (cutBefore "usemtl ".toList (faceText text)).flatMap (cutBefore "\no ".toList)
  (partsFrom none none pieces).foldl (fun all part => addPart part all) []

/-! ## Faces -/

/-- The corners on the lines of faces, as they are written. -/
def faceRows (text : List Char) : List (List (List Char)) :=
  (lines text).filterMap fun line =>
    if ['f'].isPrefixOf line then some (words (line.drop 1)) else none

/-- The number of the vertex that a corner counts from one. -/
def fromOne (n : Int) : Int :=
  if n > 0 then n - 1 else n

/-- The numbers between the slashes of a corner. -/
def numbersOf (corner : List Char) : List (List Char) :=
  words (corner.map fun c => if c = '/' then ' ' else c)

/-- Reads the corners of a line on its own; a line with too few is passed over. -/
def loneFace (row : List (List Char)) : Except Fault (List Int) :=
  if row.length < 3 then .ok []
  else row.mapM fun corner =>
    (Json.str (String.ofList (corner.takeWhile (· != '/')))).asInteger.map fromOne

/-- The integers at the front of a list of words, up to the first word that is none; digits at the front
of that one still count. -/
def leadingIntegers : List (List Char) → List Int
  | [] => []
  | word :: rest =>
    let (negative, written) := Number.takeSign word
    match spanDigits asciiDigit? written with
    | ([], _) => []
    | (digits, tail) =>
      let n : Int := if negative then -(ofDigits digits : Int) else ofDigits digits
      n :: if tail.isEmpty then leadingIntegers rest else []

/-- Reads faces that all have the same number of numbers: every corner starts with its vertex. -/
def evenFaces (columns corners : Nat) (rows : List (List (List Char))) : Except Fault (List Face) :=
  let numbers := leadingIntegers rows.flatten
  if columns = 0 ∨ numbers.length % columns ≠ 0 then
    .error (.wrongCount numbers.length ("(" ++ toString columns ++ ")"))
  else
    let perCorner := columns / corners
    let faces := (rowsOf columns (numbers.length / columns) numbers).map fun row =>
      (List.range corners).map fun i => fromOne (row.getD (i * perCorner) 0)
    .ok (triangulate faces)

/-- Reads the faces of a part. -/
def faces (part : Part) : Except Fault (List Face) := do
  let rows := faceRows part.text
  let numbers := rows.map (·.flatMap numbersOf)
  match rows, numbers with
  | row :: _, first :: rest =>
    if rest.all (·.length = first.length) then evenFaces first.length row.length numbers
    else return (← rows.mapM loneFace).flatMap triangles
  | _, _ => return []

/-! ## Files -/

/-- What a file shows. -/
inductive Contents where
  | nothing
  /-- Vertices without faces. -/
  | points
  | meshes (named : List (String × Geometry))

/-- A name that is not taken: the name itself, or the name with the number behind its underscore
counted up, from one on. -/
def freshName (taken : List String) (name : String) : String :=
  if taken.contains name then
    let pieces := splitAt '_' name.toList
    let number? := if pieces.length < 2 then none
      else Number.readInteger? (String.ofList (pieces.getLastD []))
    let stem := match number? with
      | some _ => "_".intercalate (pieces.dropLast.map String.ofList)
      | none => name
    let start := (number?.getD 0).toNat
    let candidates := (List.range (taken.length + 1)).map fun k =>
      stem ++ "_" ++ toString (start + k + 1)
    (candidates.find? fun candidate => !taken.contains candidate).getD name
  else name

/-- The geometry of a part, which has the vertices that its faces use. -/
def geometry (points : List Point) (part : Part) : Except Fault Geometry := do
  if points.isEmpty then throw (.noSize Json.null.kindWord)
  let g : Geometry := { vertices := points, faces := ← faces part }
  let _ ← g.corners
  return if g.faces.isEmpty then { vertices := [], faces := [] } else g.cleaned

/-- Reads an OBJ file; parts without an object are named after the file. -/
def read (fileName text : String) : Except Fault Contents := do
  let text := prepared text.toList
  let points ← vertices text
  let parts := parts text
  if parts.isEmpty then return if points.isEmpty then .nothing else .points
  let named ← parts.reverse.foldlM (fun named part => do
    let name := freshName (named.map (·.1)) (part.object.getD fileName)
    return named ++ [(name, ← geometry points part)]) ([] : List (String × Geometry))
  return .meshes named

end LevelPrep.ObjFile
