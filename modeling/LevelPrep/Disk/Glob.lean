import LevelPrep.Disk.Basic

/-!
# File patterns

A pattern is a path whose parts may have wildcards: `*` stands for any characters, `?` for one, and
brackets for one of a set.  The part `**` stands for a directory and all directories below it.  A
pattern whose last part is empty finds directories only.
-/

namespace LevelPrep.Glob

/-- One item of a part with wildcards. -/
inductive Item where
  | char (c : Char)
  | any
  | star
  /-- One of the ranges, or none of them if negated. -/
  | set (negated : Bool) (ranges : List (Char × Char))
deriving DecidableEq, Repr

/-- The ranges of a bracketed set; a hyphen between two characters makes a range. -/
def ranges : List Char → List (Char × Char)
  | a :: '-' :: b :: rest => (a, b) :: ranges rest
  | a :: rest => (a, a) :: ranges rest
  | [] => []

/-- What stands in brackets, and what follows them, if they are closed.  A closing bracket at the start
is a member of the set. -/
def bracket? (text : List Char) : Option (Bool × List Char × List Char) :=
  let (negated, body) := match text with | '!' :: rest => (true, rest) | _ => (false, text)
  let (first, rest) := match body with | ']' :: rest => ([']'], rest) | _ => ([], body)
  match rest.dropWhile (· != ']') with
  | ']' :: tail => some (negated, first ++ rest.takeWhile (· != ']'), tail)
  | _ => none

/-- Reads the items of a part; every item takes at least one character off. -/
def items : (fuel : Nat) → List Char → List Item
  | 0, _ => []
  | _ + 1, [] => []
  | fuel + 1, '*' :: rest => .star :: items fuel rest
  | fuel + 1, '?' :: rest => .any :: items fuel rest
  | fuel + 1, '[' :: rest =>
    match bracket? rest with
    | some (negated, body, tail) => .set negated (ranges body) :: items fuel tail
    | none => .char '[' :: items fuel rest
  | fuel + 1, c :: rest => .char c :: items fuel rest

/-- Whether a set has a character. -/
def inSet (negated : Bool) (ranges : List (Char × Char)) (c : Char) : Bool :=
  (ranges.any fun r => r.1 ≤ c && c ≤ r.2) != negated

/-- Whether items match a name from its first to its last character. -/
def Item.matchesAll : List Item → List Char → Bool
  | [], name => name.isEmpty
  | .star :: rest, name => matchesAll rest name || starFrom rest name
  | .char c :: rest, d :: name => c == d && matchesAll rest name
  | .any :: rest, _ :: name => matchesAll rest name
  | .set negated ranges :: rest, d :: name => inSet negated ranges d && matchesAll rest name
  | _ :: _, [] => false
where
  /-- Whether the items match some proper tail of the name. -/
  starFrom (rest : List Item) : List Char → Bool
    | [] => false
    | _ :: name => matchesAll rest name || starFrom rest name

/-- A part of a pattern. -/
inductive Part where
  /-- A name without wildcards. -/
  | exactly (name : String)
  | wild (items : List Item)
  /-- A directory and all directories below it. -/
  | deep
  /-- The end of a pattern that finds directories only. -/
  | directory

/-- Reads a part. -/
def Part.ofText (text : String) : Except Fault Part :=
  if text = "" then .ok .directory
  else if text = "**" then .ok .deep
  else if Text.contains "**" text then .error .malformed
  else
    let chars := text.toList
    if chars.any fun c => c == '*' || c == '?' || c == '[' then
      .ok (.wild (items (chars.length + 1) chars))
    else .ok (.exactly text)

/-- The text of a pattern; other values are refused by what they lack. -/
def textOf : Json → Except Fault String
  | .str s => .ok s
  | .obj _ => .error .noSectionField
  | .arr items => .error (if items.any (· == .str "/") then .noSectionMember else .unsuitable)
  | _ => .error .unsuitable

/-- Reads a pattern. -/
def parse (pattern : Json) : Except Fault (List Part) := do
  if !pattern.isSet then throw .malformed
  let text ← textOf pattern
  let path := Path.ofText text
  if path.isAbsolute then throw .absolutePattern
  let parts := if text.endsWith "/" then path.parts ++ [""] else path.parts
  if parts.isEmpty then throw .outOfRange
  if parts = [""] then throw (.noSuchMember "pattern" "name")
  parts.mapM Part.ofText

/-- The directories in a directory. -/
def directories (disk : Disk) (place : Path) : Except Fault (List Path) :=
  ((disk.list place).map place.child).filterM disk.isDirectory

/-- A directory and all directories below it, to the depth of the fuel. -/
def allDirectories (disk : Disk) : (fuel : Nat) → Path → Except Fault (List Path)
  | 0, _ => .ok []
  | fuel + 1, place => do
    let below ← (← directories disk place).mapM (allDirectories disk fuel)
    return place :: below.flatten

/-- What the parts of a pattern find in a directory. -/
def findParts (disk : Disk) : List Part → Path → Except Fault (List Path)
  | [], place => .ok [place]
  | .directory :: _, place => .ok [place]
  | .deep :: rest, place => do
    let places ← allDirectories disk (disk.entries.length + 1) place
    return (← places.mapM (findParts disk rest)).flatten
  | part :: rest, place => do
    if ← disk.isDirectory place then
      let found :=
        match part with
        | .exactly name => [place.child name]
        | .wild items =>
          ((disk.list place).filter fun (name : String) =>
            Item.matchesAll items name.toList).map place.child
        | _ => []
      let passed ← found.filterM fun p =>
        if rest.isEmpty then disk.isPresent p else disk.isDirectory p
      return (← passed.mapM (findParts disk rest)).flatten
    else return []

/-- What a pattern finds below a directory, each path once. -/
def find (disk : Disk) (pattern : Json) (root : Path) : Except Fault (List Path) := do
  return (← findParts disk (← parse pattern) root).eraseDups

end LevelPrep.Glob
