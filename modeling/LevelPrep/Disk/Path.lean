import LevelPrep.Json.Coercion

/-!
# Paths

A path is kept in normal form: no empty part and no `.` between its slashes, so that two spellings of
one path are equal.  A part `..` stays, as what it leads to depends on the directories around it.
-/

namespace LevelPrep

/-- What a path starts from. -/
inductive Anchor where
  /-- The working directory. -/
  | relative
  /-- The root of the file system, written with one slash or with exactly two. -/
  | root (double : Bool)
deriving DecidableEq, Repr

structure Path where
  anchor : Anchor := .relative
  parts : List String := []
deriving DecidableEq, Repr, Inhabited

namespace Path

/-- Whether a piece between two slashes is a part of the path. -/
def isPart (piece : String) : Bool :=
  piece != "" && piece != "."

/-- Reads a path.  Three and more leading slashes count as one. -/
def ofText (text : String) : Path :=
  let chars := text.toList
  let slashes := (chars.takeWhile (· == '/')).length
  let pieces := (Text.splitAt '/' chars).map String.ofList
  { anchor := if slashes = 0 then .relative else .root (slashes == 2)
    parts := pieces.filter isPart }

/-- The text of a path. -/
def text (p : Path) : String :=
  let rest := "/".intercalate p.parts
  match p.anchor with
  | .relative => if p.parts.isEmpty then "." else rest
  | .root double => (if double then "//" else "/") ++ rest

def isAbsolute (p : Path) : Bool :=
  p.anchor != .relative

/-- The path read from within another one; an absolute path stays as it is. -/
def append (p q : Path) : Path :=
  if q.isAbsolute then q else { p with parts := p.parts ++ q.parts }

instance : Append Path := ⟨append⟩

/-- The path of a file in the directory `p`.  An empty name and `.` lead nowhere from it. -/
def child (p : Path) (name : String) : Path :=
  if isPart name then { p with parts := p.parts ++ [name] } else p

theorem child_of_isPart {p : Path} {file : String} (h : isPart file = true) :
    p.child file = { p with parts := p.parts ++ [file] } :=
  if_pos h

theorem child_of_not_isPart {p : Path} {file : String} (h : isPart file = false) : p.child file = p :=
  if_neg (by simp [h])

/-- The directory that a path is in; the working directory and the root of the file system are in
themselves. -/
def parent (p : Path) : Path :=
  { p with parts := p.parts.dropLast }

/-- The last part of a path. -/
def name (p : Path) : String :=
  p.parts.getLastD ""

/-- The name of a file cut in two before its last point.  A point at either end does not count. -/
def splitName (name : String) : String × String :=
  let chars := name.toList
  let tail := (chars.reverse.takeWhile (· != '.')).length
  let stem := chars.take (chars.length - tail - 1)
  if tail = chars.length ∨ tail = 0 ∨ stem.isEmpty then (name, "")
  else (String.ofList stem, String.ofList (chars.drop stem.length))

/-- The name of the file without its ending. -/
def stem (p : Path) : String :=
  (splitName p.name).1

/-- The ending of the file name, from its last point on. -/
def suffix (p : Path) : String :=
  (splitName p.name).2

/-- Replaces `~` at the start of a relative path by the home directory. -/
def expandHome (p home : Path) : Except Fault Path :=
  match p.anchor, p.parts with
  | .relative, first :: rest =>
    if first = "~" then .ok { home with parts := home.parts ++ rest }
    else if first.startsWith "~" then .error .unknownHome
    else .ok p
  | _, _ => .ok p

/-- Replaces `~` at the start of a relative path by the home directory; the homes of other users are
left as they are written. -/
def expandOwnHome (p home : Path) : Path :=
  (p.expandHome home).toOption.getD p

/-- Lets every `..` take back the part in front of it; above the anchor it leads nowhere. -/
def collapse (p : Path) : Path :=
  { p with
    parts := p.parts.foldl (fun done part => if part = ".." then done.dropLast else done ++ [part]) [] }

end Path

/-- Reads a value as a path. -/
def Json.asPath : Json → Except Fault Path
  | .str s => .ok (Path.ofText s)
  | value => .error (.noPath value.kindWord)

end LevelPrep
