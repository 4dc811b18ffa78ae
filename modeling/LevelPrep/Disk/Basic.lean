import LevelPrep.Disk.Path
import LevelPrep.Text.Utf8

/-!
# The files a run sees

A disk holds directories and files by their location, which is the list of the names on the way from
the root of the file system.  The working directory, which is the home directory too, is always there.

`locate` follows a path to its location, part by part; every part but the last has to be a directory
that is there.  All that opens, makes or looks for something goes through it.
-/

namespace LevelPrep

/-- What stands at a location of the disk. -/
inductive Entry where
  | directory
  | file (content : ByteArray)

/-- Whether the entry is a file. -/
def Entry.isFile : Entry → Bool
  | .file _ => true
  | .directory => false

structure Disk where
  /-- The working directory, as an absolute path. -/
  home : Path
  /-- The entries by their location, in the order they were made. -/
  entries : List (List String × Entry) := []
  /-- The ranks by which the file system enumerates the names in a directory. -/
  rank : String → Nat := String.utf8ByteSize

namespace Disk

/-- The entry at a location; the directories on the way to the working directory are always there. -/
def entryAt? (d : Disk) (location : List String) : Option Entry :=
  if location.isPrefixOf d.home.parts then some .directory else d.entries.lookup location

/-! ## Finding -/

/-- The most bytes that a path may have. -/
def maxPath : Nat := 4095

/-- The most bytes that a part of a path may have. -/
def maxPart : Nat := 255

/-- Follows the parts of a path from a location on; `shown` is the path in reports. -/
def follow (d : Disk) (shown : String) : (location parts : List String) → Except Fault (List String)
  | location, [] => .ok location
  | location, part :: rest =>
    match d.entryAt? location with
    | none => .error (.noSuchFile shown)
    | some (.file _) => .error (.notDirectory shown)
    | some .directory =>
      if part.utf8ByteSize > maxPart then .error (.longPath shown)
      else if part = ".." then d.follow shown location.dropLast rest
      else d.follow shown (location ++ [part]) rest

/-- The location that a path leads to, whether something is there or not. -/
def locate (d : Disk) (p : Path) : Except Fault (List String) :=
  if p.text.toList.contains (Char.ofNat 0) then .error .zeroInPath
  else if p.text.utf8ByteSize > maxPath then .error (.longPath p.text)
  else d.follow p.text (if p.isAbsolute then [] else d.home.parts) p.parts

/-- What a path leads to.  A path that leads to nothing is no fault, unless it is too long. -/
def look (d : Disk) (p : Path) : Except Fault (Option Entry) :=
  match d.locate p with
  | .ok location => .ok (d.entryAt? location)
  | .error (.longPath shown) => .error (.longPath shown)
  | .error _ => .ok none

/-- Whether something is there. -/
def isPresent (d : Disk) (p : Path) : Except Fault Bool :=
  return (← d.look p).isSome

def isFile (d : Disk) (p : Path) : Except Fault Bool :=
  return (← d.look p).any Entry.isFile

def isDirectory (d : Disk) (p : Path) : Except Fault Bool :=
  return (← d.look p).any fun e => !e.isFile

/-- The names in a location, in the order in which they were made. -/
def namesIn (d : Disk) (location : List String) : List String :=
  d.entries.filterMap fun (other, _) =>
    if other.dropLast = location ∧ other ≠ [] then other.getLast? else none

/-- Names as the file system enumerates them: by rank, and those of one rank in the order that they are given in. -/
def enumerate (d : Disk) : List String → List String
  | [] => []
  | name :: rest =>
    let enumerated := d.enumerate rest
    let lower other := d.rank other < d.rank name
    enumerated.takeWhile lower ++ name :: enumerated.dropWhile lower

/-- The names in a directory, as the file system enumerates them. -/
def list (d : Disk) (p : Path) : List String :=
  match d.locate p with
  | .error _ => []
  | .ok location => d.enumerate (d.namesIn location)

/-- The path read from the working directory, every `..` in it taken back. -/
def absolute (d : Disk) (p : Path) : Path :=
  (d.home ++ p).collapse

/-- The files below a directory with their paths from the working directory, in the order in which they
were made. -/
def filesBelow (d : Disk) (directory : Path) : List (Path × ByteArray) :=
  d.entries.filterMap fun (location, entry) =>
    match entry with
    | .directory => none
    | .file content =>
      if (d.absolute directory).parts.isPrefixOf location then
        some ({ parts := location.drop d.home.parts.length }, content)
      else none

/-! ## Directories -/

/-- The locations above a location, from the top down. -/
def above (location : List String) : List (List String) :=
  (List.range location.length).map location.take

/-- Makes a directory with all directories above it, where nothing stands yet. -/
def makeDirectories (d : Disk) (location : List String) : Disk :=
  (above location ++ [location]).foldl
    (fun d place =>
      if (d.entryAt? place).isSome then d
      else { d with entries := d.entries ++ [(place, .directory)] })
    d

/-- Makes a directory where nothing is, in a directory that is there. -/
def makeNew (d : Disk) (p : Path) : Except Fault Disk := do
  let location ← d.locate p
  if (d.entryAt? location).isSome then throw (.fileExists p.text)
  return { d with entries := d.entries ++ [(location, .directory)] }

/-- The outcome of making a directory, where a directory may be there already. -/
def orPresent (d : Disk) (p : Path) (made : Except Fault Disk) : Except Fault Disk :=
  match made with
  | .ok d => .ok d
  | .error .zeroInPath => .error .zeroInPath
  | .error fault => do if ← d.isDirectory p then return d else throw fault

/-- Makes a directory and first, to the depth of the fuel, the directories above it that are missing. -/
def makeWithParents (d : Disk) (p : Path) : (fuel : Nat) → Except Fault Disk
  | 0 => d.orPresent p (d.makeNew p)
  | fuel + 1 =>
    match d.makeNew p with
    | .error (.noSuchFile shown) => do
      if p.parent = p then throw (.noSuchFile shown)
      let d ← d.makeWithParents p.parent fuel
      match d.makeNew p with
      | .error (.noSuchFile shown) => throw (.noSuchFile shown)
      | made => d.orPresent p made
    | made => d.orPresent p made

/-- Makes a directory with all directories above it; a directory may be there already. -/
def makeDirectory (d : Disk) (p : Path) : Except Fault Disk :=
  d.makeWithParents p p.parts.length

/-! ## Files -/

/-- Sets the entry at a location, keeping the order of the entries. -/
def put (d : Disk) (location : List String) (entry : Entry) : Disk :=
  if d.entries.any (·.1 = location) then
    { d with entries := d.entries.map fun e => if e.1 = location then (location, entry) else e }
  else { d with entries := d.entries ++ [(location, entry)] }

/-- Writes a file, with the directories above it. -/
def write (d : Disk) (p : Path) (content : ByteArray) : Disk :=
  let location := (d.absolute p).parts
  (d.makeDirectories location.dropLast).put location (.file content)

/-- Takes a file away, or a directory with everything in it. -/
def delete (d : Disk) (p : Path) : Disk :=
  { d with entries := d.entries.filter fun e => !(d.absolute p).parts.isPrefixOf e.1 }

/-- Moves a file, or a directory with everything in it. -/
def rename (d : Disk) (source target : Path) : Disk :=
  let old := (d.absolute source).parts
  let moved := d.entries.filterMap fun e =>
    if old.isPrefixOf e.1 then some ((d.absolute target).parts ++ e.1.drop old.length, e.2) else none
  moved.foldl (fun d e => d.put e.1 e.2) (d.delete source)

/-- Opens a file for writing: the directory it lies in has to be there. -/
def openFile (d : Disk) (p : Path) : Except Fault (List String) := do
  let location ← d.locate p
  match d.entryAt? location with
  | some .directory => throw (.isDirectory p.text)
  | _ => return location

/-- Puts text at the end of a file, which is made if it is not there. -/
def append (d : Disk) (location : List String) (text : String) : Disk :=
  match d.entryAt? location with
  | some (.file content) => d.put location (.file (content ++ text.toUTF8))
  | _ => d.put location (.file text.toUTF8)

/-- Ends every line with a line feed alone, however it was ended. -/
def unifyLines : List Char → List Char
  | '\r' :: '\n' :: rest => '\n' :: unifyLines rest
  | '\r' :: rest => '\n' :: unifyLines rest
  | c :: rest => c :: unifyLines rest
  | [] => []

/-- The text that the bytes of a file are. -/
def textOf (content : ByteArray) : Except Fault String :=
  match String.fromUTF8? content with
  | some text => .ok text
  | none =>
    match Text.Utf8.flaw? (content.toList.map UInt8.toNat) with
    | some flaw => .error (.notText flaw.bytes flaw.place flaw.reason)
    | none => .error .malformed

/-- The text of a file, its lines ended as they are. -/
def readPlain (d : Disk) (p : Path) : Except Fault String := do
  match d.entryAt? (← d.locate p) with
  | some (.file content) => textOf content
  | some .directory => throw (.isDirectory p.text)
  | none => throw (.noSuchFile p.text)

/-- The text of a file, every line ended by a line feed. -/
def readText (d : Disk) (p : Path) : Except Fault String :=
  return String.ofList (unifyLines (← d.readPlain p).toList)

end Disk

end LevelPrep
