import LevelPrep.Json.Basic

/-!
# Writing JSON

A written document is ASCII text: every other character is escaped as UTF-16 units.  Lists and objects
take one line per member, indented by four blanks per level.
-/

namespace LevelPrep.Json

/-- A UTF-16 unit as an escape. -/
def escapeUnit (unit : Nat) : List Char :=
  '\\' :: 'u' :: Text.hexDigits 4 unit

/-- How a character is written inside a text. -/
def escapeChar (c : Char) : List Char :=
  if c = '"' then ['\\', '"']
  else if c = '\\' then ['\\', '\\']
  else if c = '\n' then ['\\', 'n']
  else if c = '\r' then ['\\', 'r']
  else if c = '\t' then ['\\', 't']
  else if c.toNat = 8 then ['\\', 'b']
  else if c.toNat = 12 then ['\\', 'f']
  else if 0x20 ≤ c.toNat ∧ c.toNat < 0x7F then [c]
  else if c.toNat < 0x10000 then escapeUnit c.toNat
  else
    let offset := c.toNat - 0x10000
    escapeUnit (0xD800 + offset / 0x400) ++ escapeUnit (0xDC00 + offset % 0x400)

/-- A text between quotes. -/
def printText (s : String) : String :=
  String.ofList ('"' :: s.toList.flatMap escapeChar ++ ['"'])

/-- A number; the values that are no numbers are written as words. -/
def printFloat (x : Float) : String :=
  match Number.Form.ofFloat x with
  | .nan => "NaN"
  | .infinite negative => if negative then "-Infinity" else "Infinity"
  | .finite .. => Number.floatText x

/-- The start of a line that is indented to a level. -/
def lineBreak (level : Nat) : String :=
  "\n" ++ "".pushn ' ' (4 * level)

/-- Members between brackets, one to a line. -/
def printBlock (level : Nat) (opening closing : String) (members : List String) : String :=
  if members.isEmpty then opening ++ closing
  else
    opening ++ lineBreak (level + 1) ++ ("," ++ lineBreak (level + 1)).intercalate members ++
      lineBreak level ++ closing

mutual

/-- A value that stands on a line of the given level. -/
def printAt (level : Nat) : Json → String
  | .null => "null"
  | .bool b => if b then "true" else "false"
  | .int n => toString n
  | .float x => printFloat x
  | .str s => printText s
  | .arr items => printBlock level "[" "]" (printItems (level + 1) items)
  | .obj fields => printBlock level "\x7b" "\x7d" (printFields (level + 1) fields)

/-- The items of a list. -/
def printItems (level : Nat) : List Json → List String
  | [] => []
  | item :: rest => printAt level item :: printItems level rest

/-- The fields of an object. -/
def printFields (level : Nat) : List (String × Json) → List String
  | [] => []
  | (key, item) :: rest =>
    (printText key ++ ": " ++ printAt level item) :: printFields level rest

end

/-- The text of a document. -/
def print (value : Json) : String :=
  printAt 0 value

end LevelPrep.Json
