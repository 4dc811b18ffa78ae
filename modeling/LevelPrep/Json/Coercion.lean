import LevelPrep.Fault
import LevelPrep.Number.Literal
import LevelPrep.Text.Search

/-!
# Values read as something else

Documents and settings are loosely typed: a number may be written as text, a flag as any value, a list
of words as one text.  Each function here reads a value as one kind of thing and names the fault where
it cannot be read so.
-/

namespace LevelPrep.Json

/-- Whether a value counts as set: not null, not false, not zero and not empty. -/
def isSet : Json → Bool
  | .null => false
  | .bool b => b
  | .int n => n != 0
  | .float x => x != 0.0
  | .str s => s != ""
  | .arr items => !items.isEmpty
  | .obj fields => !fields.isEmpty

/-- Whether a value may be a key: lists and objects may not. -/
def isKey : Json → Bool
  | .arr _ | .obj _ => false
  | _ => true

/-- The value as an object, which is asked for `member`. -/
def asObject (member : String) : Json → Except Fault (List (String × Json))
  | .obj fields => .ok fields
  | value => .error (.noSuchMember value.kindWord member)

/-- The value as a text. -/
def asText : Json → Except Fault String
  | .str s => .ok s
  | _ => .error .unsuitable

/-- Refuses a value that may not be a key. -/
def checkKey (value : Json) : Except Fault Unit :=
  if value.isKey then .ok () else .error (.noKey value.kindWord)

/-- The members met on going through the value: items, characters or keys. -/
def members : Json → Except Fault (List Json)
  | .arr items => .ok items
  | .str s => .ok (s.toList.map fun c => .str (String.singleton c))
  | .obj fields => .ok (fields.map fun field => .str field.1)
  | value => .error (.noMembers value.kindWord)

/-- The number of members of the value. -/
def size (value : Json) : Except Fault Nat :=
  value.members.map List.length

/-- Whether a value is among the members of another, or stands in it if both are texts. -/
def standsIn (item : Json) : Json → Except Fault Bool
  | .str s =>
    match item with
    | .str word => .ok (Text.contains word s)
    | other => .error (.noPartOfText other.kindWord)
  | .arr items => .ok (items.any (· == item))
  | .obj fields => do
    item.checkKey
    return fields.any fun field => Json.str field.1 == item
  | value => .error (.noContainer value.kindWord)

/-- Whether a text is among the members of a value, or stands in it if it is a text itself. -/
def holds (word : String) (value : Json) : Except Fault Bool :=
  standsIn (.str word) value

/-- Refuses a section with keys that it does not know. -/
def checkKeys (known : List String) (fields : List (String × Json)) : Except Fault Unit :=
  if fields.all fun field => known.contains field.1 then .ok () else .error .unsuitable

/-- The fields of a section of the settings. -/
def asSection : Json → Except Fault (List (String × Json))
  | .obj fields => .ok fields
  | _ => .error .unsuitable

/-- The value as an integer: fractions are cut off, and a text is read as a written integer. -/
def asInteger : Json → Except Fault Int
  | .int n => .ok n
  | .bool b => .ok (if b then 1 else 0)
  | .float x =>
    match Number.truncate? x with
    | some n => .ok n
    | none => .error (if x.isNaN then .undefinedInteger else .infiniteInteger)
  | .str s =>
    match Number.readInteger s with
    | .value n => .ok n
    | .long digits => .error (.longInteger digits)
    | .malformed => .error (.notInteger (Text.quoted s))
  | value => .error (.noInteger value.kindWord)

/-- The value as an integer of 64 bits. -/
def asIndex (value : Json) : Except Fault Int := do
  let n ← value.asInteger
  if -(Number.twoPow 63 : Int) ≤ n ∧ n < Number.twoPow 63 then return n else throw .tooLargeForWord

/-- The value as a place in a list: an integer or a truth value, and nothing else. -/
def asPlace : Json → Except Fault Int
  | .int n => .ok n
  | .bool b => .ok (if b then 1 else 0)
  | _ => .error .unsuitable

/-- The value as a number; null is not a number, and a text is read as a written decimal. -/
def asNumber : Json → Except Fault Float
  | .null => .ok (0.0 / 0.0)
  | .int n => if Number.isTooLarge n then .error .tooLargeForDouble else .ok (Number.ofInt n)
  | .bool b => .ok (if b then 1.0 else 0.0)
  | .float x => .ok x
  | .str s =>
    match Number.readDecimal? s with
    | some x => .ok x
    | none => .error (.notNumber (Text.quoted s))
  | value => .error (.noNumber value.kindWord)

/-- Whether a number is not larger than zero; nothing for a value that is no number. -/
def notPositive? : Json → Option Bool
  | .int n => some (n ≤ 0)
  | .bool b => some !b
  | .float x => some (x ≤ 0.0)
  | _ => none

/-- What two lists of sizes agree on from their fronts. -/
def commonSizes : List Nat → List Nat → List Nat
  | m :: ms, n :: ns => if m = n then m :: commonSizes ms ns else []
  | _, _ => []

/-- The sizes along the nesting of a value, as far as all lists of one depth have the same size. -/
structure Shape where
  sizes : List Nat
  /-- Whether all lists of one depth have the same size down to the innermost values. -/
  even : Bool
deriving DecidableEq, Repr

/-- What two shapes have in common. -/
def Shape.meet (a b : Shape) : Shape :=
  { sizes := commonSizes a.sizes b.sizes, even := a.even && b.even && a.sizes == b.sizes }

mutual

/-- The shape of a nested list. -/
def shape : Json → Shape
  | .arr items =>
    match shapes? items with
    | some common => { common with sizes := items.length :: common.sizes }
    | none => { sizes := [0], even := true }
  | _ => { sizes := [], even := true }

/-- What the shapes of the values have in common; there is nothing to speak of without values. -/
def shapes? : List Json → Option Shape
  | [] => none
  | item :: rest =>
    match shapes? rest with
    | none => some (shape item)
    | some common => some ((shape item).meet common)

end

mutual

/-- How deep lists are nested in a value. -/
def depth : Json → Nat
  | .arr items => depths items + 1
  | _ => 0

/-- How deep lists are nested in the values. -/
def depths : List Json → Nat
  | [] => 0
  | item :: rest => max (depth item) (depths rest)

end

mutual

/-- The values inside nested lists, in reading order. -/
def leaves : Json → List Json
  | .arr items => leavesOf items
  | value => [value]

/-- The values inside several nested lists, in reading order. -/
def leavesOf : List Json → List Json
  | [] => []
  | item :: rest => leaves item ++ leavesOf rest

end

/-- Lists are nested no deeper than this. -/
def maxDepth : Nat := 64

/-- A nested list all of whose parts agree in shape: the sizes along the nesting, and the values in
reading order. -/
structure Grid (α : Type) where
  sizes : List Nat
  values : List α

/-- The values of a nested list all of whose parts agree in shape, each read by `read`. -/
def grid {α : Type} (read : Json → Except Fault α) (value : Json) : Except Fault (Grid α) :=
  if value.depth > maxDepth then .error .deepNesting
  else if value.shape.even then do
    return { sizes := value.shape.sizes, values := ← value.leaves.mapM read }
  else .error (.uneven value.shape.sizes)

/-- The numbers of a nested list. -/
def numbers (value : Json) : Except Fault (List Float) :=
  return (← value.grid asNumber).values

/-- The indices of a nested list. -/
def indices (value : Json) : Except Fault (List Int) :=
  return (← value.grid asIndex).values

end LevelPrep.Json
