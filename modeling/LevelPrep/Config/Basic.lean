import LevelPrep.Config.Reference
import LevelPrep.Json.Coercion

/-!
# Configurations

A configuration is an object with sections in it.  A text in it may refer to other values, and the text
`???` stands for a value that is still to be given.  A value is looked up (`Config.look`) when it is
asked for, so a reference that leads nowhere does no harm where nobody follows it.
-/

namespace LevelPrep

/-- The text for a value that is still to be given. -/
def Config.missingMark : String :=
  "???"

structure Config where
  root : Json
  /-- The variables that texts can refer to. -/
  environment : List (String × String) := []

namespace Config

/-- A value, with the keys that lead to it if it stands in the configuration. -/
structure Located where
  place : Option (List String)
  value : Json

/-! ## Changes -/

mutual

/-- Whether all texts in a value can be read. -/
def isReadable : Json → Bool
  | .str s => !mayRefer s || (pieces? s).isSome
  | .arr items => areReadable items
  | .obj fields => haveReadable fields
  | _ => true

def areReadable : List Json → Bool
  | [] => true
  | item :: rest => isReadable item && areReadable rest

def haveReadable : List (String × Json) → Bool
  | [] => true
  | field :: rest => isReadable field.2 && haveReadable rest

end

mutual

/-- A value with another put over it: sections are merged, and all else is replaced, unless the new
value is still to be given. -/
def merge : (base changes : Json) → Except Fault Json
  | .obj base, .obj changes => return .obj (← mergeFields base changes)
  | .obj _, .arr _ => .error .unlikeSections
  | .arr _, .obj _ => .error .unlikeSections
  | base, changes => .ok (if changes == .str missingMark then base else changes)

/-- Fields with other fields put over them, one after the other. -/
def mergeFields (base : List (String × Json)) :
    (changes : List (String × Json)) → Except Fault (List (String × Json))
  | [] => .ok base
  | (key, value) :: rest => do
    let merged ←
      match base.lookup key with
      | some old => merge old value
      | none => .ok value
    mergeFields (Json.setField key merged base) rest

end

/-- The configuration with changes put over it. -/
def change (c : Config) (changes : Json) : Except Fault Config := do
  if !isReadable changes then throw .unreadableReference
  return { c with root := ← merge c.root changes }

/-! ## Arguments -/

/-- The value that a bare word without references stands for: a word of the format, a number or a text. -/
def bareValue (chars : List Char) : Json :=
  let text := String.ofList chars
  let word := String.ofList (chars.map Char.toLower)
  let (_, digits) := Number.takeSign chars
  let padded := match digits with | '0' :: c :: _ => c.isDigit || c == '_' | _ => false
  let isNumber := !padded && digits.all fun c => c.isDigit || "_.eE+-".toList.contains c
  if word = "null" then .null
  else if word = "true" then .bool true
  else if word = "false" then .bool false
  else if isNumber || [['i', 'n', 'f'], ['n', 'a', 'n']].contains (digits.map Char.toLower) then
    match Number.readInteger? text, Number.readDecimal? text with
    | some n, _ => .int n
    | none, some x => .float x
    | none, none => .str text
  else .str text

/-! ## Looking up -/

/-- The value below a value, if there is one. -/
def below? (key : String) : Json → Except Fault (Option Json)
  | .obj fields => .ok (fields.lookup key)
  | .arr items =>
    match Number.readInteger? key with
    | some n => .ok (if n < 0 then none else items[n.toNat]?)
    | none => .error .unresolvedReference
  | _ => .error .unresolvedReference

/-- The value at a place, as it is written. -/
def written? (value : Json) : List String → Option Json
  | [] => some value
  | key :: rest =>
    match below? key value with
    | .ok (some inner) => written? inner rest
    | _ => none

/-- The keys of a place that is written with points in it. -/
def splitKey (key : String) : List String :=
  (Text.splitAt '.' key.toList).map String.ofList

/-- The keys and the values of an object, as sources give them. -/
def keysAndValues : Json → Except Fault (List Json × List Json)
  | .obj fields => .ok (fields.map (.str ·.1), fields.map (·.2))
  | _ => .error .unresolvedReference

mutual

/-- The value that a written value stands for.  A chain of references longer than the fuel is taken for
a circle. -/
def find (c : Config) : (fuel : Nat) → (place : List String) → Json → Except Fault Located
  | 0, _, _ => .error .unresolvedReference
  | fuel + 1, place, .str s =>
    if mayRefer s then
      match pieces? s with
      | none => .error .unreadableReference
      | some [.reference r] => c.follow fuel place.dropLast r
      | some pieces => do
        let texts ← pieces.mapM (c.pieceText fuel place.dropLast)
        return { place := none, value := .str (String.join texts) }
    else .ok { place := some place, value := .str s }
  | _ + 1, place, value => .ok { place := some place, value }

/-- The text of a piece of a text; `parent` is the place of what the text stands in. -/
def pieceText (c : Config) : (fuel : Nat) → (parent : List String) → Piece → Except Fault String
  | 0, _, _ => .error .unresolvedReference
  | _ + 1, _, .plain chars => .ok (String.ofList chars)
  | fuel + 1, parent, .reference r => do
    return (← c.follow fuel parent r).value.display

/-- The value that a reference leads to. -/
def follow (c : Config) : (fuel : Nat) → (parent : List String) → Reference → Except Fault Located
  | 0, _, _ => .error .unresolvedReference
  | fuel + 1, parent, .place points keys => do
    let keys := (← keys.mapM (c.pieceText fuel parent)).flatMap splitKey
    if points > parent.length + 1 then throw .danglingReference
    let start := if points = 0 then [] else parent.take (parent.length + 1 - points)
    match written? c.root start with
    | none => throw .danglingReference
    | some value =>
      let found ← c.walk fuel { place := some start, value } keys
      if found.place.any (·.isPrefixOf parent) then throw .unresolvedReference
      return found
  | fuel + 1, parent, .source name given => do
    let name := ".".intercalate (← name.mapM (c.pieceText fuel parent))
    let given ← given.mapM (c.argumentValue fuel parent)
    c.ask fuel parent name given

/-- Goes along keys from a value. -/
def walk (c : Config) : (fuel : Nat) → Located → List String → Except Fault Located
  | 0, _, _ => .error .unresolvedReference
  | _ + 1, node, [] => .ok node
  | fuel + 1, node, key :: rest => do
    match ← below? key node.value with
    | none => throw .danglingReference
    | some value =>
      if value == .str missingMark then throw .referenceToMissing
      match node.place with
      | some place => c.walk fuel (← c.find fuel (place ++ [key]) value) rest
      | none => c.walk fuel { place := none, value } rest

/-- The value of an argument. -/
def argumentValue (c : Config) : (fuel : Nat) → (parent : List String) → Argument →
    Except Fault Json
  | 0, _, _ => .error .unresolvedReference
  | _ + 1, _, .bare [.plain chars] => .ok (bareValue chars)
  | fuel + 1, parent, .bare [.reference r] => return (← c.follow fuel parent r).value
  | fuel + 1, parent, .bare pieces => do
    return .str (String.join (← pieces.mapM (c.pieceText fuel parent)))
  | fuel + 1, parent, .quoted pieces => do
    return .str (String.join (← pieces.mapM (c.pieceText fuel parent)))
  | fuel + 1, parent, .list items => return .arr (← items.mapM (c.argumentValue fuel parent))
  | fuel + 1, parent, .object fields => do
    return .obj (← fields.mapM fun (name, item) => do
      let name ← name.mapM (c.pieceText fuel parent)
      return (String.join name, ← c.argumentValue fuel parent item))

/-- The value that a source gives for its arguments. -/
def ask (c : Config) : (fuel : Nat) → (parent : List String) → (name : String) → List Json →
    Except Fault Located
  | 0, _, _, _ => .error .unresolvedReference
  | fuel + 1, parent, name, given =>
    let lone (value : Json) : Except Fault Located := .ok { place := none, value }
    match name, given with
    | "oc.env", .str key :: rest =>
      match c.environment.lookup key, rest with
      | some value, [] | some value, [_] => lone (.str value)
      | none, [.null] => lone .null
      | none, [default] => lone (.str default.display)
      | _, _ => .error .unresolvedReference
    | "oc.select", .str key :: rest =>
      match c.select fuel parent key, rest with
      | .ok found, [] | .ok found, [_] => .ok found
      | .error .danglingReference, [default] | .error .referenceToMissing, [default] => lone default
      | .error .danglingReference, [] | .error .referenceToMissing, [] => lone .null
      | .error fault, _ => .error fault
      | _, _ => .error .unresolvedReference
    | "oc.decode", [.null] => lone .null
    | "oc.decode", [.str text] =>
      match argument? text with
      | some given => do lone (← c.argumentValue fuel parent given)
      | none => .error .unresolvedReference
    | "oc.create", [value] => lone value
    | "oc.dict.keys", [given] => do
      lone (.arr (← keysAndValues (← c.objectOf fuel parent given)).1)
    | "oc.dict.values", [given] => do
      lone (.arr (← keysAndValues (← c.objectOf fuel parent given)).2)
    | name, _ =>
      if ["oc.env", "oc.select", "oc.decode", "oc.create", "oc.dict.keys", "oc.dict.values"].contains
          name then .error .unresolvedReference
      else .error .unknownSource

/-- The value at a place that is written as a text. -/
def select (c : Config) : (fuel : Nat) → (parent : List String) → (key : String) →
    Except Fault Located
  | 0, _, _ => .error .unresolvedReference
  | fuel + 1, parent, key =>
    let points := (key.toList.takeWhile (· == '.')).length
    c.follow fuel parent (.place points [.plain (key.toList.drop points)])

/-- An object, given itself or by its place. -/
def objectOf (c : Config) : (fuel : Nat) → (parent : List String) → Json → Except Fault Json
  | 0, _, _ => .error .unresolvedReference
  | fuel + 1, parent, .str key => return (← c.select fuel parent key).value
  | _ + 1, _, value => .ok value

end

/-- How long a chain of references may be, and how deep a value. -/
def maxSteps : Nat :=
  1000

/-- The value at a place that is asked for: it has to be there and may not be still to be given. -/
def look (c : Config) (place : List String) (value : Json) : Except Fault Located :=
  if value == .str missingMark then .error .missingValue else c.find maxSteps place value

/-- The values below a value, each with its key. -/
def inner : Json → List (String × Json)
  | .obj fields => fields
  | .arr items => items.zipIdx.map fun (item, i) => (toString i, item)
  | _ => []

/-- The value of a field of a section, looked up. -/
def lookBelow (c : Config) (node : Located) (key : String) (value : Json) : Except Fault Located :=
  match node.place with
  | some place => c.look (place ++ [key]) value
  | none => .ok { place := none, value }

/-- The fields of a section, each looked up in turn. -/
def fields (c : Config) (node : Located) : Except Fault (List (String × Located)) := do
  let fields ← node.value.asSection
  fields.mapM fun (key, value) => return (key, ← c.lookBelow node key value)

/-- The members met on going through a value, each looked up when it is come to. -/
def members (c : Config) (node : Located) : Except Fault (List (Except Fault Json)) :=
  match node.value with
  | .arr items =>
    .ok (items.zipIdx.map fun (item, i) => (c.lookBelow node (toString i) item).map (·.value))
  | value => return (← value.members).map .ok

/-- A value with everything in it looked up; what is still to be given stays. -/
def resolve (c : Config) : (fuel : Nat) → Located → Except Fault Json
  | 0, _ => .error .unresolvedReference
  | fuel + 1, node =>
    let below (field : String × Json) : Except Fault (String × Json) := do
      match node.place with
      | some place => return (field.1, ← c.resolve fuel (← c.find maxSteps (place ++ [field.1]) field.2))
      | none => return field
    match node.value with
    | .obj fields => return .obj (← fields.mapM below)
    | .arr items => return .arr ((← (inner (.arr items)).mapM below).map (·.2))
    | value => .ok value

end Config

end LevelPrep
