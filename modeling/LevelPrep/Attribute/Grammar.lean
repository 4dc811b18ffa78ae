import LevelPrep.Attribute.Kind
import LevelPrep.Json.Coercion
import LevelPrep.Text.NaturalOrder

/-!
# Attribute grammars

An attribute stands in a name as its marker, the indicator followed by a keyword, and a kind that
carries a number has the number between two delimiters right after the marker.  `GrammarSettings` is a
grammar as it is configured, `Grammar` one that names can be read with.  One keyword may be contained
in another; `GrammarSettings.overlaps` lists such pairs.
-/

namespace LevelPrep

/-- A grammar that names can be read with. -/
structure Grammar where
  indicator : String
  valueStart : Char
  valueEnd : Char
  /-- The keywords of the configured kinds, each kind once. -/
  keywords : List (AttributeKind × String)
deriving DecidableEq, Repr

namespace Grammar

/-- The grammar that is used where none is configured. -/
def default : Grammar where
  indicator := "="
  valueStart := '\x7b'
  valueEnd := '\x7d'
  keywords := AttributeKind.all.map fun kind => (kind, kind.defaultKeyword)

/-- The configured kinds. -/
def kinds (g : Grammar) : List AttributeKind :=
  g.keywords.map (·.1)

/-- What a kind is marked with, if it is configured. -/
def marker? (g : Grammar) (kind : AttributeKind) : Option String :=
  (g.keywords.lookup kind).map (g.indicator ++ ·)

/-- What comes in front of the number of a kind. -/
def opening? (g : Grammar) (kind : AttributeKind) : Option (List Char) :=
  (g.marker? kind).map fun marker => marker.toList ++ [g.valueStart]

end Grammar

/-- A grammar as configured.  The delimiters are values of size one and the keywords are set, but they
need not be texts. -/
structure GrammarSettings where
  indicator : Json
  valueStart : Json
  valueEnd : Json
  keywords : List (AttributeKind × Json)

/-- The keywords of two distinct kinds of which the first is contained in the longer second. -/
def overlapping (keywords : List String) : List (String × String) :=
  let pairs := keywords.eraseDups.flatMap fun shorter =>
    (keywords.eraseDups.filter fun longer =>
      shorter.length < longer.length && Text.contains shorter longer).map fun longer =>
        (shorter, longer)
  pairs.mergeSort fun a b =>
    !(Text.charsBefore b.1.toList a.1.toList ||
      (a.1 == b.1 && Text.charsBefore b.2.toList a.2.toList))

/-- The texts sorted by their characters. -/
def sortedWords (words : List String) : List String :=
  words.mergeSort fun a b => !Text.charsBefore b.toList a.toList

namespace GrammarSettings

/-- A pair of a key and a value, given as anything with two members. -/
def asPair (value : Json) : Except Fault (Json × Json) := do
  match ← value.members with
  | [key, item] => if key.isKey then return (key, item) else throw .unsuitable
  | _ => throw .malformed

/-- Gives a key its value: in its place if the key is there, at the end otherwise. -/
def setPair (pair : Json × Json) : List (Json × Json) → List (Json × Json)
  | [] => [pair]
  | other :: rest =>
    if other.1 == pair.1 then (other.1, pair.2) :: rest else other :: setPair pair rest

/-- The keys and values of an object, or of pairs; of a repeated key the last value counts. -/
def asPairs : Json → Except Fault (List (Json × Json))
  | .obj fields => .ok (fields.map fun field => (.str field.1, field.2))
  | value => do
    (← value.members).foldlM (fun pairs member => return setPair (← asPair member) pairs) []

/-- Checks one keyword. -/
def checkKeyword (pair : Json × Json) : Except Fault (AttributeKind × Json) :=
  let kind? := match pair.1 with | .str word => AttributeKind.ofWord? word | _ => none
  match kind? with
  | none =>
    .error (.unknownAttribute pair.1.display
      (sortedWords (AttributeKind.all.map AttributeKind.word)))
  | some kind => if pair.2.isSet then .ok (kind, pair.2) else .error (.emptyKeyword kind.word)

/-- Refuses a delimiter that is not of size one. -/
def checkDelimiter (role : String) (value : Json) : Except Fault Unit := do
  if (← value.size) = 1 then return else throw (.longDelimiter role value.display)

/-- The keywords of a grammar that configures none. -/
def defaultKeywords : Json :=
  .obj (AttributeKind.all.map fun kind => (kind.word, .str kind.defaultKeyword))

/-- Reads the section of a grammar. -/
def ofFields (fields : List (String × Json)) : Except Fault GrammarSettings := do
  Json.checkKeys ["indicator", "value_start", "value_end", "keywords"] fields
  let indicator := (fields.lookup "indicator").getD (.str "=")
  let valueStart := (fields.lookup "value_start").getD (.str "\x7b")
  let valueEnd := (fields.lookup "value_end").getD (.str "\x7d")
  checkDelimiter "indicator" indicator
  checkDelimiter "value_start" valueStart
  checkDelimiter "value_end" valueEnd
  let pairs ← asPairs ((fields.lookup "keywords").getD defaultKeywords)
  return { indicator, valueStart, valueEnd, keywords := ← pairs.mapM checkKeyword }

/-- The pairs of keywords of which one is contained in the other; keywords have to be texts. -/
def overlaps (s : GrammarSettings) : Except Fault (List (String × String)) := do
  return overlapping (← s.keywords.mapM (·.2.asText))

/-- The single character of a delimiter. -/
def asDelimiter : Json → Except Fault Char
  | .str s =>
    match s.toList with
    | [c] => .ok c
    | _ => .error .unsuitable
  | _ => .error .unsuitable

/-- The grammar to read names with. -/
def grammar (s : GrammarSettings) : Except Fault Grammar := do
  return {
    indicator := s.indicator.display
    valueStart := ← asDelimiter s.valueStart
    valueEnd := ← asDelimiter s.valueEnd
    keywords := s.keywords.map fun (kind, keyword) => (kind, keyword.display) }

end GrammarSettings

end LevelPrep
