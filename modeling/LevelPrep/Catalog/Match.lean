import LevelPrep.Json.Coercion
import LevelPrep.Text.Folding

/-!
# The best match for a name

A name is matched with the entry whose short name stands in it; of several such entries the longest
short name wins, and of equally long ones the first.  Where letter case does not matter, both sides are
folded for the search, but the length that counts is that of the short name as it is.
-/

namespace LevelPrep

variable {E : Type}

/-- Whether an entry with the given short name matches; the empty short name matches nothing. -/
def matchesName (caseSensitive : Bool) (shortName name : String) : Bool :=
  shortName != "" &&
    if caseSensitive then Text.contains shortName name
    else Text.contains (Text.fold shortName) (Text.fold name)

/-- The better of two entries: the later one only if its short name is longer. -/
def betterMatch (shortName : E → String) (best : Option E) (entry : E) : Option E :=
  match best with
  | none => some entry
  | some other => if (shortName entry).length > (shortName other).length then some entry else best

/-- The entry that a name is matched with. -/
def bestMatch? (caseSensitive : Bool) (shortName : E → String) (entries : List E) (name : String) :
    Option E :=
  (entries.filter fun entry => matchesName caseSensitive (shortName entry) name).foldl
    (betterMatch shortName) none

/-- The entry that the name of a node or a material is matched with; the name need not be a text.
Without regard to case only texts can be matched; otherwise a short name is looked for among the
members of the value. -/
def bestMatchFor (caseSensitive : Bool) (shortName : E → String) (entries : List E) (name : Json) :
    Except Fault (Option E) :=
  match name with
  | .str s => .ok (bestMatch? caseSensitive shortName entries s)
  | other =>
    if caseSensitive then do
      let candidates ← (entries.filter (shortName · != "")).filterM fun entry =>
        other.holds (shortName entry)
      return candidates.foldl (betterMatch shortName) none
    else .error (.noSuchMember other.kindWord "casefold")

end LevelPrep
