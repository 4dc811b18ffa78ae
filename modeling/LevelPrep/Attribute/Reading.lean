import LevelPrep.Attribute.Grammar

/-!
# Attributes of a name

A flag is present if its marker stands anywhere in the name.  A kind with a number is present if its
marker is followed by the opening delimiter and, anywhere later, by a closing one; its literal is what
stands between the leftmost such opening and the next closing delimiter.  A literal that is not a good
number gives the default of the kind.
-/

namespace LevelPrep

/-- The largest mask: all 32 bits are set. -/
def maxMask : Nat :=
  0xFFFFFFFF

/-- Reads a mask: ASCII digits only, and none too large.  A literal of too many digits is refused. -/
def readMask (literal : List Char) : Except Fault (Option Nat) :=
  match Text.spanDigits Text.asciiDigit? literal with
  | (digits, []) =>
    if digits.isEmpty then .ok none
    else if digits.length > Number.maxDigits then .error (.longInteger digits.length)
    else
      let n := Text.ofDigits digits
      .ok (if n ≤ maxMask then some n else none)
  | _ => .ok none

/-- Reads a factor: a finite decimal larger than zero. -/
def readFactor (literal : List Char) : Option Float :=
  match Number.readDecimal? (String.ofList literal) with
  | some x => if x.isFinite && x > 0.0 then some x else none
  | none => none

namespace Grammar

/-- The literal of a kind that carries a number. -/
def literal? (g : Grammar) (kind : AttributeKind) (name : String) : Option (List Char) := do
  let opening ← g.opening? kind
  let behind ← Text.afterFirst? opening name.toList
  Text.upTo? g.valueEnd behind

/-- Whether a name carries an attribute. -/
def has (g : Grammar) (name : String) (kind : AttributeKind) : Bool :=
  if kind.hasValue then (g.literal? kind name).isSome
  else
    match g.marker? kind with
    | some marker => Text.contains marker name
    | none => false

/-- The number that a literal denotes, or the default of the kind. -/
def literalValue (kind : AttributeKind) (literal : List Char) : Except Fault (Option AttributeValue) :=
  match kind.defaultValue? with
  | none => .ok none
  | some (.mask n) => do
    match ← readMask literal with
    | some m => return some (.mask m)
    | none => return some (.mask n)
  | some (.factor x) =>
    match readFactor literal with
    | some y => .ok (some (.factor y))
    | none => .ok (some (.factor x))

/-- The number that an attribute carries in a name; none if the attribute is absent or a flag. -/
def value (g : Grammar) (name : String) (kind : AttributeKind) :
    Except Fault (Option AttributeValue) :=
  if kind.hasValue then
    match g.literal? kind name with
    | some literal => literalValue kind literal
    | none => .ok none
  else .ok none

end Grammar

/-- The attributes found in a name, in the order of the grammar, with the numbers they carry. -/
structure NodeAttributes where
  tokens : List (AttributeKind × Option AttributeValue)

namespace NodeAttributes

def contains (a : NodeAttributes) (kind : AttributeKind) : Bool :=
  a.tokens.any (·.1 = kind)

/-- The number of an attribute, if it is there and carries one. -/
def value? (a : NodeAttributes) (kind : AttributeKind) : Option AttributeValue :=
  (a.tokens.lookup kind).join

/-- The mask of an attribute, if it is there and carries one. -/
def mask? (a : NodeAttributes) (kind : AttributeKind) : Option Nat :=
  match a.value? kind with
  | some (.mask n) => some n
  | _ => none

end NodeAttributes

namespace Grammar

/-- Collects the attributes of a name. -/
def attributes (g : Grammar) (name : String) : Except Fault NodeAttributes := do
  let found := g.kinds.filter (g.has name)
  let tokens ← found.mapM fun kind => return (kind, ← g.value name kind)
  return { tokens }

/-! ## Names that are not texts

A document may give a node any value for its name.  A flag is looked for among the members of a list
or an object; numbers are only found in texts. -/

/-- Whether the name of a node carries an attribute. -/
def nameHas (g : Grammar) (name : Json) (kind : AttributeKind) : Except Fault Bool :=
  match name with
  | .str s => .ok (g.has s kind)
  | other =>
    match g.marker? kind with
    | none => .ok false
    | some marker =>
      if kind.hasValue then .error (.noName other.kindWord) else other.holds marker

/-- The number that an attribute carries in the name of a node. -/
def nameValue (g : Grammar) (name : Json) (kind : AttributeKind) :
    Except Fault (Option AttributeValue) :=
  match name with
  | .str s => g.value s kind
  | other =>
    match g.marker? kind with
    | some _ => if kind.hasValue then .error (.noName other.kindWord) else .ok none
    | none => .ok none

/-- Collects the attributes of the name of a node. -/
def nameAttributes (g : Grammar) (name : Json) : Except Fault NodeAttributes :=
  match name with
  | .str s => g.attributes s
  | other => do
    let tokens ← g.kinds.filterMapM fun kind => do
      if ← g.nameHas other kind then return some (kind, none) else return none
    return { tokens }

end Grammar

end LevelPrep
