import LevelPrep.Text.LoweringTable

/-!
# Small letters

`lower` writes a text in small letters.  A capital sigma becomes a final one where a letter stands in
front of it and none behind it.
-/

namespace LevelPrep.Text

/-- The small letters of one character. -/
def lowerChar (c : Char) : List Char :=
  if c.toNat < 0x80 then [c.toLower]
  else if c = Char.ofNat 0x130 then ['i', Char.ofNat 0x307]
  else
    match lowerShifts.findSome? (·.target? c.toNat) with
    | some code => [Char.ofNat code]
    | none => [c]

/-- Whether a character is a capital or a small letter. -/
def isCased (c : Char) : Bool :=
  lowerChar c != [c] || ('a' ≤ c && c ≤ 'z') ||
    lowerShifts.any fun run => (run.target? ((c.toNat : Int) - run.delta).toNat) == some c.toNat

/-- The small letters of a text; `before` is the character in front of it. -/
def lowerFrom (before : Char) : List Char → List Char
  | [] => []
  | c :: rest =>
    let ends := isCased before && !(rest.head?.any isCased)
    (if c = Char.ofNat 0x3A3 ∧ ends then [Char.ofNat 0x3C2] else lowerChar c) ++ lowerFrom c rest

/-- The text in small letters. -/
def lower (text : String) : String :=
  String.ofList (lowerFrom ' ' text.toList)

end LevelPrep.Text
