import LevelPrep.Text.FoldingTable

/-!
# Case folding

Texts that differ only in letter case have one common folded form.  Folding may change the length:
`ß` folds to `ss`.
-/

namespace LevelPrep.Text

/-- The characters that one character folds to. -/
def foldChar (c : Char) : List Char :=
  if c.toNat < 0x80 then
    [c.toLower]
  else
    match foldExpansions.lookup c.toNat with
    | some codes => codes.map Char.ofNat
    | none =>
      match foldShifts.findSome? (·.target? c.toNat) with
      | some code => [Char.ofNat code]
      | none => [c]

/-- The folded form of a text. -/
def fold (text : String) : String :=
  String.ofList (text.toList.flatMap foldChar)

end LevelPrep.Text
