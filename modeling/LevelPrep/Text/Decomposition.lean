import LevelPrep.Text.DecompositionTable

/-!
# Canonical decomposition

The canonical decomposition of a text takes every composed character apart and puts each run of
combining marks into the order of their classes.  Canonically equivalent texts have the same one.
-/

namespace LevelPrep.Text

/-- The canonical combining class of a character; a mark has a class other than zero. -/
def combiningRank (c : Char) : Nat :=
  if c.toNat < 0x300 then 0
  else
    match combiningRanges.find? fun r => r.first ≤ c.toNat ∧ c.toNat ≤ r.last with
    | some r => r.rank
    | none => 0

/-- The listed decompositions of the part of Unicode that the code point lies in. -/
def decompositionsNear (code : Nat) : List (Nat × List Nat) :=
  if code < 0x900 then latinDecompositions
  else if code < 0x1E00 then indicDecompositions
  else if code < 0x2000 then extendedDecompositions
  else if code < 0xF900 then symbolDecompositions
  else if code < 0xFB00 then ideographDecompositions
  else if code < 0x2F800 then presentationDecompositions
  else supplementDecompositions

/-- The characters that one character decomposes into.  A Hangul syllable is numbered by its leading
consonant, its vowel and its trailing consonant, of which the last may be missing. -/
def decomposeChar (c : Char) : List Char :=
  let code := c.toNat
  if code < 0xC0 then [c]
  else if 0xAC00 ≤ code ∧ code ≤ 0xD7A3 then
    let index := code - 0xAC00
    let lead := Char.ofNat (0x1100 + index / 588)
    let vowel := Char.ofNat (0x1161 + index % 588 / 28)
    if index % 28 = 0 then [lead, vowel]
    else [lead, vowel, Char.ofNat (0x11A7 + index % 28)]
  else
    match (decompositionsNear code).lookup code with
    | some codes => codes.map Char.ofNat
    | none => [c]

/-- Puts a mark in front of the marks that follow it, behind those of a smaller class. -/
def insertMark (mark : Char) : List Char → List Char
  | [] => [mark]
  | c :: rest =>
    if combiningRank c ≠ 0 ∧ combiningRank c < combiningRank mark then c :: insertMark mark rest
    else mark :: c :: rest

/-- Sorts every run of marks by class; marks of one class keep their order. -/
def orderMarks : List Char → List Char
  | [] => []
  | c :: rest =>
    if combiningRank c = 0 then c :: orderMarks rest else insertMark c (orderMarks rest)

/-- The canonical decomposition of a text. -/
def decompose (text : String) : List Char :=
  orderMarks (text.toList.flatMap decomposeChar)

end LevelPrep.Text
