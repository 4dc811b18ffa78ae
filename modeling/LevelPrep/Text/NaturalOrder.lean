import LevelPrep.Text.Decomposition
import LevelPrep.Text.Digit

/-!
# Natural order

In natural order `door2` comes before `door10`: runs of decimal digits are compared as numbers, and
the text between them character by character.  A digit that makes up no larger numbers is a number of
its own.  Names are compared in decomposed form.
-/

namespace LevelPrep.Text

/-- A piece of a name: a run of digits or the text between two such runs. -/
inductive NaturalPart where
  | number (n : Nat)
  | text (chars : List Char)
deriving DecidableEq, Repr

/-- Whether a list of characters comes before another, the shorter one first if it begins it. -/
def charsBefore : List Char → List Char → Bool
  | [], [] => false
  | [], _ :: _ => true
  | _ :: _, [] => false
  | a :: as, b :: bs => a.toNat < b.toNat || (a == b && charsBefore as bs)

/-- Numbers come before text; two of a kind compare by value or by characters. -/
def NaturalPart.before : NaturalPart → NaturalPart → Bool
  | .number m, .number n => m < n
  | .number _, .text _ => true
  | .text _, .number _ => false
  | .text a, .text b => charsBefore a b

/-- A name that is cut from its end: the parts so far and, if the first of them is a run of digits, the
place value of a digit in front of it. -/
structure NaturalCut where
  parts : List NaturalPart := []
  place : Option Nat := none

/-- Puts one character in front. -/
def NaturalCut.addChar (c : Char) (cut : NaturalCut) : NaturalCut :=
  match digit? c, loneDigit? c with
  | some d, _ =>
    match cut.place, cut.parts with
    | some place, .number n :: rest =>
      { parts := .number (d * place + n) :: rest, place := some (10 * place) }
    | _, parts => { parts := .number d :: parts, place := some 10 }
  | none, some d => { parts := .number d :: cut.parts }
  | none, none =>
    match cut.parts with
    | .text chars :: rest => { parts := .text (c :: chars) :: rest }
    | parts => { parts := .text [c] :: parts }

/-- Cuts a decomposed name into its parts. -/
def naturalParts (chars : List Char) : List NaturalPart :=
  (chars.foldr NaturalCut.addChar {}).parts

/-- Puts an empty text in front of every number that has no text in front of it, so that texts and
numbers meet their like in every place. -/
def separated : (afterText : Bool) → List NaturalPart → List NaturalPart
  | _, [] => []
  | true, .number n :: rest => .number n :: separated false rest
  | false, .number n :: rest => .text [] :: .number n :: separated false rest
  | _, .text chars :: rest => .text chars :: separated true rest

/-- The key that names are sorted by. -/
def naturalKey (name : String) : List NaturalPart :=
  separated false (naturalParts (decompose name))

/-- Whether a key comes before another, the shorter one first if it begins it. -/
def keyBefore : List NaturalPart → List NaturalPart → Bool
  | [], [] => false
  | [], _ :: _ => true
  | _ :: _, [] => false
  | a :: as, b :: bs => a.before b || (a == b && keyBefore as bs)

/-- Sorts by natural order of the names; items of equal keys keep their order. -/
def naturalSort {α : Type} (name : α → String) (items : List α) : List α :=
  let keyed := items.map fun item => (naturalKey (name item), item)
  (keyed.mergeSort fun a b => !keyBefore b.1 a.1).map (·.2)

end LevelPrep.Text
