import LevelPrep.Number.Double
import LevelPrep.Text.Blank
import LevelPrep.Text.Digit

/-!
# Written numbers

An integer or a decimal may be written with a sign, with blanks around it, with any decimal digits of
Unicode, and with single underscores between digits.  A decimal may also be one of the words `inf`,
`infinity` and `nan`, in any letter case.
-/

namespace LevelPrep.Number

open LevelPrep.Text

/-- Integers of more digits than this are refused. -/
def maxDigits : Nat := 4300

/-- Spells every decimal digit in ASCII. -/
def asciiDigits (text : List Char) : List Char :=
  text.map fun c =>
    match digit? c with
    | some d => Nat.digitChar d
    | none => c

/-- Drops the underscores if each of them stands between two digits; `before` is the character in front
of the text. -/
def dropUnderscores? : (before : Char) → List Char → Option (List Char)
  | before, [] => if before = '_' then none else some []
  | before, c :: rest =>
    if c = '_' then
      if before.isDigit then dropUnderscores? c rest else none
    else if before = '_' ∧ ¬ c.isDigit then none
    else (dropUnderscores? c rest).map (c :: ·)

/-- The sign in front of a number, and the number: whether it is negative. -/
def takeSign : List Char → Bool × List Char
  | '+' :: rest => (false, rest)
  | '-' :: rest => (true, rest)
  | text => (false, text)

/-- A written number without its blanks and underscores, digits in ASCII. -/
def normalizeLiteral? (text : String) : Option (List Char) :=
  dropUnderscores? ' ' (asciiDigits (trimBlanks text.toList))

/-- What a text says when it is read as an integer. -/
inductive WrittenInteger where
  | value (n : Int)
  /-- It begins with more digits than are allowed, whatever follows them. -/
  | long (digits : Nat)
  | malformed
deriving DecidableEq, Repr

/-- The digits at the front of a text, and what follows them; there are none if an underscore does not
stand between two digits.  `before` is the character in front of the text. -/
def spanGroups? : (before : Char) → List Char → Option (List Nat × List Char)
  | before, [] => if before = '_' then none else some ([], [])
  | before, c :: rest =>
    if c = '_' then
      if (digit? before).isSome then spanGroups? c rest else none
    else
      match digit? c with
      | some d => (spanGroups? c rest).map fun (digits, tail) => (d :: digits, tail)
      | none => if before = '_' then none else some ([], c :: rest)

/-- Reads a written integer. -/
def readInteger (text : String) : WrittenInteger :=
  let (negative, written) := takeSign (text.toList.dropWhile isBlank)
  match spanGroups? ' ' written with
  | none => .malformed
  | some (digits, rest) =>
    if digits.isEmpty then .malformed
    else if digits.length > maxDigits then .long digits.length
    else if rest.all isBlank then
      .value (if negative then -(ofDigits digits : Int) else ofDigits digits)
    else .malformed

/-- The written integer that a text is. -/
def readInteger? (text : String) : Option Int :=
  match readInteger text with
  | .value n => some n
  | _ => none

/-- Reads the exponent of a decimal, zero if there is none; nothing may follow it. -/
def readExponent? : List Char → Option Int
  | [] => some 0
  | c :: rest =>
    if c = 'e' ∨ c = 'E' then
      let (negative, digits) := takeSign rest
      let (ds, tail) := spanDigits asciiDigit? digits
      if ds.isEmpty ∨ ¬ tail.isEmpty then none
      else some (if negative then -(ofDigits ds : Int) else ofDigits ds)
    else none

/-- Reads an unsigned decimal or one of the words for infinity and for no number. -/
def readMagnitude? (negative : Bool) (text : List Char) : Option Float :=
  let word := String.ofList (text.map Char.toLower)
  if word = "inf" ∨ word = "infinity" then some (nearest negative (twoPow 1024) 1)
  else if word = "nan" then some (0.0 / 0.0)
  else
    let (whole, rest) := spanDigits asciiDigit? text
    let (fraction, rest) :=
      match rest with
      | '.' :: tail => spanDigits asciiDigit? tail
      | _ => ([], rest)
    if whole.isEmpty ∧ fraction.isEmpty then none
    else
      (readExponent? rest).map fun exponent =>
        ofDecimal negative (ofDigits (whole ++ fraction)) (exponent - fraction.length)

/-- Reads a written decimal. -/
def readDecimal? (text : String) : Option Float := do
  let (negative, magnitude) := takeSign (← normalizeLiteral? text)
  readMagnitude? negative magnitude

end LevelPrep.Number
