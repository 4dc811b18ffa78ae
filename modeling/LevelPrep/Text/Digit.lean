/-!
# Digits

The characters of Unicode 14 that stand for a decimal digit come in runs of ten, from zero to nine.
Beside them there are characters that are a number below ten each but do not make up larger numbers,
such as raised and circled digits.
-/

namespace LevelPrep.Text

/-- The code points of all digits zero, by increasing code point. -/
def digitZeros : List Nat := [
  0x30, 0x660, 0x6F0, 0x7C0, 0x966, 0x9E6, 0xA66, 0xAE6, 0xB66, 0xBE6, 0xC66, 0xCE6, 0xD66,
  0xDE6, 0xE50, 0xED0, 0xF20, 0x1040, 0x1090, 0x17E0, 0x1810, 0x1946, 0x19D0, 0x1A80, 0x1A90,
  0x1B50, 0x1BB0, 0x1C40, 0x1C50, 0xA620, 0xA8D0, 0xA900, 0xA9D0, 0xA9F0, 0xAA50, 0xABF0, 0xFF10,
  0x104A0, 0x10D30, 0x11066, 0x110F0, 0x11136, 0x111D0, 0x112F0, 0x11450, 0x114D0, 0x11650,
  0x116C0, 0x11730, 0x118E0, 0x11950, 0x11C50, 0x11D50, 0x11DA0, 0x16A60, 0x16AC0, 0x16B50,
  0x1D7CE, 0x1D7D8, 0x1D7E2, 0x1D7EC, 0x1D7F6, 0x1E140, 0x1E2F0, 0x1E950, 0x1FBF0]

/-- The digit that a character stands for. -/
def digit? (c : Char) : Option Nat :=
  (digitZeros.find? fun first => first ≤ c.toNat ∧ c.toNat < first + 10).map (c.toNat - ·)

/-- The digits that stand alone: the first and the last code point of a run, and the value of the first. -/
def loneDigitRuns : List (Nat × Nat × Nat) := [
  (0xB2, 0xB3, 2), (0xB9, 0xB9, 1), (0x1369, 0x1371, 1), (0x19DA, 0x19DA, 1), (0x2070, 0x2070, 0),
  (0x2074, 0x2079, 4), (0x2080, 0x2089, 0), (0x2460, 0x2468, 1), (0x2474, 0x247C, 1),
  (0x2488, 0x2490, 1), (0x24EA, 0x24EA, 0), (0x24F5, 0x24FD, 1), (0x24FF, 0x24FF, 0),
  (0x2776, 0x277E, 1), (0x2780, 0x2788, 1), (0x278A, 0x2792, 1), (0x10A40, 0x10A43, 1),
  (0x10E60, 0x10E68, 1), (0x11052, 0x1105A, 1), (0x1F100, 0x1F100, 0), (0x1F101, 0x1F10A, 0)]

/-- The number below ten that a character stands for that makes up no larger ones. -/
def loneDigit? (c : Char) : Option Nat :=
  (loneDigitRuns.find? fun run => run.1 ≤ c.toNat ∧ c.toNat ≤ run.2.1).map fun run =>
    run.2.2 + (c.toNat - run.1)

/-- The digit that a character of `0` to `9` stands for. -/
def asciiDigit? (c : Char) : Option Nat :=
  if c.isDigit then some (c.toNat - '0'.toNat) else none

/-- The number that a run of digits denotes, most significant digit first. -/
def ofDigits (digits : List Nat) : Nat :=
  digits.foldl (fun n d => 10 * n + d) 0

/-- The longest run of digits at the front, and what follows it. -/
def spanDigits (read : Char → Option Nat) : List Char → List Nat × List Char
  | [] => ([], [])
  | c :: rest =>
    match read c with
    | some d => let (digits, tail) := spanDigits read rest; (d :: digits, tail)
    | none => ([], c :: rest)

end LevelPrep.Text
