/-!
# Flaws of encoded text

Bytes that are no UTF-8 are reported by their first flaw: a byte that begins no character, a character
that is broken off by a byte that does not belong to it, or one that the end of the text cuts short.
-/

namespace LevelPrep.Text.Utf8

/-- Bytes that make no character. -/
structure Flaw where
  bytes : List Nat
  /-- How many bytes stand in front of them. -/
  place : Nat
  reason : String
deriving DecidableEq, Repr

/-- How many bytes follow the first byte of a character; none if the byte begins no character. -/
def followers? (first : Nat) : Option Nat :=
  if first < 0x80 then some 0
  else if first < 0xC2 then none
  else if first < 0xE0 then some 1
  else if first < 0xF0 then some 2
  else if first < 0xF5 then some 3
  else none

/-- Whether a byte may stand behind the bytes that a character has begun with.  Right behind the first
byte the ranges of overlong forms, of halves of pairs, and of what lies beyond the last character are
left out. -/
def mayFollow (begun : List Nat) (byte : Nat) : Bool :=
  let low := if begun = [0xE0] then 0xA0 else if begun = [0xF0] then 0x90 else 0x80
  let high := if begun = [0xED] then 0x9F else if begun = [0xF4] then 0x8F else 0xBF
  low ≤ byte && byte ≤ high

/-- The first flaw of the bytes that are left; the character that `begun` begins, if any, is at `place`
and misses `missing` bytes. -/
def flawFrom (place : Nat) (begun : List Nat) (missing : Nat) : List Nat → Option Flaw
  | [] => if begun.isEmpty then none else some ⟨begun, place, "unexpected end of data"⟩
  | byte :: rest =>
    if begun.isEmpty then
      match followers? byte with
      | none => some ⟨[byte], place, "invalid start byte"⟩
      | some 0 => flawFrom (place + 1) [] 0 rest
      | some count => flawFrom place [byte] count rest
    else if mayFollow begun byte then
      if missing ≤ 1 then flawFrom (place + begun.length + 1) [] 0 rest
      else flawFrom place (begun ++ [byte]) (missing - 1) rest
    else some ⟨begun, place, "invalid continuation byte"⟩

/-- The first flaw of a text. -/
def flaw? (bytes : List Nat) : Option Flaw :=
  flawFrom 0 [] 0 bytes

end LevelPrep.Text.Utf8
