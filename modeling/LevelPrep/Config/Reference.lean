import LevelPrep.Text.Words

/-!
# References in texts

A text of a configuration may refer to other values: `${a.b}` stands for the value at a place, and
`${name:arguments}` for a value from a source.  A place is given by keys between points or in brackets;
points in front of it make it relative.  Arguments are bare or quoted words, lists and objects.  A
backslash in front of a reference makes it plain text, and a backslash before that makes the backslash
plain text.

`textPieces` takes a text apart; the other functions each take one thing from the front of a text and
leave the rest.  Their fuel goes down with every step, of which there are at most a few per character.
-/

namespace LevelPrep.Config

open Text

mutual

/-- A piece of a text. -/
inductive Piece where
  | plain (chars : List Char)
  | reference (r : Reference)

/-- What a text refers to. -/
inductive Reference where
  /-- A place, relative if there are points in front of it. -/
  | place (points : Nat) (keys : List Piece)
  | source (name : List Piece) (arguments : List Argument)

/-- An argument for a source. -/
inductive Argument where
  | bare (pieces : List Piece)
  | quoted (pieces : List Piece)
  | list (items : List Argument)
  | object (fields : List (List Piece × Argument))

end

/-- Puts characters in front of pieces. -/
def addPlain (chars : List Char) : List Piece → List Piece
  | .plain more :: rest => .plain (chars ++ more) :: rest
  | pieces => if chars.isEmpty then pieces else .plain chars :: pieces

/-- Whether a character is one of the blanks of references. -/
def isSpace (c : Char) : Bool :=
  c == ' ' || c == '\t'

/-- A text without the blanks in front. -/
def skipSpaces (text : List Char) : List Char :=
  text.dropWhile isSpace

/-- Whether a character may stand in a key. -/
def isKeyChar (c : Char) : Bool :=
  !("\\\x7b\x7d()[]:. \t'\"".toList.contains c)

/-- Whether a key may be a part of the name of a source. -/
def isSourceName : Piece → Bool
  | .reference _ => true
  | .plain chars =>
    let isLetter (c : Char) : Bool := c.isAlpha || c == '_'
    chars.head?.any isLetter && chars.all fun c => isLetter c || c.isDigit

/-- Whether a character may stand in a bare word without more ado. -/
def isBareChar (c : Char) : Bool :=
  c.isAlphanum || "_/-\\+.$%*@?|:".toList.contains c

/-- Whether a backslash makes a character part of a bare word. -/
def isEscapable (c : Char) : Bool :=
  "\\()[]\x7b\x7d:=, \t".toList.contains c

/-- Whether an argument, or the key of a field, ends here. -/
def endsBare (isKey : Bool) : List Char → Bool
  | [] => true
  | c :: _ => c == ',' || c == ']' || c == '\x7d' || (isKey && c == ':')

mutual

/-- Takes a text apart, up to the quote that closes it or else to its end. -/
def textPieces : (fuel : Nat) → (quote : Option Char) → List Char → Option (List Piece × List Char)
  | 0, _, _ => none
  | fuel + 1, quote, text =>
    let slashes := (text.takeWhile (· == '\\')).length
    let kept := List.replicate (slashes / 2) '\\'
    match text.drop slashes with
    | '$' :: '\x7b' :: tail =>
      if slashes % 2 = 1 then do
        let (pieces, rest) ← textPieces fuel quote tail
        return (addPlain (kept ++ ['$', '\x7b']) pieces, rest)
      else do
        let (r, rest) ← reference fuel (skipSpaces tail)
        let (pieces, rest) ← textPieces fuel quote rest
        return (addPlain kept (.reference r :: pieces), rest)
    | c :: tail =>
      if quote = some c ∧ slashes % 2 = 0 then some (addPlain kept [], tail)
      else do
        let (pieces, rest) ← textPieces fuel quote tail
        let front := if quote = some c then kept ++ [c] else text.take (slashes + 1)
        return (addPlain front pieces, rest)
    | [] => if quote.isNone then some (addPlain text [], []) else none

/-- Reads a reference behind its opening. -/
def reference : (fuel : Nat) → List Char → Option (Reference × List Char)
  | 0, _ => none
  | fuel + 1, text => do
    let points := (text.takeWhile (· == '.')).length
    let (first, rest) ← bracketed fuel (text.drop points)
    let (others, rest) ← moreKeys fuel rest
    match skipSpaces rest with
    | '\x7d' :: tail => return (.place points ((first :: others).map (·.1)), tail)
    | ':' :: tail =>
      if points = 0 ∧ (first :: others).all fun key => !key.2 && isSourceName key.1 then
        let (given, tail) ← arguments fuel '\x7d' (skipSpaces tail)
        return (.source ((first :: others).map (·.1)) given, tail)
      else none
    | _ => none

/-- Reads a key, and tells whether it stands in brackets. -/
def bracketed : (fuel : Nat) → List Char → Option ((Piece × Bool) × List Char)
  | 0, _ => none
  | fuel + 1, '[' :: text => do
    let (k, rest) ← key fuel text
    match rest with
    | ']' :: tail => return ((k, true), tail)
    | _ => none
  | fuel + 1, text => do
    let (k, rest) ← key fuel text
    return ((k, false), rest)

/-- Reads a key without brackets. -/
def key : (fuel : Nat) → List Char → Option (Piece × List Char)
  | 0, _ => none
  | fuel + 1, '$' :: '\x7b' :: text => do
    let (r, rest) ← reference fuel (skipSpaces text)
    return (.reference r, rest)
  | _ + 1, text =>
    let chars := text.takeWhile isKeyChar
    if chars.isEmpty then none else some (.plain chars, text.drop chars.length)

/-- Reads the keys behind the first one. -/
def moreKeys : (fuel : Nat) → List Char → Option (List (Piece × Bool) × List Char)
  | 0, _ => none
  | fuel + 1, '.' :: text => do
    let (k, rest) ← key fuel text
    let (others, rest) ← moreKeys fuel rest
    return ((k, false) :: others, rest)
  | fuel + 1, '[' :: text => do
    let (k, rest) ← bracketed fuel ('[' :: text)
    let (others, rest) ← moreKeys fuel rest
    return (k :: others, rest)
  | _ + 1, text => some ([], text)

/-- Reads arguments up to the closing character; there may be none at all. -/
def arguments : (fuel : Nat) → (closing : Char) → List Char → Option (List Argument × List Char)
  | 0, _, _ => none
  | fuel + 1, closing, text =>
    if text.head? = some closing then some ([], text.drop 1) else someArguments fuel closing text

/-- Reads one or more arguments; an argument may be left empty. -/
def someArguments : (fuel : Nat) → (closing : Char) → List Char →
    Option (List Argument × List Char)
  | 0, _, _ => none
  | fuel + 1, closing, text => do
    let (item, rest) ←
      if text.head? = some closing ∨ text.head? = some ',' then some (.quoted [], text)
      else argument fuel text
    match skipSpaces rest with
    | c :: tail =>
      if c = closing then return ([item], tail)
      else if c = ',' then
        let (others, rest) ← someArguments fuel closing (skipSpaces tail)
        return (item :: others, rest)
      else none
    | [] => none

/-- Reads an argument. -/
def argument : (fuel : Nat) → List Char → Option (Argument × List Char)
  | 0, _ => none
  | fuel + 1, '[' :: text => do
    let (items, rest) ← arguments fuel ']' (skipSpaces text)
    return (.list items, rest)
  | fuel + 1, '\x7b' :: text => do
    let (fields, rest) ← objectFields fuel (skipSpaces text)
    return (.object fields, rest)
  | fuel + 1, c :: text =>
    if c = '"' ∨ c = '\'' then do
      let (pieces, rest) ← textPieces fuel (some c) text
      return (.quoted pieces, rest)
    else do
      let (pieces, rest) ← bareWord fuel false (c :: text)
      if pieces.isEmpty then none else return (.bare pieces, rest)
  | _ + 1, [] => none

/-- Reads the fields of an object up to its end. -/
def objectFields : (fuel : Nat) → List Char → Option (List (List Piece × Argument) × List Char)
  | 0, _ => none
  | _ + 1, '\x7d' :: text => some ([], text)
  | fuel + 1, text => do
    let (k, rest) ← bareWord fuel true text
    if k.isEmpty then none
    else
      match skipSpaces rest with
      | ':' :: tail =>
        let (item, rest) ← argument fuel (skipSpaces tail)
        match skipSpaces rest with
        | ',' :: tail =>
          let tail := skipSpaces tail
          if tail.head? = some '\x7d' then none
          else
            let (others, rest) ← objectFields fuel tail
            return ((k, item) :: others, rest)
        | '\x7d' :: tail => return ([(k, item)], tail)
        | _ => none
      | _ => none

/-- Reads a bare word; the blanks behind it do not belong to it. -/
def bareWord : (fuel : Nat) → (isKey : Bool) → List Char → Option (List Piece × List Char)
  | 0, _, _ => none
  | fuel + 1, isKey, text =>
    if endsBare isKey (skipSpaces text) then some ([], text)
    else
      match text with
      | '$' :: '\x7b' :: tail =>
        if isKey then none
        else do
          let (r, rest) ← reference fuel (skipSpaces tail)
          let (pieces, rest) ← bareWord fuel isKey rest
          return (.reference r :: pieces, rest)
      | c :: tail =>
        let escapes := c == '\\' && tail.head?.any isEscapable
        if escapes then do
          let (pieces, rest) ← bareWord fuel isKey (tail.drop 1)
          return (addPlain (tail.take 1) pieces, rest)
        else if isBareChar c || isSpace c then do
          let (pieces, rest) ← bareWord fuel isKey tail
          return (addPlain [c] pieces, rest)
        else none
      | [] => none

end

/-- What opens a reference. -/
def opening : String :=
  "$\x7b"

/-- Whether a text has anything in it that looks like a reference. -/
def mayRefer (text : String) : Bool :=
  Text.contains opening text

/-- The fuel for a text. -/
def fuelFor (text : List Char) : Nat :=
  4 * text.length + 4

/-- The pieces of a text, if its references can be read. -/
def pieces? (text : String) : Option (List Piece) :=
  (textPieces (fuelFor text.toList) none text.toList).map (·.1)

/-- A text that is one argument and nothing else. -/
def argument? (text : String) : Option Argument :=
  let chars := skipSpaces text.toList
  match argument (fuelFor chars) chars with
  | some (item, rest) => if (skipSpaces rest).isEmpty then some item else none
  | none => none

end LevelPrep.Config
