import LevelPrep.Fault
import LevelPrep.Number.Literal

/-!
# Reading JSON

A document is one value with blanks around it.  Beside the values of the standard the words `NaN`,
`Infinity` and `-Infinity` are numbers; a number without point and exponent is an integer; of a
repeated key the last value counts.  A failure names what was expected and what was left to read, from
which its place is computed.  Lists and objects may be nested `maxNesting` deep.
-/

namespace LevelPrep.Json.Reader

open LevelPrep.Text LevelPrep.Number

/-- Why reading stopped. -/
inductive Failure where
  /-- The text that is left does not go on as it has to. -/
  | unexpected (reason : String) (left : List Char)
  /-- An integer has too many digits. -/
  | longInteger (digits : Nat)
  /-- Lists or objects, as `shown` says, are nested too deep. -/
  | deepNesting (shown : String)

/-- How many lists and objects may be open at a time. -/
def maxNesting : Nat := 985

/-! A reader takes a value from the front of a text and leaves the rest. -/

/-- Drops the blanks of the format. -/
def skipBlanks (text : List Char) : List Char :=
  text.dropWhile fun c => c == ' ' || c == '\t' || c == '\n' || c == '\r'

/-- The value of a hexadecimal digit. -/
def hexDigit? (c : Char) : Option Nat :=
  if c.isDigit then some (c.toNat - '0'.toNat)
  else if 'a' ≤ c ∧ c ≤ 'f' then some (c.toNat - 'a'.toNat + 10)
  else if 'A' ≤ c ∧ c ≤ 'F' then some (c.toNat - 'A'.toNat + 10)
  else none

/-- A UTF-16 unit written as four hexadecimal digits. -/
def unit? (digits : List Char) : Option Nat :=
  (digits.mapM hexDigit?).map fun ds => ds.foldl (fun n d => 16 * n + d) 0

/-- Whether a UTF-16 unit is the first half of a character. -/
def isHigh (unit : Nat) : Bool :=
  0xD800 ≤ unit && unit < 0xDC00

/-- Whether a UTF-16 unit is the second half of a character. -/
def isLow (unit : Nat) : Bool :=
  0xDC00 ≤ unit && unit < 0xE000

/-- Puts the sign for an unknown character in front if a first half was left alone. -/
def settle (half : Option Nat) (read : List Char) : List Char :=
  if half.isSome then Char.ofNat 0xFFFD :: read else read

/-- Adds a unit to what was read, backwards: two halves make one character, and a lone half has no
character of its own. -/
def addUnit (half : Option Nat) (read : List Char) (unit : Nat) : Option Nat × List Char :=
  match half with
  | some high =>
    if isLow unit then
      (none, Char.ofNat (0x10000 + (high - 0xD800) * 0x400 + (unit - 0xDC00)) :: read)
    else if isHigh unit then (some unit, settle half read)
    else (none, Char.ofNat unit :: settle half read)
  | none =>
    if isHigh unit then (some unit, read)
    else (none, (if isLow unit then Char.ofNat 0xFFFD else Char.ofNat unit) :: read)

/-- The character that a one-letter escape stands for. -/
def escaped? : Char → Option Char
  | '"' => some '"'
  | '\\' => some '\\'
  | '/' => some '/'
  | 'b' => some (Char.ofNat 8)
  | 'f' => some (Char.ofNat 12)
  | 'n' => some '\n'
  | 'r' => some '\r'
  | 't' => some '\t'
  | _ => none

/-- Reads a text behind its opening quote.  An escaped unit cannot end the document.  `opening` is
the text from that quote on, `read` what was read so far, backwards, and `half` a first half that
waits for its second one. -/
def textBody (opening : List Char) : (half : Option Nat) → (read : List Char) → List Char →
    Except Failure (String × List Char)
  | _, _, [] => .error (.unexpected "Unterminated string starting at" opening)
  | half, read, '"' :: rest => .ok (String.ofList (settle half read).reverse, rest)
  | half, read, '\\' :: 'u' :: a :: b :: c :: d :: rest =>
    match unit? [a, b, c, d], rest with
    | some unit, _ :: _ => let (half, read) := addUnit half read unit; textBody opening half read rest
    | _, _ => .error (.unexpected "Invalid \\uXXXX escape" ('u' :: a :: b :: c :: d :: rest))
  | half, read, '\\' :: e :: rest =>
    match escaped? e with
    | some char => textBody opening none (char :: settle half read) rest
    | none =>
      if e = 'u' then .error (.unexpected "Invalid \\uXXXX escape" (e :: rest))
      else .error (.unexpected "Invalid \\escape" ('\\' :: e :: rest))
  | half, read, c :: rest =>
    if c = '\\' then .error (.unexpected "Unterminated string starting at" opening)
    else if c.toNat < 0x20 then .error (.unexpected "Invalid control character at" (c :: rest))
    else textBody opening none (c :: settle half read) rest

/-- The digits after the point of a number, if there is a point with digits. -/
def fraction? : List Char → Option (List Nat × List Char)
  | '.' :: rest =>
    match spanDigits asciiDigit? rest with
    | ([], _) => none
    | (digits, tail) => some (digits, tail)
  | _ => none

/-- The exponent of a number, if there is one with digits. -/
def exponent? : List Char → Option (Int × List Char)
  | [] => none
  | c :: rest =>
    if c = 'e' ∨ c = 'E' then
      let (negative, digits) := takeSign rest
      match spanDigits asciiDigit? digits with
      | ([], _) => none
      | (digits, tail) =>
        some (if negative then -(ofDigits digits : Int) else ofDigits digits, tail)
    else none

/-- Reads a number without its sign; `start` is the text from the sign on. -/
def number (start : List Char) (negative : Bool) (text : List Char) : Except Failure (Json × List Char) :=
  let (whole, rest) :=
    match text with
    | '0' :: rest => ([0], rest)
    | _ => spanDigits asciiDigit? text
  if whole.isEmpty then .error (.unexpected "Expecting value" start)
  else
    match fraction? rest with
    | some (fraction, tail) =>
      let (power, tail) := (exponent? tail).getD (0, tail)
      .ok (.float (ofDecimal negative (ofDigits (whole ++ fraction)) (power - fraction.length)),
        tail)
    | none =>
      match exponent? rest with
      | some (power, tail) => .ok (.float (ofDecimal negative (ofDigits whole) power), tail)
      | none =>
        if whole.length > maxDigits then .error (.longInteger whole.length)
        else .ok (.int (if negative then -(ofDigits whole : Int) else ofDigits whole), rest)

/-- The words that are values. -/
def words : List (List Char × Json) := [
  ("null".toList, .null), ("true".toList, .bool true), ("false".toList, .bool false),
  ("NaN".toList, .float (0.0 / 0.0)), ("Infinity".toList, .float (1.0 / 0.0)),
  ("-Infinity".toList, .float (-1.0 / 0.0))]

/-- Reads a word or a number. -/
def scalar (text : List Char) : Except Failure (Json × List Char) :=
  match words.find? fun word => word.1.isPrefixOf text with
  | some (word, value) => .ok (value, text.drop word.length)
  | none =>
    match text with
    | '-' :: rest => number text true rest
    | _ => number text false text

mutual

/-- Reads a value; every step of the fuel goes with at least one character read.  `room` is how many
lists and objects may still be opened. -/
def value : (fuel room : Nat) → List Char → Except Failure (Json × List Char)
  | 0, _, text => .error (.unexpected "Expecting value" text)
  | fuel + 1, room, text =>
    match text with
    | '"' :: rest => do
      let (s, rest) ← textBody text none [] rest
      return (.str s, rest)
    | '[' :: rest =>
      if room = 0 then .error (.deepNesting "array")
      else
        match skipBlanks rest with
        | ']' :: tail => .ok (.arr [], tail)
        | rest => items fuel (room - 1) [] rest
    | '\x7b' :: rest =>
      if room = 0 then .error (.deepNesting "object")
      else
        match skipBlanks rest with
        | '\x7d' :: tail => .ok (.obj [], tail)
        | rest => fields fuel (room - 1) [] rest
    | _ => scalar text

/-- Reads the items of a list up to its end; `read` holds the items so far, backwards. -/
def items : (fuel room : Nat) → (read : List Json) → List Char → Except Failure (Json × List Char)
  | 0, _, _, text => .error (.unexpected "Expecting value" text)
  | fuel + 1, room, read, text => do
    let (item, rest) ← value fuel room text
    match skipBlanks rest with
    | ',' :: tail => items fuel room (item :: read) (skipBlanks tail)
    | ']' :: tail => return (.arr (item :: read).reverse, tail)
    | rest => .error (.unexpected "Expecting ',' delimiter" rest)

/-- Reads the fields of an object up to its end. -/
def fields : (fuel room : Nat) → (read : List (String × Json)) → List Char →
    Except Failure (Json × List Char)
  | 0, _, _, text => .error (.unexpected "Expecting value" text)
  | fuel + 1, room, read, text =>
    match text with
    | '"' :: rest => do
      let (key, rest) ← textBody text none [] rest
      match skipBlanks rest with
      | ':' :: tail => do
        let (item, rest) ← value fuel room (skipBlanks tail)
        match skipBlanks rest with
        | ',' :: tail => fields fuel room (setField key item read) (skipBlanks tail)
        | '\x7d' :: tail => return (.obj (setField key item read), tail)
        | rest => .error (.unexpected "Expecting ',' delimiter" rest)
      | rest => .error (.unexpected "Expecting ':' delimiter" rest)
    | _ =>
      .error (.unexpected "Expecting property name enclosed in double quotes" text)

end

/-- The fault that a failure is reported as: lines and columns count from one. -/
def Failure.fault (text : List Char) : Failure → Fault
  | .longInteger digits => .longInteger digits
  | .deepNesting shown => .deepDocument shown
  | .unexpected reason left =>
    let read := text.take (text.length - left.length)
    .notJson reason (read.count '\n' + 1) ((read.reverse.takeWhile (· != '\n')).length + 1)
      read.length

/-- Reads a document: one value and nothing else. -/
def document (text : List Char) : Except Failure Json := do
  if text.head? = some (Char.ofNat 0xFEFF) then
    throw (.unexpected "Unexpected UTF-8 BOM (decode using utf-8-sig)" text)
  let start := skipBlanks text
  let (item, rest) ← value (2 * text.length + 2) maxNesting start
  match skipBlanks rest with
  | [] => return item
  | rest => throw (.unexpected "Extra data" rest)

end Reader

/-- Reads a JSON document. -/
def read (text : String) : Except Fault Json :=
  (Reader.document text.toList).mapError (Reader.Failure.fault text.toList)

end LevelPrep.Json
