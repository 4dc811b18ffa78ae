import LevelPrep.Number.Shortest
import LevelPrep.Text.Quoted

/-!
# JSON values

Scene documents and settings are JSON values.  Integers and floating-point numbers are kept apart, and
the fields of an object keep the order in which they were first given; no key occurs twice in a value
that was read.

`Json.display` is the text of a value in messages: a text stands for itself, and inside lists and
objects it is quoted.
-/

namespace LevelPrep

inductive Json where
  | null
  | bool (b : Bool)
  | int (n : Int)
  | float (x : Float)
  | str (s : String)
  | arr (items : List Json)
  | obj (fields : List (String × Json))
deriving Inhabited

namespace Json

/-- The integer that a value counts as; truth values count as zero and one. -/
def wholeNumber? : Json → Option Int
  | .bool b => some (if b then 1 else 0)
  | .int n => some n
  | .float x => Number.whole? x
  | _ => none

mutual

/-- Whether two values are equal.  Numbers and truth values are compared as numbers, whatever their
kinds; a number that is no number equals nothing; the order of the fields of an object does not
matter. -/
def beq : Json → Json → Bool
  | .null, .null => true
  | .str s, .str t => s == t
  | .arr xs, .arr ys => beqItems xs ys
  | .obj xs, .obj ys => xs.length == ys.length && beqFields xs ys
  | .float x, .float y => x == y
  | a, b =>
    match a.wholeNumber?, b.wholeNumber? with
    | some m, some n => m == n
    | _, _ => false

/-- Whether the items of two lists are equal. -/
def beqItems : List Json → List Json → Bool
  | [], [] => true
  | x :: xs, y :: ys => beq x y && beqItems xs ys
  | _, _ => false

/-- Whether the fields are among other fields, with equal values. -/
def beqFields : List (String × Json) → List (String × Json) → Bool
  | [], _ => true
  | (key, x) :: xs, ys =>
    match ys.lookup key with
    | some y => beq x y && beqFields xs ys
    | none => false

end

instance : BEq Json := ⟨beq⟩

@[simp] theorem str_beq_str (s t : String) : (Json.str s == Json.str t) = (s == t) := by
  simp [BEq.beq, beq]

/-- Only a text is equal to a text. -/
theorem beq_str_iff (value : Json) (s : String) : (value == .str s) = true ↔ value = .str s := by
  cases value <;> simp [BEq.beq, beq, wholeNumber?]

theorem str_beq_iff (value : Json) (s : String) : (Json.str s == value) = true ↔ value = .str s := by
  cases value <;> simp [BEq.beq, beq, wholeNumber?, eq_comm]

/-- The word for the kind of a value in messages. -/
def kindWord : Json → String
  | .null => "NoneType"
  | .bool _ => "bool"
  | .int _ => "int"
  | .float _ => "float"
  | .str _ => "str"
  | .arr _ => "list"
  | .obj _ => "dict"

/-- The value of a field, if the value is an object that has the field. -/
def get? (key : String) : Json → Option Json
  | .obj fields => fields.lookup key
  | _ => none

/-- Gives the field a value: in its place if the field is there, at the end otherwise. -/
def setField {α : Type} (key : String) (value : α) : List (String × α) → List (String × α)
  | [] => [(key, value)]
  | (k, v) :: rest => if k = key then (k, value) :: rest else (k, v) :: setField key value rest

/-- Gives a key a value in a table whose keys may be any values: in its place if an equal key is there,
which stays, and at the end otherwise. -/
def setEntry {α : Type} (key : Json) (value : α) : List (Json × α) → List (Json × α)
  | [] => [(key, value)]
  | (k, v) :: rest => if k == key then (k, value) :: rest else (k, v) :: setEntry key value rest

@[simp] theorem lookup_setEntry_str_self {α : Type} (s : String) (value : α)
    (entries : List (Json × α)) : (setEntry (.str s) value entries).lookup (.str s) = some value := by
  induction entries with
  | nil => simp [setEntry, List.lookup_cons]
  | cons entry rest ih =>
    obtain ⟨k, v⟩ := entry
    by_cases h : (k == Json.str s) = true
    · rw [(beq_str_iff k s).1 h]
      simp [setEntry, List.lookup_cons]
    · have hn : (Json.str s == k) = false :=
        Bool.eq_false_iff.2 fun hk => h ((beq_str_iff k s).2 ((str_beq_iff k s).1 hk))
      simp [setEntry, h, List.lookup_cons, hn, ih]

/-- Giving another key a value does not change what a text is looked up as. -/
theorem lookup_setEntry_of_ne_str {α : Type} {key : Json} {word : String} (h : key ≠ .str word) (value : α)
    (entries : List (Json × α)) : (setEntry key value entries).lookup (.str word) = entries.lookup (.str word) := by
  have hkey : (Json.str word == key) = false := Bool.eq_false_iff.2 fun heq => h ((str_beq_iff key word).1 heq)
  induction entries with
  | nil => simp [setEntry, List.lookup_cons, hkey]
  | cons entry rest ih =>
      obtain ⟨k, v⟩ := entry
      by_cases hk : (k == key) = true
      · -- the key that stays is not the text either, or the given key would be the text
        have hother : (Json.str word == k) = false := by
          refine Bool.eq_false_iff.2 fun heq => h ?_
          rw [(str_beq_iff k word).1 heq] at hk
          exact (str_beq_iff key word).1 hk
        simp [setEntry, hk, List.lookup_cons, hother]
      · simp [setEntry, hk, List.lookup_cons, ih]

/-- Text pieces with a comma and a space between them. -/
def commaList (pieces : List String) : String :=
  ", ".intercalate pieces

mutual

/-- The text of a value inside a list or an object. -/
def quoted : Json → String
  | .null => "None"
  | .bool b => if b then "True" else "False"
  | .int n => toString n
  | .float x => Number.floatText x
  | .str s => Text.quoted s
  | .arr items => "[" ++ commaList (quotedItems items) ++ "]"
  | .obj fields => "\x7b" ++ commaList (quotedFields fields) ++ "\x7d"

/-- The texts of the items of a list. -/
def quotedItems : List Json → List String
  | [] => []
  | item :: rest => quoted item :: quotedItems rest

/-- The texts of the fields of an object. -/
def quotedFields : List (String × Json) → List String
  | [] => []
  | (key, value) :: rest => (Text.quoted key ++ ": " ++ quoted value) :: quotedFields rest

end

/-- The text of a value in a message. -/
def display : Json → String
  | .str s => s
  | value => quoted value

/-- The text of a list of words in a message. -/
def displayWords (words : List String) : String :=
  "[" ++ commaList (words.map Text.quoted) ++ "]"

end Json

end LevelPrep
