import LevelPrep.Text.Blank
import LevelPrep.Text.Search

/-!
# Words and lines

Text formats are cut into lines at line feeds, or at all characters that end lines, and lines into
words at spaces.
-/

namespace LevelPrep.Text

/-- The words between the spaces of a text. -/
def words (text : List Char) : List (List Char) :=
  (splitAt ' ' (text.map fun c => if isSpace c then ' ' else c)).filter (!·.isEmpty)

/-- The lines of a text in which only line feeds end lines. -/
def lines (text : List Char) : List (List Char) :=
  splitAt '\n' text

/-- Whether the character ends a line, where any character may that stands for a new line. -/
def endsLine (c : Char) : Bool :=
  let n := c.toNat
  (10 ≤ n && n ≤ 13) || (28 ≤ n && n ≤ 30) || n == 0x85 || n == 0x2028 || n == 0x2029

/-- The lines of a text, ended by any character that ends lines. -/
def anyLines (text : List Char) : List (List Char) :=
  lines (text.map fun c => if endsLine c then '\n' else c)

/-- Cuts a text in front of every occurrence of a word.  The first piece is what stands in front of all
of them. -/
def cutBefore (word : List Char) : List Char → List (List Char)
  | [] => [[]]
  | c :: rest =>
    match cutBefore word rest with
    | [] => [[c]]
    | piece :: pieces =>
      if word.isPrefixOf (c :: rest) then [] :: (c :: piece) :: pieces else (c :: piece) :: pieces

/-- The text up to the end of the last occurrence of a word, if there is one. -/
def throughLast? (word : List Char) (text : List Char) : Option (List Char) :=
  (afterFirst? word.reverse text.reverse).map fun before => before.reverse ++ word

end LevelPrep.Text
