/-!
# Blanks

Two notions of blanks are in use: those around a written number, and those between the words of a text.

## Blanks around a number

A written number may have blanks on both sides: the space, the five control characters of layout, and
the space and line separators of Unicode beyond ASCII.  The four information separators (28 to 31) are
no blanks.
-/

namespace LevelPrep.Text

/-- Whether the character may stand before or after a written number. -/
def isBlank (c : Char) : Bool :=
  let n := c.toNat
  (9 ≤ n && n ≤ 13) || n == 0x20 || n == 0x85 || n == 0xA0 || n == 0x1680 ||
    (0x2000 ≤ n && n ≤ 0x200A) || n == 0x2028 || n == 0x2029 || n == 0x202F || n == 0x205F ||
    n == 0x3000

/-- The text without the characters at its ends that `drops` takes away. -/
def trim (drops : Char → Bool) (text : List Char) : List Char :=
  ((text.dropWhile drops).reverse.dropWhile drops).reverse

/-- The text without the blanks at its ends. -/
def trimBlanks (text : List Char) : List Char :=
  trim isBlank text

/-! ## Blanks between words -/

/-- Whether the character parts words: all blanks do, and so do the information separators. -/
def isSpace (c : Char) : Bool :=
  isBlank c || (28 ≤ c.toNat && c.toNat ≤ 31)

/-- The text without the spaces at its ends. -/
def trimSpaces (text : List Char) : List Char :=
  trim isSpace text

end LevelPrep.Text
