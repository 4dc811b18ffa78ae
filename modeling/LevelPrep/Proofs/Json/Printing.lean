import LevelPrep.Disk.Basic
import LevelPrep.Json.Printer
import Mathlib.Data.List.Basic

/-!
# The lines of a written document

A written document has no carriage returns, as those inside texts are escaped (`return_notMem_print`).  Reading
it as lines that may end in any way does not change it (`unifyLines_print`).
-/

namespace LevelPrep

/-! ## Numbers -/

namespace Number

theorem return_notMem_toDigits (n : Nat) : '\r' ∉ Nat.toDigits 10 n := by
  intro h
  have hdigit := Nat.isDigit_of_mem_toDigits (by decide) (by decide) h
  exact absurd hdigit (by decide)

theorem return_notMem_toString (n : Int) : '\r' ∉ (toString n).toList := by
  have hnat : ∀ m : Nat, '\r' ∉ m.repr.toList := by
    intro m
    rw [Nat.repr, String.toList_ofList]
    exact return_notMem_toDigits m
  rw [Int.toString_eq_repr, Int.repr_eq_if]
  split_ifs
  · exact hnat _
  · simpa using hnat _

theorem return_notMem_writeDecimal (digits : Nat) (place : Int) :
    '\r' ∉ (writeDecimal digits place).toList := by
  have hchars := return_notMem_toDigits digits
  have htake : ∀ n, '\r' ∉ (Nat.toDigits 10 digits).take n := fun n h => hchars (List.mem_of_mem_take h)
  have hdrop : ∀ n, '\r' ∉ (Nat.toDigits 10 digits).drop n := fun n h => hchars (List.mem_of_mem_drop h)
  have htail : '\r' ∉ (Nat.toDigits 10 digits).tail := fun h => hchars (List.mem_of_mem_tail h)
  have hexponent := return_notMem_toDigits (place + (Nat.toDigits 10 digits).length - 1).natAbs
  unfold writeDecimal
  dsimp only
  split_ifs <;> simp [hchars, htake, hdrop, htail, hexponent]

theorem return_notMem_floatText (x : Float) : '\r' ∉ (floatText x).toList := by
  unfold floatText
  split
  · decide
  · split_ifs <;> decide
  · dsimp only
    split_ifs
    all_goals simp [return_notMem_writeDecimal]

end Number

/-! ## Values -/

namespace Json

theorem return_notMem_hexDigits (width n : Nat) : '\r' ∉ Text.hexDigits width n := by
  induction width generalizing n with
  | zero => exact List.not_mem_nil
  | succ width ih =>
      have hdigit : ∀ d, d < 16 → '\r' ≠ Nat.digitChar d := by decide
      have hlast := hdigit (n % 16) (Nat.mod_lt n (by decide))
      simp [Text.hexDigits, ih, hlast]

theorem return_notMem_escapeChar (c : Char) : '\r' ∉ escapeChar c := by
  have hunit : ∀ n, '\r' ∉ escapeUnit n := by
    intro n
    simp [escapeUnit, return_notMem_hexDigits]
  by_cases hc : c = '\r'
  · subst hc
    decide
  · have hother : '\r' ∉ [c] := by simpa [eq_comm] using hc
    unfold escapeChar
    repeat' split
    -- two characters each for what has a letter of its own, and the rest by their numbers
    iterate 6 decide
    · exact hother
    · exact hunit _
    · simp [hunit]

theorem return_notMem_printText (s : String) : '\r' ∉ (printText s).toList := by
  simp [printText, return_notMem_escapeChar]

theorem return_notMem_printFloat (x : Float) : '\r' ∉ (printFloat x).toList := by
  unfold printFloat
  split
  · decide
  · split_ifs <;> decide
  · exact Number.return_notMem_floatText x

theorem return_notMem_lineBreak (level : Nat) : '\r' ∉ (lineBreak level).toList := by
  have hblanks : ∀ n, '\r' ∉ ("".pushn ' ' n).toList := by
    intro n
    rw [String.pushn_eq_repeat_push]
    induction n with
    | zero => decide
    | succ n ih => simpa [Nat.repeat] using ih
  simpa [lineBreak] using hblanks _

/-- Nothing stands in texts put together but what stands in one of them or in what separates them. -/
theorem notMem_intercalate {c : Char} {separator : String} {texts : List String}
    (hseparator : c ∉ separator.toList) (htexts : ∀ text ∈ texts, c ∉ text.toList) :
    c ∉ (separator.intercalate texts).toList := by
  induction texts with
  | nil => simp
  | cons text rest ih =>
      have htext := htexts text List.mem_cons_self
      have hrest := ih fun other hother => htexts other (List.mem_cons_of_mem text hother)
      cases rest with
      | nil => simpa using htext
      | cons next rest =>
          rw [String.intercalate_cons_cons]
          simp only [String.toList_append, List.mem_append, not_or]
          exact ⟨⟨htext, hseparator⟩, hrest⟩

theorem return_notMem_printBlock (level : Nat) {opening closing : String} {members : List String}
    (hopening : '\r' ∉ opening.toList) (hclosing : '\r' ∉ closing.toList)
    (hmembers : ∀ member ∈ members, '\r' ∉ member.toList) :
    '\r' ∉ (printBlock level opening closing members).toList := by
  -- members stand between the brackets, with a comma and a new line between them
  have hcomma : '\r' ∉ ("," ++ lineBreak (level + 1)).toList := by
    simpa using return_notMem_lineBreak (level + 1)
  have hbetween := notMem_intercalate hcomma hmembers
  unfold printBlock
  split_ifs <;>
    simp only [String.toList_append, List.mem_append, not_or, hopening, hclosing, hbetween,
      return_notMem_lineBreak, not_false_eq_true, and_self]

mutual

theorem return_notMem_printAt : ∀ (value : Json) (level : Nat), '\r' ∉ (printAt level value).toList
  | .null, _ => by simp [printAt]
  | .bool b, _ => by cases b <;> simp [printAt]
  | .int n, _ => Number.return_notMem_toString n
  | .float x, _ => return_notMem_printFloat x
  | .str s, _ => return_notMem_printText s
  | .arr items, level =>
      return_notMem_printBlock level (by decide) (by decide) (return_notMem_printItems items (level + 1))
  | .obj fields, level =>
      return_notMem_printBlock level (by decide) (by decide) (return_notMem_printFields fields (level + 1))

theorem return_notMem_printItems : ∀ (items : List Json) (level : Nat),
    ∀ member ∈ printItems level items, '\r' ∉ member.toList
  | [], _ => by simp [printItems]
  | item :: rest, level => by
      have hitem := return_notMem_printAt item level
      have hrest := return_notMem_printItems rest level
      simpa [printItems, hitem] using hrest

theorem return_notMem_printFields : ∀ (fields : List (String × Json)) (level : Nat),
    ∀ member ∈ printFields level fields, '\r' ∉ member.toList
  | [], _ => by simp [printFields]
  | (key, item) :: rest, level => by
      have hkey := return_notMem_printText key
      have hitem := return_notMem_printAt item level
      have hrest := return_notMem_printFields rest level
      simpa [printFields, hkey, hitem] using hrest

end

theorem return_notMem_print (value : Json) : '\r' ∉ (print value).toList :=
  return_notMem_printAt value 0

end Json

/-- Text without carriage returns has its lines ended by line feeds already. -/
theorem Disk.unifyLines_of_notMem {chars : List Char} (h : '\r' ∉ chars) : unifyLines chars = chars := by
  induction chars with
  | nil => rfl
  | cons c rest ih =>
      rw [List.mem_cons, not_or] at h
      unfold unifyLines
      split
      · next heq =>
          cases heq
          exact absurd rfl h.1
      · next heq =>
          cases heq
          exact absurd rfl h.1
      · next heq =>
          cases heq
          rw [ih h.2]
      · next heq => cases heq

theorem unifyLines_print (value : Json) :
    Disk.unifyLines (Json.print value).toList = (Json.print value).toList :=
  Disk.unifyLines_of_notMem (Json.return_notMem_print value)

end LevelPrep
