import LevelPrep.Attribute.Reading
import Mathlib.Data.Nat.Digits.Defs

/-!
# What literals denote

A mask is written in ASCII digits and fits into 32 bits; a factor is any decimal that is finite and
positive.  `Denotes` says which number a literal stands for, the default of its kind included, and
`literalValue_denotes` that this is the number that is read.
-/

namespace LevelPrep

/-- The number that digits stand for, the last one counting ones. -/
def decimalNumber (literal : List Char) : Nat :=
  Nat.ofDigits 10 (literal.reverse.map fun c => c.toNat - '0'.toNat)

/-- The literal is a mask of 32 bits. -/
structure IsMask (literal : List Char) (n : Nat) : Prop where
  ne_nil : literal ≠ []
  digits : ∀ c ∈ literal, c.isDigit = true
  number_eq : decimalNumber literal = n
  le_maxMask : n ≤ maxMask

/-- The literal is a finite decimal larger than zero. -/
structure IsFactor (literal : List Char) (x : Float) : Prop where
  decimal : Number.readDecimal? (String.ofList literal) = some x
  finite : x.isFinite = true
  pos : x > 0.0

/-- What a literal of a kind stands for: the number it spells, or else the default of the kind. -/
inductive Denotes (kind : AttributeKind) (literal : List Char) : AttributeValue → Prop where
  | mask {n m : Nat} : kind.defaultValue? = some (.mask n) → IsMask literal m →
      Denotes kind literal (.mask m)
  | noMask {n : Nat} : kind.defaultValue? = some (.mask n) → (∀ m, ¬ IsMask literal m) →
      Denotes kind literal (.mask n)
  | factor {x y : Float} : kind.defaultValue? = some (.factor x) → IsFactor literal y →
      Denotes kind literal (.factor y)
  | noFactor {x : Float} : kind.defaultValue? = some (.factor x) → (∀ y, ¬ IsFactor literal y) →
      Denotes kind literal (.factor x)

/-! ## Masks -/

theorem ofDigits_eq_foldl (digits : List Nat) :
    Text.ofDigits digits = Nat.ofDigits 10 digits.reverse := by
  rw [Nat.ofDigits_eq_foldr, List.foldr_reverse]
  simp only [Text.ofDigits]
  congr 1
  funext n d
  simp [Nat.add_comm]

/-- A run of digits is read whole exactly if it consists of digits. -/
theorem spanDigits_of_digits {literal : List Char} (h : ∀ c ∈ literal, c.isDigit = true) :
    Text.spanDigits Text.asciiDigit? literal =
      (literal.map fun c => c.toNat - '0'.toNat, []) := by
  induction literal with
  | nil => rfl
  | cons c rest ih =>
      have hc : c.isDigit = true := h c List.mem_cons_self
      have hrest := ih fun d hd => h d (List.mem_cons_of_mem c hd)
      simp [Text.spanDigits, Text.asciiDigit?, hc, hrest]

theorem spanDigits_rest_ne_nil {literal : List Char} (h : ¬ ∀ c ∈ literal, c.isDigit = true) :
    (Text.spanDigits Text.asciiDigit? literal).2 ≠ [] := by
  induction literal with
  | nil => simp at h
  | cons c rest ih =>
      by_cases hc : c.isDigit = true
      · have hrest : ¬ ∀ d ∈ rest, d.isDigit = true := by
          intro hall
          apply h
          intro d hd
          rcases List.mem_cons.1 hd with rfl | hd
          · exact hc
          · exact hall d hd
        simpa [Text.spanDigits, Text.asciiDigit?, hc] using ih hrest
      · simp [Text.spanDigits, Text.asciiDigit?, hc]

/-- A literal that is no run of digits is no mask, and that is no fault. -/
theorem readMask_of_not_digits {literal : List Char} (h : ¬ ∀ c ∈ literal, c.isDigit = true) :
    readMask literal = .ok none := by
  have hrest := spanDigits_rest_ne_nil h
  unfold readMask
  split
  · rename_i digits heq
    rw [heq] at hrest
    exact absurd rfl hrest
  · rfl

/-- A run of digits that is not too long is read as the number it stands for. -/
theorem readMask_of_digits {literal : List Char} (h : ∀ c ∈ literal, c.isDigit = true)
    (hne : literal ≠ []) (hlen : literal.length ≤ Number.maxDigits) :
    readMask literal =
      .ok (if decimalNumber literal ≤ maxMask then some (decimalNumber literal) else none) := by
  have hnil : literal.isEmpty = false := by simpa using hne
  simp [readMask, spanDigits_of_digits h, hnil, Nat.not_lt.2 hlen, ofDigits_eq_foldl,
    decimalNumber, List.map_reverse]

/-- A run of digits that is too long is refused, whatever number it stands for. -/
theorem readMask_of_long {literal : List Char} (h : ∀ c ∈ literal, c.isDigit = true)
    (hlong : Number.maxDigits < literal.length) : readMask literal = .error (.longInteger literal.length) := by
  have hne : literal ≠ [] := by
    rintro rfl
    exact absurd hlong (Nat.not_lt_zero _)
  have hnil : literal.isEmpty = false := by simpa using hne
  simp [readMask, spanDigits_of_digits h, hnil, hlong]

/-- What is read as a mask is one. -/
theorem readMask_eq_ok {literal : List Char}
    (hlen : (∀ c ∈ literal, c.isDigit = true) → literal.length ≤ Number.maxDigits) :
    ∃ m?, readMask literal = .ok m? ∧ ∀ m, m? = some m ↔ IsMask literal m := by
  by_cases hdigits : ∀ c ∈ literal, c.isDigit = true
  · -- nothing at all is no number, and a run of digits is one if it is not too large
    by_cases hne : literal = []
    · subst hne
      refine ⟨none, rfl, ?_⟩
      intro m
      constructor
      · intro h
        cases h
      · intro h
        exact absurd rfl h.ne_nil
    · refine ⟨_, readMask_of_digits hdigits hne (hlen hdigits), ?_⟩
      intro m
      constructor
      · intro h
        by_cases hle : decimalNumber literal ≤ maxMask
        · rw [if_pos hle] at h
          have hm : decimalNumber literal = m := Option.some.inj h
          exact ⟨hne, hdigits, hm, hm ▸ hle⟩
        · rw [if_neg hle] at h
          cases h
      · rintro ⟨-, -, rfl, hle⟩
        rw [if_pos hle]
  · refine ⟨none, readMask_of_not_digits hdigits, ?_⟩
    intro m
    constructor
    · intro h
      cases h
    · intro h
      exact absurd h.digits hdigits

/-! ## Factors -/

/-- What is read as a factor is one. -/
theorem readFactor_eq_some_iff (literal : List Char) (x : Float) :
    readFactor literal = some x ↔ IsFactor literal x := by
  unfold readFactor
  constructor
  · intro h
    split at h
    · rename_i y hy
      split at h
      · rename_i hgood
        cases h
        simp only [Bool.and_eq_true, decide_eq_true_eq] at hgood
        exact ⟨hy, hgood.1, hgood.2⟩
      · cases h
    · cases h
  · rintro ⟨hread, hfinite, hpos⟩
    simp [hread, hfinite, hpos]

/-! ## Values -/

/-- A literal of a mask that is no overlong run of digits gives a mask, which is the one that it stands for. -/
theorem literalValue_of_mask {kind : AttributeKind} {literal : List Char} {n : Nat}
    (hdefault : kind.defaultValue? = some (.mask n))
    (hlen : (∀ c ∈ literal, c.isDigit = true) → literal.length ≤ Number.maxDigits) :
    ∃ v, Grammar.literalValue kind literal = .ok (some v) ∧ Denotes kind literal v := by
  rcases readMask_eq_ok hlen with ⟨m?, hread, hmask⟩
  cases m? with
  | none =>
      refine ⟨.mask n, by simp [Grammar.literalValue, hdefault, hread]; rfl, ?_⟩
      exact .noMask hdefault fun m hm => by simpa using (hmask m).2 hm
  | some m =>
      refine ⟨.mask m, by simp [Grammar.literalValue, hdefault, hread]; rfl, ?_⟩
      exact .mask hdefault ((hmask m).1 rfl)

/-- Any literal of a factor gives a factor, which is the one that it stands for. -/
theorem literalValue_of_factor {kind : AttributeKind} {x : Float} (hdefault : kind.defaultValue? = some (.factor x))
    (literal : List Char) :
    ∃ v, Grammar.literalValue kind literal = .ok (some v) ∧ Denotes kind literal v := by
  cases hread : readFactor literal with
  | none =>
      refine ⟨.factor x, by simp [Grammar.literalValue, hdefault, hread], ?_⟩
      refine .noFactor hdefault fun y hy => ?_
      rw [(readFactor_eq_some_iff literal y).2 hy] at hread
      cases hread
  | some y =>
      refine ⟨.factor y, by simp [Grammar.literalValue, hdefault, hread], ?_⟩
      exact .factor hdefault ((readFactor_eq_some_iff literal y).1 hread)

/-- A literal that is not too long gives a number, which is the one that it stands for. -/
theorem literalValue_denotes {kind : AttributeKind} {literal : List Char}
    (hvalue : kind.hasValue = true) (hlen : literal.length ≤ Number.maxDigits) :
    ∃ v, Grammar.literalValue kind literal = .ok (some v) ∧ Denotes kind literal v := by
  rcases hdefault : kind.defaultValue? with _ | n | x
  · simp [AttributeKind.hasValue, hdefault] at hvalue
  · exact literalValue_of_mask hdefault fun _ => hlen
  · exact literalValue_of_factor hdefault literal

end LevelPrep
