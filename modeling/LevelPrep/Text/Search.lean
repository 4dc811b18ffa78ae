/-!
# Finding text inside text

A word occurs in a text when the text can be cut as `before ++ word ++ after`.  The functions work on
lists, so that the same rules serve characters and path parts.
-/

namespace LevelPrep.Text

variable {α : Type} [BEq α]

/-- Whether `word` stands somewhere in the text, as one run; the empty word stands everywhere. -/
def occursIn (word : List α) : List α → Bool
  | [] => word.isEmpty
  | c :: rest => word.isPrefixOf (c :: rest) || occursIn word rest

/-- What follows the leftmost occurrence of `word`. -/
def afterFirst? (word : List α) : List α → Option (List α)
  | [] => if word.isEmpty then some [] else none
  | c :: rest =>
    if word.isPrefixOf (c :: rest) then some ((c :: rest).drop word.length)
    else afterFirst? word rest

/-- What precedes the first `stop`, if there is one. -/
def upTo? (stop : α) : List α → Option (List α)
  | [] => none
  | c :: rest => if c == stop then some [] else (upTo? stop rest).map (c :: ·)

/-- The pieces between the occurrences of `separator`: always one more than there are of those. -/
def splitAt (separator : α) : List α → List (List α)
  | [] => [[]]
  | c :: rest =>
    match splitAt separator rest with
    | [] => [[c]]
    | piece :: pieces => if c == separator then [] :: piece :: pieces else (c :: piece) :: pieces

/-! ## What is found -/

/-- A word is found where the text can be cut around it. -/
theorem occursIn_iff [LawfulBEq α] {word text : List α} :
    occursIn word text = true ↔ word <:+: text := by
  induction text with
  | nil => simp [occursIn]
  | cons c rest ih => simp [occursIn, ih, List.infix_cons_iff]

/-- Something follows a word exactly if the word occurs. -/
theorem isSome_afterFirst? (word text : List α) :
    (afterFirst? word text).isSome = occursIn word text := by
  induction text with
  | nil => by_cases h : word.isEmpty <;> simp [afterFirst?, occursIn, h]
  | cons c rest ih =>
    by_cases h : word.isPrefixOf (c :: rest) <;> simp [afterFirst?, occursIn, h, ih]

/-- The part in front of `stop` has no `stop` in it and goes up to one. -/
theorem upTo?_eq_some_iff [LawfulBEq α] {stop : α} {text part : List α} :
    upTo? stop text = some part ↔ stop ∉ part ∧ ∃ rest, text = part ++ stop :: rest := by
  induction text generalizing part with
  | nil => simp [upTo?]
  | cons c rest ih =>
    by_cases h : c = stop
    · subst h
      cases part with
      | nil => simp [upTo?]
      | cons d part => simpa [upTo?] using fun hd _ he => absurd he hd
    · cases part with
      | nil => simp [upTo?, h]
      | cons d part =>
        simp only [upTo?, beq_eq_false_iff_ne.2 h, Bool.false_eq_true, if_false,
          Option.map_eq_some_iff, ih, List.cons.injEq, List.mem_cons, List.cons_append]
        constructor
        · rintro ⟨_, ⟨hmem, rest', heq⟩, rfl, rfl⟩
          exact ⟨fun hor => hor.elim (Ne.symm h) hmem, rest', rfl, heq⟩
        · rintro ⟨hmem, rest', rfl, heq⟩
          exact ⟨part, ⟨fun hin => hmem (.inr hin), rest', heq⟩, rfl, rfl⟩

/-- Every separator makes one more piece. -/
theorem length_splitAt (separator : α) (text : List α) :
    (splitAt separator text).length = text.count separator + 1 := by
  induction text with
  | nil => rfl
  | cons c rest ih =>
    cases h : splitAt separator rest with
    | nil => simp [h] at ih
    | cons piece pieces =>
      by_cases hc : c == separator <;> simp_all [splitAt, List.count_cons]

/-! ## Texts -/

/-- Whether `word` stands somewhere in `text`. -/
def contains (word text : String) : Bool :=
  occursIn word.toList text.toList

/-- The part of `text` before its first `stop`, all of it if there is none. -/
def before (stop : Char) (text : String) : String :=
  String.ofList (text.toList.takeWhile (· != stop))

end LevelPrep.Text
