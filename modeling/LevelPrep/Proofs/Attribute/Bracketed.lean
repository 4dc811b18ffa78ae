import LevelPrep.Proofs.Attribute.Refusals
import Mathlib.Data.List.Infix

/-!
# Bracketed numbers

What the delimiters of a grammar are does not matter, not even whether they differ: the number of a kind stands
between the leftmost opening of the kind in a name and the next closing delimiter (`Grammar.Brackets`), and an opening
counts only if a closing delimiter follows.  The search for a word is therefore first described by how it cuts a text
(`Text.Leftmost`, `Text.afterFirst?_eq_some_iff`), and `bracketed_read` is what is read in the brackets.
-/

namespace LevelPrep

/-! ## The leftmost place of a word -/

namespace Text

variable {α : Type} {word text before after : List α}

/-- The text is cut around a word, and no cut further to the left goes around it. -/
structure Leftmost (word text before after : List α) : Prop where
  text_eq : text = before ++ word ++ after
  least : ∀ other rest, text = other ++ word ++ rest → before.length ≤ other.length

theorem Leftmost.unique {before' after' : List α} (h : Leftmost word text before after)
    (h' : Leftmost word text before' after') : before = before' ∧ after = after' := by
  have hlen : before.length = before'.length :=
    Nat.le_antisymm (h.least _ _ h'.text_eq) (h'.least _ _ h.text_eq)
  have heq : before ++ (word ++ after) = before' ++ (word ++ after') := by
    simpa using h.text_eq.symm.trans h'.text_eq
  rcases List.append_inj heq hlen with ⟨rfl, hrest⟩
  exact ⟨rfl, List.append_cancel_left hrest⟩

/-- What follows a word at any place is the end of what follows it at the leftmost. -/
theorem Leftmost.suffix (h : Leftmost word text before after) {other rest : List α}
    (hother : text = other ++ word ++ rest) : rest <:+ after := by
  have hle := h.least other rest hother
  have hlen := congrArg List.length (h.text_eq.symm.trans hother)
  have hrest : rest <:+ text := ⟨other ++ word, hother.symm⟩
  have hafter : after <:+ text := ⟨before ++ word, h.text_eq.symm⟩
  refine List.suffix_of_suffix_length_le hrest hafter ?_
  simp only [List.length_append] at hlen
  omega

variable [BEq α] [LawfulBEq α]

/-- The search goes to the leftmost place of the word. -/
theorem leftmost_of_afterFirst? (h : afterFirst? word text = some after) :
    ∃ before, Leftmost word text before after := by
  induction text with
  | nil =>
      by_cases hword : word = []
      · subst hword
        simp only [afterFirst?, List.isEmpty_nil, if_true, Option.some.injEq] at h
        exact ⟨[], by simp [← h], fun other rest _ => Nat.zero_le _⟩
      · simp [afterFirst?, hword] at h
  | cons c text ih =>
      by_cases hprefix : word <+: c :: text
      · -- the word stands right here
        rcases hprefix with ⟨rest, hrest⟩
        have hafter : rest = after := by
          simpa [afterFirst?, ← hrest, List.isPrefixOf_iff_prefix] using h
        subst hafter
        exact ⟨[], by simpa using hrest.symm, fun other rest _ => Nat.zero_le _⟩
      · have hsearch : afterFirst? word text = some after := by
          simpa [afterFirst?, List.isPrefixOf_iff_prefix, hprefix] using h
        rcases ih hsearch with ⟨before, hbefore⟩
        refine ⟨c :: before, by simp [hbefore.text_eq], fun other rest hother => ?_⟩
        cases other with
        | nil => exact absurd ⟨rest, by simpa using hother.symm⟩ hprefix
        | cons d other =>
            have htext : text = other ++ word ++ rest := by
              simpa using (List.cons.inj hother).2
            simpa using hbefore.least other rest htext

theorem afterFirst?_eq_some_iff :
    afterFirst? word text = some after ↔ ∃ before, Leftmost word text before after := by
  constructor
  · exact leftmost_of_afterFirst?
  · rintro ⟨before, h⟩
    have hsome : (afterFirst? word text).isSome = true := by
      rw [isSome_afterFirst?, occursIn_iff]
      exact ⟨before, after, h.text_eq.symm⟩
    rcases Option.isSome_iff_exists.1 hsome with ⟨found, hfound⟩
    rcases leftmost_of_afterFirst? hfound with ⟨before', h'⟩
    rw [hfound, (h'.unique h).2]

end Text

/-! ## Brackets -/

namespace Grammar

/-- What opens the brackets behind a keyword: the indicator, the keyword and the opening delimiter. -/
def openingOf (g : Grammar) (word : String) : List Char :=
  g.indicator.toList ++ word.toList ++ [g.valueStart]

/-- What a name has between the leftmost opening behind a keyword and the next closing delimiter. -/
structure Brackets (g : Grammar) (word name : String) (literal : List Char) : Prop where
  leftmost : ∃ before after,
    Text.Leftmost (g.openingOf word) name.toList before (literal ++ g.valueEnd :: after)
  noEnd : g.valueEnd ∉ literal

/-- The name has an opening behind a keyword, and somewhere behind that a closing delimiter. -/
def Closes (g : Grammar) (word name : String) : Prop :=
  ∃ before after, name.toList = before ++ g.openingOf word ++ after ∧ g.valueEnd ∈ after

variable {g : Grammar} {word name : String} {kind : AttributeKind} {literal : List Char}

theorem Brackets.unique {literal' : List Char} (h : g.Brackets word name literal)
    (h' : g.Brackets word name literal') : literal = literal' := by
  rcases h.leftmost with ⟨before, after, hleft⟩
  rcases h'.leftmost with ⟨before', after', hleft'⟩
  have hread := Text.upTo?_eq_some_iff.2 ⟨h.noEnd, after, rfl⟩
  have hread' := Text.upTo?_eq_some_iff.2 ⟨h'.noEnd, after', rfl⟩
  rw [(hleft.unique hleft').2] at hread
  exact Option.some.inj (hread.symm.trans hread')

/-- A closing delimiter behind any opening is also one behind the leftmost. -/
theorem exists_brackets_iff : (∃ literal, g.Brackets word name literal) ↔ g.Closes word name := by
  constructor
  · rintro ⟨literal, ⟨before, after, hleft⟩, -⟩
    exact ⟨before, _, hleft.text_eq, by simp⟩
  · rintro ⟨before, after, hname, hend⟩
    have hsome : (Text.afterFirst? (g.openingOf word) name.toList).isSome = true := by
      rw [Text.isSome_afterFirst?, Text.occursIn_iff]
      exact ⟨before, after, hname.symm⟩
    rcases Option.isSome_iff_exists.1 hsome with ⟨behind, hbehind⟩
    rcases Text.leftmost_of_afterFirst? hbehind with ⟨first, hfirst⟩
    have hmem : g.valueEnd ∈ behind := (hfirst.suffix hname).subset hend
    rcases List.eq_append_cons_of_mem hmem with ⟨literal, rest, rfl, hliteral⟩
    exact ⟨literal, ⟨first, rest, hfirst⟩, hliteral⟩

theorem opening?_eq (hword : g.keywords.lookup kind = some word) : g.opening? kind = some (g.openingOf word) := by
  simp [opening?, marker?, hword, openingOf]

/-- The literal of a configured kind is what stands in its brackets. -/
theorem literal?_eq_some_iff (hword : g.keywords.lookup kind = some word) :
    g.literal? kind name = some literal ↔ g.Brackets word name literal := by
  have hliteral : g.literal? kind name =
      (Text.afterFirst? (g.openingOf word) name.toList).bind (Text.upTo? g.valueEnd) := by
    simp [literal?, opening?_eq hword]
  rw [hliteral, Option.bind_eq_some_iff]
  constructor
  · rintro ⟨behind, hbehind, hread⟩
    rcases Text.leftmost_of_afterFirst? hbehind with ⟨before, hbefore⟩
    rcases Text.upTo?_eq_some_iff.1 hread with ⟨hend, after, rfl⟩
    exact ⟨⟨before, after, hbefore⟩, hend⟩
  · rintro ⟨⟨before, after, hleft⟩, hend⟩
    exact ⟨_, Text.afterFirst?_eq_some_iff.2 ⟨before, hleft⟩, Text.upTo?_eq_some_iff.2 ⟨hend, after, rfl⟩⟩

theorem literal?_of_unconfigured (hword : g.keywords.lookup kind = none) : g.literal? kind name = none := by
  simp [literal?, opening?, marker?, hword]

/-- A kind with a number is present where its brackets are closed. -/
theorem has_iff_closes (hword : g.keywords.lookup kind = some word) (hvalue : kind.hasValue = true) :
    g.has name kind = true ↔ g.Closes word name := by
  rw [← exists_brackets_iff, has, if_pos hvalue, Option.isSome_iff_exists]
  exact exists_congr fun literal => literal?_eq_some_iff hword

/-- The number is missing exactly where the kind is. -/
theorem value_eq_none_iff (hvalue : kind.hasValue = true) :
    g.value name kind = .ok none ↔ g.has name kind = false := by
  rw [has, if_pos hvalue]
  cases hliteral : g.literal? kind name with
  | none => simp [value_of_absent fun _ => hliteral]
  | some literal =>
      by_cases hlong : g.Overlong name kind literal
      · simp [hlong.value_eq]
      · rcases value_of_not_overlong hvalue hliteral hlong with ⟨v, hv, -⟩
        simp [hv]

/-- The number of a kind without one, and of a kind that is not configured, is never there. -/
theorem value_of_no_number (h : kind.hasValue = false ∨ g.keywords.lookup kind = none) :
    g.value name kind = .ok none := by
  refine value_of_absent fun hvalue => ?_
  rcases h with hflag | hword
  · rw [hvalue] at hflag
    cases hflag
  · exact literal?_of_unconfigured hword

end Grammar

/-! ## Masks of 32 bits -/

theorem AttributeKind.default_le {kind : AttributeKind} {n : Nat} (h : kind.defaultValue? = some (.mask n)) :
    n ≤ maxMask := by
  cases kind <;> cases h <;> decide

/-- A literal stands for one number. -/
theorem Denotes.unique {kind : AttributeKind} {literal : List Char} {v w : AttributeValue}
    (hv : Denotes kind literal v) (hw : Denotes kind literal w) : v = w := by
  -- the default of a kind is a mask or a factor, so that both numbers are read in one way
  cases hv with
  | mask hdefault hmask =>
      cases hw with
      | mask _ hmask' => rw [← hmask.number_eq, ← hmask'.number_eq]
      | noMask _ hnone => exact absurd hmask (hnone _)
      | factor hdefault' | noFactor hdefault' => cases hdefault.symm.trans hdefault'
  | noMask hdefault hnone =>
      cases hw with
      | mask _ hmask' => exact absurd hmask' (hnone _)
      | noMask hdefault' => exact Option.some.inj (hdefault.symm.trans hdefault')
      | factor hdefault' | noFactor hdefault' => cases hdefault.symm.trans hdefault'
  | factor hdefault hfactor =>
      cases hw with
      | mask hdefault' | noMask hdefault' => cases hdefault.symm.trans hdefault'
      | factor _ hfactor' =>
          have heq := hfactor.decimal.symm.trans hfactor'.decimal
          rw [Option.some.inj heq]
      | noFactor _ hnone => exact absurd hfactor (hnone _)
  | noFactor hdefault hnone =>
      cases hw with
      | mask hdefault' | noMask hdefault' => cases hdefault.symm.trans hdefault'
      | factor _ hfactor' => exact absurd hfactor' (hnone _)
      | noFactor hdefault' => exact Option.some.inj (hdefault.symm.trans hdefault')

theorem Denotes.le_maxMask {kind : AttributeKind} {literal : List Char} {m : Nat}
    (h : Denotes kind literal (.mask m)) : m ≤ maxMask := by
  cases h with
  | mask _ hmask => exact hmask.le_maxMask
  | noMask hdefault => exact AttributeKind.default_le hdefault

theorem Grammar.le_maxMask_of_value {g : Grammar} {name : String} {kind : AttributeKind} {m : Nat}
    (h : g.value name kind = .ok (some (.mask m))) : m ≤ maxMask := by
  cases hvalue : kind.hasValue with
  | false => simp [value_of_no_number (Or.inl hvalue)] at h
  | true =>
      cases hliteral : g.literal? kind name with
      | none => simp [value_of_absent fun _ => hliteral] at h
      | some literal =>
          by_cases hlong : g.Overlong name kind literal
          · simp [hlong.value_eq] at h
          · rcases value_of_not_overlong hvalue hliteral hlong with ⟨v, hv, hdenotes⟩
            cases h.symm.trans hv
            exact hdenotes.le_maxMask

/-! ## What is read -/

/-- What is read of a kind in a name, in any grammar.  A configured kind with a number is present if its brackets are
closed, and there is one literal in them; a factor, and a mask of at most 4300 characters, is the number that the
literal denotes or the default of the kind.  Only an absent kind has no number, apart from flags and from kinds that
are not configured, and a mask has 32 bits. -/
theorem bracketed_read (g : Grammar) (name : String) :
    (∀ kind word, g.keywords.lookup kind = some word → kind.hasValue = true →
      (g.has name kind = true ↔ g.Closes word name) ∧
        (g.has name kind = true → ∃! literal, g.Brackets word name literal) ∧
        (∀ literal, g.Brackets word name literal →
          (∀ n, kind.defaultValue? = some (.mask n) → literal.length ≤ 4300) →
          ∃ v, g.value name kind = .ok (some v) ∧ ∀ w, Denotes kind literal w ↔ w = v) ∧
        (g.value name kind = .ok none ↔ g.has name kind = false)) ∧
      (∀ kind, kind.hasValue = false ∨ g.keywords.lookup kind = none → g.value name kind = .ok none) ∧
      ∀ kind m, g.value name kind = .ok (some (.mask m)) → m ≤ maxMask := by
  refine ⟨fun kind word hword hvalue => ⟨Grammar.has_iff_closes hword hvalue, ?_, ?_,
    Grammar.value_eq_none_iff hvalue⟩, fun kind => Grammar.value_of_no_number, fun kind m =>
    Grammar.le_maxMask_of_value⟩
  · intro hhas
    rcases Grammar.exists_brackets_iff.2 ((Grammar.has_iff_closes hword hvalue).1 hhas) with ⟨literal, hliteral⟩
    exact ⟨literal, hliteral, fun other hother => hother.unique hliteral⟩
  · intro literal hliteral hlen
    have hshort : ¬ g.Overlong name kind literal := by
      rintro ⟨⟨n, hdefault⟩, -, -, hlong⟩
      exact absurd (hlen n hdefault) (Nat.not_le.2 hlong)
    rcases Grammar.value_of_not_overlong hvalue ((Grammar.literal?_eq_some_iff hword).2 hliteral) hshort with
      ⟨v, hv, hdenotes⟩
    refine ⟨v, hv, fun w => ⟨fun hw => hw.unique hdenotes, ?_⟩⟩
    rintro rfl
    exact hdenotes

/-- An opening that is not closed reaches to the end of the next brackets, so the layer of the rock is no number. -/
theorem bracketed_read_unclosed :
    Grammar.default.Brackets "Col" "Rock=Col\x7b5=Col\x7b7\x7d" "5=Col\x7b7".toList ∧
      Grammar.default.has "Rock=Col\x7b5=Col\x7b7\x7d" .collisionLayer = true ∧
      Grammar.default.value "Rock=Col\x7b5=Col\x7b7\x7d" .collisionLayer = .ok (some (.mask 0)) := by
  have hword : Grammar.default.keywords.lookup .collisionLayer = some "Col" := rfl
  have hbrackets : Grammar.default.Brackets "Col" "Rock=Col\x7b5=Col\x7b7\x7d" "5=Col\x7b7".toList :=
    (Grammar.literal?_eq_some_iff hword).1 rfl
  rcases (bracketed_read Grammar.default "Rock=Col\x7b5=Col\x7b7\x7d").1 _ _ hword rfl with ⟨hhas, -, hread, -⟩
  rcases hread _ hbrackets (fun _ _ => by decide) with ⟨v, hv, hdenotes⟩
  have hzero : Denotes .collisionLayer "5=Col\x7b7".toList (.mask 0) := by
    refine .noMask rfl fun m hmask => ?_
    have hdigit := hmask.digits '=' (by decide)
    exact absurd hdigit (by decide)
  refine ⟨hbrackets, hhas.2 (Grammar.exists_brackets_iff.1 ⟨_, hbrackets⟩), ?_⟩
  rw [hv, (hdenotes _).1 hzero]

/-- With one character for all three delimiters, the number is between the second and the third. -/
example : { Grammar.default with valueStart := '=', valueEnd := '=' }.value "Rock=Col=007=" .collisionLayer =
    .ok (some (.mask 7)) := rfl

end LevelPrep
