import LevelPrep.Proofs.Attribute.Literal
import LevelPrep.Proofs.Outcome

/-!
# Names that cannot be read

Whether a name carries an attribute can be told of every name.  Its numbers can be read as long as no literal of a
mask is a run of more digits than the reader of integers takes: such a literal is refused, and with it all the
attributes of the name, although it is too large for a mask anyway and could stand for the default like any other
malformed literal.

* `Grammar.Overlong`: the literals that are refused;
* `reads_or_refuses`: what is read of a name, whatever name and grammar are;
* `refuses_rock`: a name that is refused.
-/

namespace LevelPrep

namespace Grammar

/-- The literal that a name has for a kind with a mask is a run of digits that is too long to be read. -/
structure Overlong (g : Grammar) (name : String) (kind : AttributeKind) (literal : List Char) : Prop where
  mask : ∃ n, kind.defaultValue? = some (.mask n)
  literal_eq : g.literal? kind name = some literal
  digits : ∀ c ∈ literal, c.isDigit = true
  long : Number.maxDigits < literal.length

variable {g : Grammar} {name : String} {kind : AttributeKind} {literal : List Char}

theorem hasValue_of_default {v : AttributeValue} (h : kind.defaultValue? = some v) : kind.hasValue = true := by
  simp [AttributeKind.hasValue, h]

/-- An overlong literal is refused. -/
theorem Overlong.value_eq (h : g.Overlong name kind literal) :
    g.value name kind = .error (.longInteger literal.length) := by
  rcases h.mask with ⟨n, hdefault⟩
  have hread := readMask_of_long h.digits h.long
  unfold value
  rw [if_pos (hasValue_of_default hdefault), h.literal_eq]
  simp only [literalValue, hdefault, hread]
  rfl

/-- Any other literal gives a number, the one that it stands for or the default of the kind. -/
theorem value_of_not_overlong (hvalue : kind.hasValue = true) (hliteral : g.literal? kind name = some literal)
    (hshort : ¬ g.Overlong name kind literal) :
    ∃ v, g.value name kind = .ok (some v) ∧ Denotes kind literal v := by
  have hread : g.value name kind = literalValue kind literal := by
    unfold value
    rw [if_pos hvalue, hliteral]
  rw [hread]
  rcases hdefault : kind.defaultValue? with _ | n | x
  · simp [AttributeKind.hasValue, hdefault] at hvalue
  · refine literalValue_of_mask hdefault fun hdigits => ?_
    by_contra hlong
    exact hshort ⟨⟨n, hdefault⟩, hliteral, hdigits, Nat.not_le.1 hlong⟩
  · exact literalValue_of_factor hdefault literal

/-- A kind without a literal in a name has no number there. -/
theorem value_of_absent (habsent : kind.hasValue = true → g.literal? kind name = none) :
    g.value name kind = .ok none := by
  unfold value
  cases hvalue : kind.hasValue with
  | false => rfl
  | true => simp [habsent hvalue]

/-- What happens when the number of a kind is asked for. -/
theorem cases_of_value (g : Grammar) (name : String) (kind : AttributeKind) :
    (∃ literal, g.Overlong name kind literal) ∨ ∃ v, g.value name kind = .ok v := by
  by_cases hvalue : kind.hasValue = true
  · cases hliteral : g.literal? kind name with
    | none => exact Or.inr ⟨none, value_of_absent fun _ => hliteral⟩
    | some literal =>
        by_cases hlong : g.Overlong name kind literal
        · exact Or.inl ⟨literal, hlong⟩
        · rcases value_of_not_overlong hvalue hliteral hlong with ⟨v, hv, -⟩
          exact Or.inr ⟨some v, hv⟩
  · exact Or.inr ⟨none, value_of_absent fun h => absurd h hvalue⟩

/-- The number of a kind is refused exactly if its literal is overlong. -/
theorem value_eq_error_iff {fault : Fault} : g.value name kind = .error fault ↔
    ∃ literal, g.Overlong name kind literal ∧ fault = .longInteger literal.length := by
  constructor
  · intro h
    rcases cases_of_value g name kind with ⟨literal, hlong⟩ | ⟨v, hv⟩
    · have hfault := hlong.value_eq.symm.trans h
      exact ⟨literal, hlong, (Except.error.inj hfault).symm⟩
    · cases hv.symm.trans h
  · rintro ⟨literal, hlong, rfl⟩
    exact hlong.value_eq

/-- One attribute of a name, as the parser returns it. -/
def token (g : Grammar) (name : String) (kind : AttributeKind) :
    Except Fault (AttributeKind × Option AttributeValue) :=
  (g.value name kind).map fun v => (kind, v)

/-- The attributes of a name are read off kind by kind. -/
theorem attributes_eq (g : Grammar) (name : String) : g.attributes name =
    ((g.kinds.filter (g.has name)).mapM (g.token name)).map NodeAttributes.mk := by
  unfold attributes
  have hround : (fun kind => do return (kind, ← g.value name kind) :
      AttributeKind → Except Fault (AttributeKind × Option AttributeValue)) = g.token name := by
    funext kind
    unfold token
    cases g.value name kind <;> rfl
  simp only [hround]
  cases (g.kinds.filter (g.has name)).mapM (g.token name) <;> rfl

theorem token_eq_ok_iff {result : AttributeKind × Option AttributeValue} :
    g.token name kind = .ok result ↔ result.1 = kind ∧ g.value name kind = .ok result.2 := by
  unfold token
  rw [map_eq_ok_iff]
  constructor
  · rintro ⟨v, hv, rfl⟩
    exact ⟨rfl, hv⟩
  · rintro ⟨rfl, hv⟩
    exact ⟨result.2, hv, rfl⟩

theorem token_eq_error_iff {fault : Fault} :
    g.token name kind = .error fault ↔ g.value name kind = .error fault := by
  unfold token
  cases g.value name kind <;> simp [Except.map]

theorem exists_token_iff : (∃ result, g.token name kind = .ok result) ↔ ∀ l, ¬ g.Overlong name kind l := by
  constructor
  · rintro ⟨result, hresult⟩ l hlong
    have hvalue := (token_eq_ok_iff.1 hresult).2
    rw [hlong.value_eq] at hvalue
    cases hvalue
  · intro hnone
    rcases cases_of_value g name kind with ⟨l, hlong⟩ | ⟨v, hv⟩
    · exact absurd hlong (hnone l)
    · exact ⟨(kind, v), token_eq_ok_iff.2 ⟨rfl, hv⟩⟩

/-- The attributes of a name are refused if the literal of one of them is, and then for the first of these. -/
theorem attributes_eq_error_iff {fault : Fault} : g.attributes name = .error fault ↔
    ∃ before kind after literal, g.kinds.filter (g.has name) = before ++ kind :: after ∧
      (∀ other ∈ before, ∀ l, ¬ g.Overlong name other l) ∧ g.Overlong name kind literal ∧
      fault = .longInteger literal.length := by
  have hmap : g.attributes name = .error fault ↔
      (g.kinds.filter (g.has name)).mapM (g.token name) = .error fault := by
    rw [attributes_eq]
    cases (g.kinds.filter (g.has name)).mapM (g.token name) <;> simp [Except.map]
  rw [hmap, mapM_eq_error_iff]
  simp only [exists_token_iff, token_eq_error_iff, value_eq_error_iff]
  constructor
  · rintro ⟨before, kind, after, hsplit, hbefore, literal, hlong, hfault⟩
    exact ⟨before, kind, after, literal, hsplit, hbefore, hlong, hfault⟩
  · rintro ⟨before, kind, after, literal, hsplit, hbefore, hlong, hfault⟩
    exact ⟨before, kind, after, hsplit, hbefore, literal, hlong, hfault⟩

/-- Where no literal is overlong, each attribute of a name is read with its number. -/
theorem attributes_of_not_overlong (hshort : ∀ kind ∈ g.kinds, ∀ l, ¬ g.Overlong name kind l) :
    ∃ a, g.attributes name = .ok a ∧ List.Forall₂ (fun kind token => token.1 = kind ∧
      g.value name kind = .ok token.2) (g.kinds.filter (g.has name)) a.tokens := by
  have hround : ∀ kind ∈ g.kinds.filter (g.has name), ∃ result, g.token name kind = .ok result ∧
      result.1 = kind ∧ g.value name kind = .ok result.2 := by
    intro kind hkind
    rcases exists_token_iff.2 (hshort kind (List.mem_filter.1 hkind).1) with ⟨result, hresult⟩
    exact ⟨result, hresult, token_eq_ok_iff.1 hresult⟩
  rcases exists_mapM_ok hround with ⟨tokens, htokens, hall⟩
  exact ⟨⟨tokens⟩, by rw [attributes_eq, htokens]; rfl, hall⟩

/-- The attributes that are read off a name are the kinds that it has, each with its number. -/
theorem mem_tokens_iff {a : NodeAttributes} (h : g.attributes name = .ok a)
    {found : AttributeKind × Option AttributeValue} :
    found ∈ a.tokens ↔ found.1 ∈ g.kinds ∧ g.has name found.1 = true ∧ g.value name found.1 = .ok found.2 := by
  rw [attributes_eq, map_eq_ok_iff] at h
  rcases h with ⟨tokens, htokens, rfl⟩
  have hall := forall₂_of_mapM htokens
  constructor
  · intro hfound
    rcases exists_of_mem_results hall hfound with ⟨kind, hkind, htoken⟩
    rcases token_eq_ok_iff.1 htoken with ⟨rfl, hvalue⟩
    have hhas := List.mem_filter.1 hkind
    exact ⟨hhas.1, hhas.2, hvalue⟩
  · rintro ⟨hkind, hhas, hvalue⟩
    rcases exists_result_of_mem hall (List.mem_filter.2 ⟨hkind, hhas⟩) with ⟨token, htoken, hsame⟩
    have hread := token_eq_ok_iff.2 ⟨rfl, hvalue⟩
    cases hread.symm.trans hsame
    exact htoken

/-- Among the attributes of a name are the configured kinds that it has. -/
theorem contains_iff_has {a : NodeAttributes} (h : g.attributes name = .ok a) :
    a.contains kind = true ↔ kind ∈ g.kinds ∧ g.has name kind = true := by
  rw [NodeAttributes.contains, List.any_eq_true]
  constructor
  · rintro ⟨found, hfound, heq⟩
    have hread := (mem_tokens_iff h).1 hfound
    exact of_decide_eq_true heq ▸ ⟨hread.1, hread.2.1⟩
  · intro hhas
    rw [attributes_eq, map_eq_ok_iff] at h
    rcases h with ⟨tokens, htokens, rfl⟩
    rcases exists_result_of_mem (forall₂_of_mapM htokens) (List.mem_filter.2 hhas) with ⟨token, htoken, hsame⟩
    exact ⟨token, htoken, decide_eq_true (token_eq_ok_iff.1 hsame).1⟩

/-- One overlong literal takes all the attributes of a name with it. -/
theorem Overlong.attributes_eq (h : g.Overlong name kind literal) (hkind : kind ∈ g.kinds) :
    ∃ fault, g.attributes name = .error fault := by
  rcases h.mask with ⟨n, hdefault⟩
  have hhas : g.has name kind = true := by
    unfold has
    rw [if_pos (hasValue_of_default hdefault), h.literal_eq]
    rfl
  cases hattributes : g.attributes name with
  | error fault => exact ⟨fault, rfl⟩
  | ok a =>
      exfalso
      rw [Grammar.attributes_eq, map_eq_ok_iff] at hattributes
      rcases hattributes with ⟨tokens, htokens, -⟩
      have hmem := List.mem_filter.2 ⟨hkind, hhas⟩
      rcases exists_result_of_mem (forall₂_of_mapM htokens) hmem with ⟨result, -, hresult⟩
      exact exists_token_iff.1 ⟨result, hresult⟩ literal h

end Grammar

/-- What is read of a name, in any grammar: presence always; a number for every literal that is not overlong, the
default of the kind among them; and a refusal, of the number and of all attributes, for those that are. -/
theorem reads_or_refuses (g : Grammar) (name : String) :
    (∀ kind, g.nameHas (.str name) kind = .ok (g.has name kind)) ∧
      (∀ kind, (kind.hasValue = true → g.literal? kind name = none) → g.value name kind = .ok none) ∧
      (∀ kind literal, kind.hasValue = true → g.literal? kind name = some literal →
        ¬ g.Overlong name kind literal → ∃ v, g.value name kind = .ok (some v) ∧ Denotes kind literal v) ∧
      (∀ kind fault, g.value name kind = .error fault ↔
        ∃ literal, g.Overlong name kind literal ∧ fault = .longInteger literal.length) ∧
      ((∀ kind ∈ g.kinds, ∀ l, ¬ g.Overlong name kind l) → ∃ a, g.attributes name = .ok a ∧
        List.Forall₂ (fun kind token => token.1 = kind ∧ g.value name kind = .ok token.2)
          (g.kinds.filter (g.has name)) a.tokens) ∧
      ∀ fault, g.attributes name = .error fault ↔
        ∃ before kind after literal, g.kinds.filter (g.has name) = before ++ kind :: after ∧
          (∀ other ∈ before, ∀ l, ¬ g.Overlong name other l) ∧ g.Overlong name kind literal ∧
          fault = .longInteger literal.length := by
  refine ⟨fun kind => rfl, fun kind => Grammar.value_of_absent, ?_, ?_, ?_, ?_⟩
  · intro kind literal hvalue hliteral hshort
    exact Grammar.value_of_not_overlong hvalue hliteral hshort
  · intro kind fault
    exact Grammar.value_eq_error_iff
  · exact Grammar.attributes_of_not_overlong
  · intro fault
    exact Grammar.attributes_eq_error_iff

/-! ## A rock with a long number -/

/-- The name of a rock whose collision layer is written with some ones. -/
def rockName (ones : Nat) : String :=
  String.ofList ("Rock=Col\x7b".toList ++ (List.replicate ones '1' ++ ['\x7d']))

theorem literal?_rockName (ones : Nat) :
    Grammar.default.literal? .collisionLayer (rockName ones) = some (List.replicate ones '1') := by
  have hopening : Grammar.default.opening? .collisionLayer = some "=Col\x7b".toList := by decide
  have hbehind : Text.afterFirst? "=Col\x7b".toList (rockName ones).toList =
      some (List.replicate ones '1' ++ ['\x7d']) := by
    have hname : (rockName ones).toList = _ := String.toList_ofList
    rw [hname]
    rfl
  have hread : Text.upTo? '\x7d' (List.replicate ones '1' ++ ['\x7d']) = some (List.replicate ones '1') := by
    refine Text.upTo?_eq_some_iff.2 ⟨?_, [], rfl⟩
    intro hmem
    cases List.eq_of_mem_replicate hmem
  unfold Grammar.literal?
  rw [hopening]
  show (Text.afterFirst? "=Col\x7b".toList (rockName ones).toList).bind _ = _
  rw [hbehind]
  exact hread

/-- A layer of 4301 digits is no mask of 32 bits, and yet neither the default of the kind is read nor any other
attribute of the name. -/
theorem refuses_rock :
    Grammar.default.has (rockName 4301) .collisionLayer = true ∧
      Grammar.default.value (rockName 4301) .collisionLayer = .error (.longInteger 4301) ∧
      ∃ fault, Grammar.default.attributes (rockName 4301) = .error fault := by
  have hlong : Grammar.default.Overlong (rockName 4301) .collisionLayer (List.replicate 4301 '1') := by
    refine ⟨⟨0, rfl⟩, literal?_rockName 4301, fun c hc => ?_, ?_⟩
    · rw [List.eq_of_mem_replicate hc]
      rfl
    · rw [List.length_replicate]
      decide
  have hvalue := hlong.value_eq
  rw [List.length_replicate] at hvalue
  have hhas : Grammar.default.has (rockName 4301) .collisionLayer = true := by
    unfold Grammar.has
    rw [if_pos (Grammar.hasValue_of_default rfl), literal?_rockName]
    rfl
  exact ⟨hhas, hvalue, hlong.attributes_eq (by decide)⟩

end LevelPrep
