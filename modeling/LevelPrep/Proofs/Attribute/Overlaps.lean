import LevelPrep.Proofs.Attribute.Bracketed
import LevelPrep.Proofs.Attribute.Written

/-!
# Grammars without a reported overlap

If a grammar reports no overlap, no keyword is contained in another one (`overlapping_eq_nil_iff`).  That does not make
it unambiguous: one keyword may stand for several kinds, and where the indicator opens the brackets too, a literal may
begin with the keyword of a flag.  `found_beside_iff` says that these are the only cases in which a name with a single
attribute is taken for a name with another kind, and `not_unambiguous_twins` is a grammar of the first sort.  Grammars
without the two find the kind that was written and no other (`has_single_iff_eq`).
-/

namespace LevelPrep

/-! ## Reported overlaps -/

/-- Nothing is reported exactly if no keyword is contained in another one. -/
theorem overlapping_eq_nil_iff {words : List String} :
    overlapping words = [] ↔ ∀ a ∈ words, ∀ b ∈ words, a.toList <:+: b.toList → a = b := by
  have hpairs : overlapping words = [] ↔
      ∀ a ∈ words, ∀ b ∈ words, a.length < b.length → ¬ a.toList <:+: b.toList := by
    unfold overlapping
    rw [← List.length_eq_zero_iff, List.length_mergeSort, List.length_eq_zero_iff]
    simp [List.flatMap_eq_nil_iff, List.filter_eq_nil_iff, Text.contains, Text.occursIn_iff]
  rw [hpairs]
  constructor
  · intro h a ha b hb hcontained
    -- a keyword that is contained in another one and not shorter is the same
    have hlen : ¬ a.length < b.length := fun hlt => h a ha b hb hlt hcontained
    have hle : b.toList.length ≤ a.toList.length := by
      simpa only [String.length_toList] using Nat.not_lt.1 hlen
    exact String.toList_inj.1 (hcontained.eq_of_length_le hle)
  · intro h a ha b hb hlt hcontained
    rw [h a ha b hb hcontained] at hlt
    exact Nat.lt_irrefl _ hlt

namespace GrammarSettings

variable {s : GrammarSettings} {g : Grammar}

theorem isSet_of_checkKeyword {pair : Json × Json} {entry : AttributeKind × Json}
    (h : checkKeyword pair = .ok entry) : entry.2.isSet = true := by
  unfold checkKeyword at h
  grind

/-- The keywords of a grammar that is accepted are set. -/
theorem isSet_of_ofFields {fields : List (String × Json)} (h : ofFields fields = .ok s) :
    ∀ entry ∈ s.keywords, entry.2.isSet = true := by
  unfold ofFields at h
  simp only [bind_eq_ok_iff] at h
  rcases h with ⟨_, -, _, -, _, -, _, -, pairs, -, entries, hentries, heq⟩
  cases heq
  intro entry hentry
  rcases exists_of_mem_results (forall₂_of_mapM hentries) hentry with ⟨pair, -, hcheck⟩
  exact isSet_of_checkKeyword hcheck

theorem keywords_of_grammar (h : s.grammar = .ok g) :
    g.keywords = s.keywords.map fun entry => (entry.1, entry.2.display) := by
  unfold grammar at h
  simp only [bind_eq_ok_iff] at h
  rcases h with ⟨valueStart, -, valueEnd, -, heq⟩
  cases heq
  rfl

theorem asText_eq_ok_iff {value : Json} {word : String} : value.asText = .ok word ↔ value = .str word := by
  cases value <;> simp [Json.asText]

/-- Overlaps are reported of keywords that are texts, and these are the keywords of the grammar. -/
theorem overlapping_of_overlaps {pairs : List (String × String)} (h : s.overlaps = .ok pairs)
    (hg : s.grammar = .ok g) : overlapping (g.keywords.map (·.2)) = pairs := by
  unfold overlaps at h
  rcases bind_eq_ok_iff.1 h with ⟨words, hwords, heq⟩
  cases heq
  have hsame : g.keywords.map (·.2) = words := by
    rw [keywords_of_grammar hg, List.map_map, ← List.forall₂_eq_eq_eq, List.forall₂_map_left_iff]
    refine (forall₂_of_mapM hwords).imp fun entry word hword => ?_
    simp [asText_eq_ok_iff.1 hword, Json.display]
  rw [hsame]

/-- Keywords of which overlaps can be reported are not empty if the grammar is accepted. -/
theorem word_ne_empty {fields : List (String × Json)} {pairs : List (String × String)}
    (haccepted : ofFields fields = .ok s) (hoverlaps : s.overlaps = .ok pairs) (hg : s.grammar = .ok g) :
    ∀ entry ∈ g.keywords, entry.2 ≠ "" := by
  rcases bind_eq_ok_iff.1 hoverlaps with ⟨words, hwords, -⟩
  intro entry hentry
  rw [keywords_of_grammar hg, List.mem_map] at hentry
  rcases hentry with ⟨setting, hsetting, rfl⟩
  rcases exists_result_of_mem (forall₂_of_mapM hwords) hsetting with ⟨word, -, hword⟩
  have hset := isSet_of_ofFields haccepted setting hsetting
  rw [asText_eq_ok_iff.1 hword] at hset ⊢
  simpa [Json.isSet, Json.display] using hset

end GrammarSettings

/-! ## A name with one attribute -/

/-- A grammar that is accepted, that reports no overlap and that has no indicator in its keywords. -/
structure Grammar.Unreported (g : Grammar) (fields : List (String × Json)) (mark : Char) : Prop where
  accepted : ∃ s, GrammarSettings.ofFields fields = .ok s ∧ s.grammar = .ok g ∧ s.overlaps = .ok []
  indicator_eq : g.indicator = String.singleton mark
  mark_notMem : ∀ entry ∈ g.keywords, mark ∉ entry.2.toList

/-- A name with free text and a single attribute behind it, with the literal if the kind carries a number. -/
def WrittenName.single (front : List Char) (kind : AttributeKind) (literal : List Char) : WrittenName where
  front := front
  segments := [if kind.hasValue then .valued kind literal [] else .flag kind []]

namespace Grammar

/-- Another kind is seen where a kind is written: the keyword is the same, and a number is there if one is needed; or
the indicator opens the brackets, and what they hold begins with the keyword of a flag. -/
def Shares (g : Grammar) (mark : Char) (kind : AttributeKind) (literal : List Char) (other : AttributeKind) : Prop :=
  (g.keyword other = g.keyword kind ∧ (kind.hasValue = true ∨ other.hasValue = false)) ∨
    (g.valueStart = mark ∧ kind.hasValue = true ∧ other.hasValue = false ∧
      g.keyword other <+: literal ++ [g.valueEnd])

/-- What stands behind the keyword of a kind. -/
def brackets (g : Grammar) (kind : AttributeKind) (literal : List Char) : List Char :=
  if kind.hasValue then g.valueStart :: (literal ++ [g.valueEnd]) else []

end Grammar

/-- Two cuts of a text at one character each, of which the first is not behind the mark. -/
theorem Text.cases_of_cut {mark c : Char} {front rest before after : List Char} (hfront : mark ∉ front)
    (h : front ++ c :: rest = before ++ mark :: after) :
    (c = mark ∧ before = front ∧ after = rest) ∨ ∃ mid, before = front ++ c :: mid ∧ rest = mid ++ mark :: after := by
  rcases List.append_eq_append_iff.1 h with ⟨mid, hbefore, hcut⟩ | ⟨mid, hfront', hcut⟩
  · cases mid with
    | nil =>
        cases hcut
        exact Or.inl ⟨rfl, by simpa using hbefore, rfl⟩
    | cons d mid =>
        cases hcut
        exact Or.inr ⟨mid, hbefore, rfl⟩
  · cases mid with
    | nil =>
        cases hcut
        exact Or.inl ⟨rfl, by simpa using hfront'.symm, rfl⟩
    | cons d mid =>
        -- the mark would stand in the front
        cases hcut
        exact absurd (by simp [hfront']) hfront

namespace Grammar.Unreported

variable {g : Grammar} {fields : List (String × Json)} {mark : Char} {kind other : AttributeKind}
  {front literal before after : List Char}

theorem keyword_ne_nil (hg : g.Unreported fields mark) (hkind : kind ∈ g.kinds) : g.keyword kind ≠ [] := by
  rcases hg.accepted with ⟨s, hs, hgrammar, hoverlaps⟩
  rcases Separable.exists_entry g hkind with ⟨word, -, hmem, hword⟩
  have hne : word ≠ "" := GrammarSettings.word_ne_empty hs hoverlaps hgrammar _ hmem
  simpa [hword] using hne

/-- A keyword that is contained in another one is the same. -/
theorem keyword_eq_of_infix (hg : g.Unreported fields mark) (hkind : kind ∈ g.kinds) (hother : other ∈ g.kinds)
    (h : g.keyword other <:+: g.keyword kind) : g.keyword other = g.keyword kind := by
  rcases hg.accepted with ⟨s, -, hgrammar, hoverlaps⟩
  rcases Separable.exists_entry g hkind with ⟨word, -, hmem, hword⟩
  rcases Separable.exists_entry g hother with ⟨word', -, hmem', hword'⟩
  have hnone := overlapping_eq_nil_iff.1 (GrammarSettings.overlapping_of_overlaps hoverlaps hgrammar)
  rw [hword, hword'] at h ⊢
  exact congrArg _ (hnone _ (List.mem_map_of_mem hmem') _ (List.mem_map_of_mem hmem) h)

/-- Keywords that begin the same text are the same. -/
theorem keyword_eq_of_append_eq (hg : g.Unreported fields mark) (hkind : kind ∈ g.kinds) (hother : other ∈ g.kinds)
    {behind behind' : List Char} (h : g.keyword other ++ behind = g.keyword kind ++ behind') :
    g.keyword other = g.keyword kind := by
  have hprefix : g.keyword other <+: g.keyword kind ++ behind' := ⟨behind, h⟩
  rcases List.prefix_or_prefix_of_prefix hprefix (List.prefix_append _ _) with hle | hle
  · exact hg.keyword_eq_of_infix hkind hother hle.isInfix
  · exact (hg.keyword_eq_of_infix hother hkind hle.isInfix).symm

/-- Where a marker can stand in a name with one attribute: in the place of the marker that was written, or at the
opening delimiter. -/
theorem places (hg : g.Unreported fields mark) (hkind : kind ∈ g.kinds) (hother : other ∈ g.kinds)
    (hfront : mark ∉ front) (hliteral : mark ∉ literal)
    (h : front ++ mark :: (g.keyword kind ++ g.brackets kind literal) =
      before ++ mark :: (g.keyword other ++ after)) :
    (g.keyword other = g.keyword kind ∧ after = g.brackets kind literal) ∨
      (g.valueStart = mark ∧ kind.hasValue = true ∧ g.keyword other ++ after = literal ++ [g.valueEnd]) := by
  rcases Text.cases_of_cut hfront h with ⟨-, -, hsame⟩ | ⟨mid, -, hbehind⟩
  · have heq := hg.keyword_eq_of_append_eq hkind hother hsame
    rw [heq] at hsame
    exact Or.inl ⟨heq, List.append_cancel_left hsame⟩
  · -- there is no mark in the keyword, so it is a delimiter, and behind the last there is no room for a keyword
    cases hvalue : kind.hasValue with
    | false =>
        have hmem : mark ∈ g.keyword kind := by
          rw [brackets, hvalue] at hbehind
          simp only [Bool.false_eq_true, if_false, List.append_nil] at hbehind
          simp [hbehind]
        exact absurd hmem (Separable.notMem_keyword hg.mark_notMem hkind)
    | true =>
        rw [brackets, if_pos hvalue] at hbehind
        rcases Text.cases_of_cut (Separable.notMem_keyword hg.mark_notMem hkind) hbehind with
          ⟨hstart, -, hopen⟩ | ⟨mid', -, hopen⟩
        · exact Or.inr ⟨hstart, rfl, hopen⟩
        · exfalso
          rcases Text.cases_of_cut hliteral hopen with ⟨-, -, hend⟩ | ⟨mid'', -, hend⟩
          · exact hg.keyword_ne_nil hother (List.append_eq_nil_iff.1 hend).1
          · simp at hend

/-- An opening that something follows stands where it was written, behind the same keyword. -/
theorem place_of_opening (hg : g.Unreported fields mark) (hkind : kind ∈ g.kinds) (hother : other ∈ g.kinds)
    (hfront : mark ∉ front) (hliteral : mark ∉ literal) (hafter : after ≠ [])
    (h : front ++ mark :: (g.keyword kind ++ g.brackets kind literal) =
      before ++ mark :: (g.keyword other ++ g.valueStart :: after)) :
    g.keyword other = g.keyword kind ∧ kind.hasValue = true ∧ after = literal ++ [g.valueEnd] := by
  rcases hg.places hkind hother hfront hliteral h with ⟨heq, hsame⟩ | ⟨hstart, -, hsame⟩
  · unfold brackets at hsame
    split at hsame
    · next hvalue =>
        cases hsame
        exact ⟨heq, hvalue, rfl⟩
    · cases hsame
  · exfalso
    rw [hstart] at hsame
    rcases Text.cases_of_cut hliteral hsame.symm with ⟨-, -, hnil⟩ | ⟨mid, -, hnil⟩
    · exact hafter hnil
    · simp at hnil

/-! ## What is found -/

theorem toList_single (hg : g.Unreported fields mark) (front : List Char) (kind : AttributeKind) (literal : List Char) :
    ((WrittenName.single front kind literal).text g).toList =
      front ++ mark :: (g.keyword kind ++ g.brackets kind literal) := by
  unfold WrittenName.single WrittenName.text WrittenName.chars brackets
  split <;> simp [hg.indicator_eq, Segment.body]

/-- A flag is found where its marker stands. -/
theorem has_flag_iff (hg : g.Unreported fields mark) (hother : other ∈ g.kinds) (hflag : other.hasValue = false)
    (name : String) :
    g.has name other = true ↔ ∃ before after, name.toList = before ++ mark :: (g.keyword other ++ after) := by
  rcases Separable.exists_entry g hother with ⟨word, hlookup, -, hword⟩
  have hmarker : g.marker? other = some (g.indicator ++ word) := by simp [marker?, hlookup]
  have hhas : g.has name other = Text.contains (g.indicator ++ word) name := by simp [has, hflag, hmarker]
  rw [hhas, Text.contains, Text.occursIn_iff, hword]
  simp [List.IsInfix, hg.indicator_eq, eq_comm]

/-- A kind with a number is found where its opening stands in front of a closing delimiter. -/
theorem has_valued_iff (hg : g.Unreported fields mark) (hother : other ∈ g.kinds) (hvalue : other.hasValue = true)
    (name : String) : g.has name other = true ↔ ∃ before after,
      name.toList = before ++ mark :: (g.keyword other ++ g.valueStart :: after) ∧ g.valueEnd ∈ after := by
  rcases Separable.exists_entry g hother with ⟨word, hlookup, -, hword⟩
  rw [has_iff_closes hlookup hvalue, hword]
  simp [Closes, openingOf, hg.indicator_eq]

/-- In a name with one attribute the kinds that share its place are found. -/
theorem has_single_iff (hg : g.Unreported fields mark) (hkind : kind ∈ g.kinds) (hother : other ∈ g.kinds)
    (hfront : mark ∉ front) (hliteral : mark ∉ literal) :
    g.has ((WrittenName.single front kind literal).text g) other = true ↔ g.Shares mark kind literal other := by
  -- a flag is found wherever its marker stands, a kind with a number only where brackets follow
  cases hvalue : other.hasValue with
  | false =>
      rw [hg.has_flag_iff hother hvalue, hg.toList_single]
      constructor
      · rintro ⟨before, after, hname⟩
        rcases hg.places hkind hother hfront hliteral hname with ⟨heq, -⟩ | ⟨hstart, hkindValue, hbegins⟩
        · exact Or.inl ⟨heq, Or.inr hvalue⟩
        · exact Or.inr ⟨hstart, hkindValue, hvalue, after, hbegins⟩
      · rintro (⟨heq, -⟩ | ⟨hstart, hkindValue, -, after, hbegins⟩)
        · exact ⟨front, g.brackets kind literal, by rw [heq]⟩
        · refine ⟨front ++ mark :: g.keyword kind, after, ?_⟩
          rw [brackets, if_pos hkindValue, hstart, hbegins]
          simp
  | true =>
      rw [hg.has_valued_iff hother hvalue, hg.toList_single]
      constructor
      · rintro ⟨before, after, hname, hend⟩
        rcases hg.place_of_opening hkind hother hfront hliteral (List.ne_nil_of_mem hend) hname with
          ⟨heq, hkindValue, -⟩
        exact Or.inl ⟨heq, Or.inl hkindValue⟩
      · rintro (⟨heq, hkindValue | hflag⟩ | ⟨-, -, hflag, -⟩)
        · exact ⟨front, literal ++ [g.valueEnd], by rw [heq, brackets, if_pos hkindValue], by simp⟩
        · cases hvalue.symm.trans hflag
        · cases hvalue.symm.trans hflag

/-- Where each keyword belongs to one kind and the indicator opens no brackets, only the kind that was written is
found. -/
theorem has_single_iff_eq (hg : g.Unreported fields mark) (hwords : ∀ k ∈ g.kinds, ∀ o ∈ g.kinds,
      g.keyword o = g.keyword k → o = k) (hstart : g.valueStart ≠ mark) (hkind : kind ∈ g.kinds)
    (hother : other ∈ g.kinds) (hfront : mark ∉ front) (hliteral : mark ∉ literal) :
    g.has ((WrittenName.single front kind literal).text g) other = true ↔ other = kind := by
  rw [hg.has_single_iff hkind hother hfront hliteral]
  constructor
  · rintro (⟨heq, -⟩ | ⟨hopens, -⟩)
    · exact hwords kind hkind other hother heq
    · exact absurd hopens hstart
  · rintro rfl
    refine Or.inl ⟨rfl, ?_⟩
    cases other.hasValue <;> simp

/-- No kind has another literal there than the one that was written, so a short one can be read. -/
theorem not_overlong_single (hg : g.Unreported fields mark) (hkind : kind ∈ g.kinds) (hother : other ∈ g.kinds)
    (hfront : mark ∉ front) (hliteral : mark ∉ literal) (hlen : literal.length ≤ Number.maxDigits) (l : List Char) :
    ¬ g.Overlong ((WrittenName.single front kind literal).text g) other l := by
  intro hlong
  rcases Separable.exists_entry g hother with ⟨word, hlookup, -, hword⟩
  rcases ((literal?_eq_some_iff hlookup).1 hlong.literal_eq).leftmost with ⟨before, after, hleft⟩
  have hname : front ++ mark :: (g.keyword kind ++ g.brackets kind literal) =
      before ++ mark :: (g.keyword other ++ g.valueStart :: (l ++ g.valueEnd :: after)) := by
    rw [← hg.toList_single, hleft.text_eq, openingOf, hword]
    simp [hg.indicator_eq]
  have hsame := (hg.place_of_opening hkind hother hfront hliteral (by simp) hname).2.2
  have hcount := congrArg List.length hsame
  simp only [List.length_append, List.length_cons, List.length_nil] at hcount
  have hlonger := hlong.long
  omega

end Grammar.Unreported

/-- A grammar that reports no overlap, and a name with an attribute of one kind: the kinds that are found are those
that have the same keyword, of which one with a number needs brackets, and those flags whose keyword stands at the
beginning of the brackets where the indicator opens them.  Reading all attributes finds the same, and a literal of at
most 4300 characters can be read. -/
theorem found_beside_iff {g : Grammar} {fields : List (String × Json)} {mark : Char} (hg : g.Unreported fields mark)
    {kind other : AttributeKind} (hkind : kind ∈ g.kinds) (hother : other ∈ g.kinds) {front literal : List Char}
    (hfront : mark ∉ front) (hliteral : mark ∉ literal) :
    (g.has ((WrittenName.single front kind literal).text g) other = true ↔ g.Shares mark kind literal other) ∧
      (∀ a, g.attributes ((WrittenName.single front kind literal).text g) = .ok a →
        (a.contains other = true ↔ g.Shares mark kind literal other)) ∧
      (literal.length ≤ 4300 → ∃ a, g.attributes ((WrittenName.single front kind literal).text g) = .ok a) := by
  have hhas := hg.has_single_iff hkind hother hfront hliteral
  refine ⟨hhas, fun a ha => ?_, fun hlen => ?_⟩
  · rw [Grammar.contains_iff_has ha, and_iff_right hother]
    exact hhas
  · have hshort : ∀ k ∈ g.kinds, ∀ l, ¬ g.Overlong ((WrittenName.single front kind literal).text g) k l :=
      fun k hk => hg.not_overlong_single hkind hk hfront hliteral hlen
    rcases Grammar.attributes_of_not_overlong hshort with ⟨a, ha, -⟩
    exact ⟨a, ha⟩

/-! ## Two grammars without a reported overlap -/

/-- The section of a grammar in which two kinds have the same keyword. -/
def twinFields : List (String × Json) :=
  [("keywords", .obj [("no_collision", .str "Col"), ("no_render", .str "Col")])]

/-- The grammar of the section. -/
def twinGrammar : Grammar :=
  { Grammar.default with keywords := [(.noCollision, "Col"), (.noRender, "Col")] }

/-- The section of a grammar whose indicator opens and closes the brackets too. -/
def barredFields : List (String × Json) :=
  [("value_start", .str "="), ("value_end", .str "="),
    ("keywords", .obj [("render_layer", .str "Layer"), ("no_render", .str "NoRender")])]

/-- The grammar of the section. -/
def barredGrammar : Grammar :=
  { Grammar.default with
    valueStart := '='
    valueEnd := '='
    keywords := [(.renderLayer, "Layer"), (.noRender, "NoRender")] }

theorem unreported_twins : twinGrammar.Unreported twinFields '=' where
  accepted := by
    refine ⟨⟨.str "=", .str "\x7b", .str "\x7d", [(.noCollision, .str "Col"), (.noRender, .str "Col")]⟩, rfl, rfl, ?_⟩
    exact congrArg Except.ok (overlapping_eq_nil_iff.2 (by decide))
  indicator_eq := rfl
  mark_notMem := by decide

theorem unreported_barred : barredGrammar.Unreported barredFields '=' where
  accepted := by
    refine ⟨⟨.str "=", .str "=", .str "=", [(.renderLayer, .str "Layer"), (.noRender, .str "NoRender")]⟩, rfl, rfl, ?_⟩
    exact congrArg Except.ok (overlapping_eq_nil_iff.2 (by decide))
  indicator_eq := rfl
  mark_notMem := by decide

/-- A rock without collisions is not rendered either, and nothing was reported. -/
theorem not_unambiguous_twins :
    twinGrammar.Unreported twinFields '=' ∧ .noCollision ∈ twinGrammar.kinds ∧ .noRender ∈ twinGrammar.kinds ∧
      (WrittenName.single "Rock".toList .noCollision []).text twinGrammar = "Rock=Col" ∧
      twinGrammar.has "Rock=Col" .noRender = true ∧
      ∃ a, twinGrammar.attributes "Rock=Col" = .ok a ∧ a.contains .noRender = true :=
  ⟨unreported_twins, by decide, by decide, by decide, by decide,
    ⟨[(.noCollision, none), (.noRender, none)]⟩, rfl, rfl⟩

/-- Where the indicator opens the brackets, a layer that begins with the keyword of a flag shows the flag, and no other
layer does. -/
theorem found_beside_iff_barred :
    barredGrammar.has ((WrittenName.single "Rock".toList .renderLayer "NoRender".toList).text barredGrammar) .noRender =
        true ∧
      barredGrammar.has ((WrittenName.single "Rock".toList .renderLayer "7".toList).text barredGrammar) .noRender =
        false := by
  have hlayer : .renderLayer ∈ barredGrammar.kinds := by decide
  have hrender : .noRender ∈ barredGrammar.kinds := by decide
  have hrock : '=' ∉ "Rock".toList := by decide
  have hword : '=' ∉ "NoRender".toList := by decide
  have hseven : '=' ∉ "7".toList := by decide
  constructor
  · exact (found_beside_iff unreported_barred hlayer hrender hrock hword).1.2 (Or.inr ⟨rfl, rfl, rfl, ['='], rfl⟩)
  · rw [Bool.eq_false_iff]
    intro hhas
    rcases (found_beside_iff unreported_barred hlayer hrender hrock hseven).1.1 hhas with
      ⟨heq, -⟩ | ⟨-, -, -, hbegins⟩
    · exact absurd heq (by decide)
    · exact absurd hbegins (by decide)

end LevelPrep
