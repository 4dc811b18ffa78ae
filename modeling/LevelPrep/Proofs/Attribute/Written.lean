import LevelPrep.Proofs.Attribute.Literal
import LevelPrep.Proofs.Outcome
import Mathlib.Data.List.Nodup

/-!
# Names that attributes are written into

A name is free text followed by segments, each of which is a marker, perhaps with a bracketed literal,
and free text again.  In a grammar whose markers can be told apart (`Grammar.Separable`) reading such a
name finds what was written and nothing else:

* `afterFirst?_marked` and `afterFirst?_marked_eq_none`: a marker is seen only where an indicator
  stands, so the search goes from segment to segment;
* `keyword_prefix_body_iff` and `opening_prefix_body_iff`: what stands behind an indicator begins like
  the marker of a kind only if that kind was written there;
* `attributes_written`: the attributes of a written name.
-/

namespace LevelPrep

/-! ## Texts cut up by a mark -/

namespace Text

variable {mark : Char} {word : List Char}

/-- A word that starts with the mark is not found in a front without marks. -/
theorem afterFirst?_append_of_notMem {front : List Char} (h : mark ∉ front) (text : List Char) :
    afterFirst? (mark :: word) (front ++ text) = afterFirst? (mark :: word) text := by
  induction front with
  | nil => rfl
  | cons c front ih =>
      have hc : mark ≠ c := fun he => h (he ▸ List.mem_cons_self)
      have hfront : mark ∉ front := fun hm => h (List.mem_cons_of_mem c hm)
      simp [afterFirst?, hc, ih hfront]

/-- A word without a character that begins a text begins what stands in front of the character. -/
theorem prefix_of_notMem {c : Char} {front back : List Char} (hc : c ∉ word)
    (h : word <+: front ++ c :: back) : word <+: front := by
  rcases List.prefix_or_prefix_of_prefix h (List.prefix_append front _) with h' | h'
  · exact h'
  · rcases h' with ⟨tail, rfl⟩
    cases tail with
    | nil => simp
    | cons d tail =>
        -- the word goes on behind the front, so the character stands in it
        have hd : d :: tail <+: c :: back := (List.prefix_append_right_inj front).1 h
        have heq : d = c := (List.cons_prefix_cons.1 hd).1
        exact absurd (by simp [heq]) hc

/-- A word that is followed by a character in a text goes past every front without the character. -/
theorem prefix_of_concat_prefix {c : Char} {front back : List Char} (hc : c ∉ front)
    (h : word ++ [c] <+: front ++ back) : front <+: word := by
  rcases List.prefix_or_prefix_of_prefix h (List.prefix_append front back) with h' | h'
  · exact absurd (h'.subset (by simp)) hc
  · rcases List.prefix_concat_iff.1 h' with rfl | h'
    · exact absurd (by simp) hc
    · exact h'

/-- What begins like a word without marks does so in front of the next mark. -/
theorem prefix_append_marked_iff (hword : mark ∉ word) (body : List Char)
    (bodies : List (List Char)) :
    word <+: body ++ bodies.flatMap (mark :: ·) ↔ word <+: body := by
  constructor
  · intro h
    cases bodies with
    | nil => simpa using h
    | cons other bodies => exact prefix_of_notMem hword h
  · intro h
    exact h.trans (List.prefix_append body _)

/-- The pieces that do not begin like the word are passed over. -/
theorem afterFirst?_marked_skip (hword : mark ∉ word) {skipped : List (List Char)}
    (hmark : ∀ body ∈ skipped, mark ∉ body) (hskip : ∀ body ∈ skipped, ¬ word <+: body)
    (bodies : List (List Char)) :
    afterFirst? (mark :: word) ((skipped ++ bodies).flatMap (mark :: ·)) =
      afterFirst? (mark :: word) (bodies.flatMap (mark :: ·)) := by
  induction skipped with
  | nil => rfl
  | cons body skipped ih =>
      have hbody : ¬ word <+: body ++ (skipped ++ bodies).flatMap (mark :: ·) := fun h =>
        hskip body List.mem_cons_self ((prefix_append_marked_iff hword body _).1 h)
      have hrest := ih (fun b hb => hmark b (List.mem_cons_of_mem body hb))
        (fun b hb => hskip b (List.mem_cons_of_mem body hb))
      have hnot : (mark :: word).isPrefixOf
          (mark :: (body ++ (skipped ++ bodies).flatMap (mark :: ·))) = false := by
        rw [Bool.eq_false_iff, ne_eq, List.isPrefixOf_iff_prefix, List.cons_prefix_cons]
        exact fun h => hbody h.2
      -- the search goes past the mark of the piece, and then past the piece itself, which has no other mark
      calc afterFirst? (mark :: word) ((body :: skipped ++ bodies).flatMap (mark :: ·))
          = afterFirst? (mark :: word)
              (mark :: (body ++ (skipped ++ bodies).flatMap (mark :: ·))) := by simp
        _ = afterFirst? (mark :: word) (body ++ (skipped ++ bodies).flatMap (mark :: ·)) := by
            rw [afterFirst?, hnot]
            simp
        _ = afterFirst? (mark :: word) ((skipped ++ bodies).flatMap (mark :: ·)) :=
            afterFirst?_append_of_notMem (hmark body List.mem_cons_self) _
        _ = afterFirst? (mark :: word) (bodies.flatMap (mark :: ·)) := hrest

/-- A word is not found where no piece begins like it. -/
theorem afterFirst?_marked_eq_none (hword : mark ∉ word) {front : List Char} (hfront : mark ∉ front)
    {bodies : List (List Char)} (hmark : ∀ body ∈ bodies, mark ∉ body)
    (hnone : ∀ body ∈ bodies, ¬ word <+: body) :
    afterFirst? (mark :: word) (front ++ bodies.flatMap (mark :: ·)) = none := by
  have hskip := afterFirst?_marked_skip hword hmark hnone []
  rw [afterFirst?_append_of_notMem hfront]
  simpa [afterFirst?] using hskip

/-- A word is found in the first piece that begins like it. -/
theorem afterFirst?_marked (hword : mark ∉ word) {front : List Char} (hfront : mark ∉ front)
    {skipped : List (List Char)} (hmark : ∀ body ∈ skipped, mark ∉ body)
    (hskip : ∀ body ∈ skipped, ¬ word <+: body) (tail : List Char) (bodies : List (List Char)) :
    afterFirst? (mark :: word)
        (front ++ (skipped ++ (word ++ tail) :: bodies).flatMap (mark :: ·)) =
      some (tail ++ bodies.flatMap (mark :: ·)) := by
  rw [afterFirst?_append_of_notMem hfront, afterFirst?_marked_skip hword hmark hskip]
  simp [afterFirst?]

end Text

/-! ## Written names -/

/-- What is written at one place of a name, with the free text behind it. -/
inductive Segment where
  | flag (kind : AttributeKind) (after : List Char)
  | valued (kind : AttributeKind) (literal after : List Char)

/-- The keyword of a kind. -/
def Grammar.keyword (g : Grammar) (kind : AttributeKind) : List Char :=
  ((g.keywords.lookup kind).getD "").toList

namespace Segment

/-- The kind that is written. -/
def kind : Segment → AttributeKind
  | flag kind _ => kind
  | valued kind _ _ => kind

/-- The literal that is written. -/
def literal? : Segment → Option (List Char)
  | flag _ _ => none
  | valued _ literal _ => some literal

/-- The text of a segment behind its indicator. -/
def body (g : Grammar) : Segment → List Char
  | flag kind after => g.keyword kind ++ after
  | valued kind literal after =>
    g.keyword kind ++ g.valueStart :: (literal ++ g.valueEnd :: after)

/-- The segment can be written: its kind is configured and does or does not carry a number as the
segment says, and neither the free text nor the literal brings in an indicator. -/
def Fits (g : Grammar) (mark : Char) : Segment → Prop
  | flag kind after => kind ∈ g.kinds ∧ kind.hasValue = false ∧ mark ∉ after
  | valued kind literal after =>
    kind ∈ g.kinds ∧ kind.hasValue = true ∧ mark ∉ after ∧ mark ∉ literal ∧
      g.valueEnd ∉ literal ∧ literal.length ≤ 4300

instance (g : Grammar) (mark : Char) : ∀ s : Segment, Decidable (s.Fits g mark)
  | flag _ _ => inferInstanceAs (Decidable (_ ∧ _))
  | valued _ _ _ => inferInstanceAs (Decidable (_ ∧ _))

end Segment

/-- A name that attributes are written into. -/
structure WrittenName where
  front : List Char
  segments : List Segment

namespace WrittenName

/-- The characters of the name. -/
def chars (g : Grammar) (name : WrittenName) : List Char :=
  name.front ++ name.segments.flatMap fun s => g.indicator.toList ++ s.body g

/-- The name as a text. -/
def text (g : Grammar) (name : WrittenName) : String :=
  String.ofList (name.chars g)

/-- The kinds that are written. -/
def kinds (name : WrittenName) : List AttributeKind :=
  name.segments.map Segment.kind

/-- The literal that is written first for a kind. -/
def literal? (name : WrittenName) (kind : AttributeKind) : Option (List Char) :=
  (name.segments.find? (·.kind = kind)).bind Segment.literal?

/-- The name can be written: indicators stand only in front of its segments. -/
structure Fits (g : Grammar) (mark : Char) (name : WrittenName) : Prop where
  front : mark ∉ name.front
  segments : ∀ s ∈ name.segments, s.Fits g mark

end WrittenName

/-- A grammar whose markers can be told apart.  Each kind is configured once, the three delimiters and
the keywords do not run into each other, and no flag's keyword begins another keyword. -/
structure Grammar.Separable (g : Grammar) (mark : Char) : Prop where
  indicator_eq : g.indicator = String.singleton mark
  mark_ne_start : mark ≠ g.valueStart
  mark_ne_end : mark ≠ g.valueEnd
  kinds_nodup : g.kinds.Nodup
  words_nodup : (g.keywords.map (·.2)).Nodup
  mark_notMem : ∀ entry ∈ g.keywords, mark ∉ entry.2.toList
  start_notMem : ∀ entry ∈ g.keywords, g.valueStart ∉ entry.2.toList
  flag_not_prefix : ∀ entry ∈ g.keywords, ∀ other ∈ g.keywords, entry.1.hasValue = false →
    entry.2.toList <+: other.2.toList → entry.2 = other.2

namespace Grammar.Separable

variable {g : Grammar} {mark : Char}

/-! ## Keywords -/

/-- A configured kind has a keyword of its own. -/
theorem exists_entry (g : Grammar) {kind : AttributeKind} (h : kind ∈ g.kinds) :
    ∃ word, g.keywords.lookup kind = some word ∧ (kind, word) ∈ g.keywords ∧
      g.keyword kind = word.toList := by
  have hsome : (g.keywords.lookup kind).isSome = true := by
    rcases List.mem_map.1 h with ⟨entry, hentry, rfl⟩
    rw [List.lookup_isSome_iff]
    exact ⟨entry, hentry, by simp⟩
  rcases Option.isSome_iff_exists.1 hsome with ⟨word, hword⟩
  rcases List.lookup_eq_some_iff.1 hword with ⟨front, back, heq, -⟩
  refine ⟨word, hword, ?_, by simp [Grammar.keyword, hword]⟩
  rw [heq]
  simp

/-- A character that is in no keyword is not in that of a kind. -/
theorem notMem_keyword {c : Char} (hwords : ∀ entry ∈ g.keywords, c ∉ entry.2.toList) {kind : AttributeKind}
    (h : kind ∈ g.kinds) : c ∉ g.keyword kind := by
  rcases exists_entry g h with ⟨word, -, hmem, hkey⟩
  rw [hkey]
  exact hwords _ hmem

theorem mark_notMem_keyword (hg : g.Separable mark) {kind : AttributeKind} (h : kind ∈ g.kinds) :
    mark ∉ g.keyword kind :=
  notMem_keyword hg.mark_notMem h

theorem start_notMem_keyword (hg : g.Separable mark) {kind : AttributeKind} (h : kind ∈ g.kinds) :
    g.valueStart ∉ g.keyword kind :=
  notMem_keyword hg.start_notMem h

/-- Kinds are known by their keywords. -/
theorem keyword_injective (hg : g.Separable mark) {kind other : AttributeKind} (h : kind ∈ g.kinds)
    (ho : other ∈ g.kinds) (heq : g.keyword kind = g.keyword other) : kind = other := by
  rcases exists_entry g h with ⟨word, -, hmem, hkey⟩
  rcases exists_entry g ho with ⟨word', -, hmem', hkey'⟩
  have hword : word = word' := String.toList_inj.1 (hkey ▸ hkey' ▸ heq)
  have hentry : (kind, word) = (other, word') :=
    List.inj_on_of_nodup_map hg.words_nodup hmem hmem' hword
  exact congrArg Prod.fst hentry

/-- The keyword of a flag begins no keyword but its own. -/
theorem eq_of_flag_prefix (hg : g.Separable mark) {flag other : AttributeKind}
    (hflag : flag ∈ g.kinds) (hvalue : flag.hasValue = false) (ho : other ∈ g.kinds)
    (hpre : g.keyword flag <+: g.keyword other) : flag = other := by
  rcases exists_entry g hflag with ⟨word, -, hmem, hkey⟩
  rcases exists_entry g ho with ⟨word', -, hmem', hkey'⟩
  rw [hkey, hkey'] at hpre
  have hword : word = word' := hg.flag_not_prefix _ hmem _ hmem' hvalue hpre
  exact hg.keyword_injective hflag ho (by rw [hkey, hkey', hword])

/-! ## Segments -/

theorem kind_mem_kinds {s : Segment} (hs : s.Fits g mark) : s.kind ∈ g.kinds := by
  cases s <;> exact hs.1

/-- No indicator stands inside a segment. -/
theorem mark_notMem_body (hg : g.Separable mark) {s : Segment} (hs : s.Fits g mark) :
    mark ∉ s.body g := by
  cases s with
  | flag kind after =>
      rcases hs with ⟨hkind, -, hafter⟩
      simp [Segment.body, hg.mark_notMem_keyword hkind, hafter]
  | valued kind literal after =>
      rcases hs with ⟨hkind, -, hafter, hliteral, -⟩
      simp [Segment.body, hg.mark_notMem_keyword hkind, hafter, hliteral, hg.mark_ne_start,
        hg.mark_ne_end]

/-- A segment begins with the keyword of its own kind. -/
theorem keyword_prefix_body (s : Segment) : g.keyword s.kind <+: s.body g := by
  cases s <;> exact List.prefix_append _ _

/-- A segment begins with the keyword of a flag only if the flag is what is written. -/
theorem keyword_prefix_body_iff (hg : g.Separable mark) {s : Segment} (hs : s.Fits g mark)
    {flag : AttributeKind} (hflag : flag ∈ g.kinds) (hvalue : flag.hasValue = false) :
    g.keyword flag <+: s.body g ↔ s.kind = flag := by
  constructor
  · intro h
    have hkind := kind_mem_kinds hs
    cases s with
    | flag kind after =>
        rcases List.prefix_or_prefix_of_prefix h (List.prefix_append _ after) with hpre | hpre
        · exact (hg.eq_of_flag_prefix hflag hvalue hkind hpre).symm
        · exact hg.eq_of_flag_prefix hkind hs.2.1 hflag hpre
    | valued kind literal after =>
        -- the flag has no opening delimiter, so it does not reach past the keyword
        have hpre := Text.prefix_of_notMem (hg.start_notMem_keyword hflag) h
        exact (hg.eq_of_flag_prefix hflag hvalue hkind hpre).symm
  · rintro rfl
    exact keyword_prefix_body s

/-- A segment begins with the opening of a kind with a number only if that kind is what is written. -/
theorem opening_prefix_body_iff (hg : g.Separable mark) {s : Segment} (hs : s.Fits g mark)
    {kind : AttributeKind} (hkind : kind ∈ g.kinds) (hvalue : kind.hasValue = true) :
    g.keyword kind ++ [g.valueStart] <+: s.body g ↔ s.kind = kind := by
  constructor
  · intro h
    have hskind := kind_mem_kinds hs
    cases s with
    | flag flag after =>
        have hpre := Text.prefix_of_concat_prefix (hg.start_notMem_keyword hskind) h
        exact hg.eq_of_flag_prefix hskind hs.2.1 hkind hpre
    | valued other literal after =>
        -- each of the two keywords stops at the opening delimiter
        have hle : g.keyword other <+: g.keyword kind :=
          Text.prefix_of_concat_prefix (hg.start_notMem_keyword hskind) h
        have hge : g.keyword kind <+: g.keyword other :=
          Text.prefix_of_notMem (hg.start_notMem_keyword hkind) ((List.prefix_append _ _).trans h)
        exact hg.keyword_injective hskind hkind (hle.eq_of_length_le hge.length_le)
  · rintro rfl
    cases s with
    | flag flag after => simp [hs.2.1, Segment.kind] at hvalue
    | valued other literal after =>
        exact ⟨literal ++ g.valueEnd :: after, by simp [Segment.body, Segment.kind]⟩

/-! ## Reading a written name -/

/-- The characters of a written name are cut up by its indicators. -/
theorem chars_eq (hg : g.Separable mark) (name : WrittenName) :
    name.chars g = name.front ++ (name.segments.map (Segment.body g)).flatMap (mark :: ·) := by
  simp [WrittenName.chars, hg.indicator_eq, List.flatMap_map]

/-- A written name is cut in two before the first segment of a kind, if there is one. -/
theorem exists_cut (name : WrittenName) (kind : AttributeKind) (h : kind ∈ name.kinds) :
    ∃ skipped s rest, name.segments = skipped ++ s :: rest ∧ s.kind = kind ∧
      (∀ t ∈ skipped, t.kind ≠ kind) ∧ name.literal? kind = s.literal? := by
  have hsome : (name.segments.find? (·.kind = kind)).isSome = true := by
    rcases List.mem_map.1 h with ⟨s, hs, hkind⟩
    rw [List.find?_isSome]
    exact ⟨s, hs, by simp [hkind]⟩
  rcases Option.isSome_iff_exists.1 hsome with ⟨s, hs⟩
  rcases List.find?_eq_some_iff_append.1 hs with ⟨hkind, skipped, rest, heq, hskip⟩
  refine ⟨skipped, s, rest, heq, by simpa using hkind, ?_, by simp [WrittenName.literal?, hs]⟩
  intro t ht
  simpa using hskip t ht

/-- A kind that is not written has no literal. -/
theorem literal?_eq_none {name : WrittenName} {kind : AttributeKind} (h : kind ∉ name.kinds) :
    name.literal? kind = none := by
  have hfind : name.segments.find? (·.kind = kind) = none := by
    rw [List.find?_eq_none]
    intro s hs heq
    exact h (List.mem_map.2 ⟨s, hs, by simpa using heq⟩)
  simp [WrittenName.literal?, hfind]

/-- A kind with a number that is written has a literal, which is not too long. -/
theorem exists_literal {name : WrittenName} (hname : name.Fits g mark) {kind : AttributeKind}
    (hvalue : kind.hasValue = true) (h : kind ∈ name.kinds) :
    ∃ literal after, Segment.valued kind literal after ∈ name.segments ∧
      name.literal? kind = some literal ∧ literal.length ≤ Number.maxDigits := by
  rcases exists_cut name kind h with ⟨skipped, s, rest, heq, rfl, -, hlit⟩
  have hmem : s ∈ name.segments := by simp [heq]
  have hfits := hname.segments s hmem
  cases s with
  | flag kind after => simp [Segment.kind, hfits.2.1] at hvalue
  | valued kind literal after =>
      exact ⟨literal, after, hmem, hlit, hfits.2.2.2.2.2⟩

/-- A flag has no literal. -/
theorem literal?_flag {name : WrittenName} (hname : name.Fits g mark) {kind : AttributeKind}
    (hvalue : kind.hasValue = false) : name.literal? kind = none := by
  by_cases h : kind ∈ name.kinds
  · rcases exists_cut name kind h with ⟨skipped, s, rest, heq, rfl, -, hlit⟩
    have hfits := hname.segments s (by simp [heq])
    cases s with
    | flag kind after => exact hlit
    | valued kind literal after => simp [Segment.kind, hfits.2.1] at hvalue
  · exact literal?_eq_none h

/-- The search for a kind's word finds nothing where the kind is not written, and otherwise leaves what
follows the word in the first segment of the kind. -/
theorem afterFirst?_chars (hg : g.Separable mark) {name : WrittenName} (hname : name.Fits g mark)
    {kind : AttributeKind} {word : List Char} (hword : mark ∉ word)
    (hiff : ∀ s ∈ name.segments, word <+: s.body g ↔ s.kind = kind) :
    (kind ∉ name.kinds ∧ Text.afterFirst? (mark :: word) (name.chars g) = none) ∨
      ∃ s ∈ name.segments, s.kind = kind ∧ name.literal? kind = s.literal? ∧
        ∃ tail rest, s.body g = word ++ tail ∧
          Text.afterFirst? (mark :: word) (name.chars g) = some (tail ++ rest) := by
  have hbody : ∀ segments : List Segment, (∀ s ∈ segments, s ∈ name.segments) →
      ∀ b ∈ segments.map (Segment.body g), mark ∉ b := by
    intro segments hsub b hb
    rcases List.mem_map.1 hb with ⟨s, hs, rfl⟩
    exact hg.mark_notMem_body (hname.segments s (hsub s hs))
  rw [hg.chars_eq]
  by_cases h : kind ∈ name.kinds
  · right
    rcases exists_cut name kind h with ⟨skipped, s, rest, heq, hkind, hskip, hlit⟩
    have hmem : s ∈ name.segments := by simp [heq]
    rcases (hiff s hmem).2 hkind with ⟨tail, htail⟩
    refine ⟨s, hmem, hkind, hlit, tail,
      (rest.map (Segment.body g)).flatMap (mark :: ·), htail.symm, ?_⟩
    have hsub : ∀ t ∈ skipped, t ∈ name.segments := by
      intro t ht
      simp [heq, ht]
    -- no segment before the first of the kind begins with the word
    rw [heq, List.map_append, List.map_cons, ← htail]
    refine Text.afterFirst?_marked hword hname.front (hbody skipped hsub) ?_ tail _
    intro b hb hpre
    rcases List.mem_map.1 hb with ⟨t, ht, rfl⟩
    exact hskip t ht ((hiff t (hsub t ht)).1 hpre)
  · left
    refine ⟨h, ?_⟩
    refine Text.afterFirst?_marked_eq_none hword hname.front (hbody _ fun _ hs => hs) ?_
    intro b hb hpre
    rcases List.mem_map.1 hb with ⟨s, hs, rfl⟩
    exact h (List.mem_map.2 ⟨s, hs, (hiff s hs).1 hpre⟩)

theorem mem_kinds_of_written {name : WrittenName} (hname : name.Fits g mark) {kind : AttributeKind}
    (h : kind ∈ name.kinds) : kind ∈ g.kinds := by
  rcases List.mem_map.1 h with ⟨s, hs, rfl⟩
  exact kind_mem_kinds (hname.segments s hs)

theorem marker?_toList (hg : g.Separable mark) {kind : AttributeKind} (h : kind ∈ g.kinds) :
    ∃ marker, g.marker? kind = some marker ∧ marker.toList = mark :: g.keyword kind := by
  rcases exists_entry g h with ⟨word, hlookup, -, hkey⟩
  refine ⟨g.indicator ++ word, by simp [Grammar.marker?, hlookup], ?_⟩
  simp [hg.indicator_eq, hkey]

theorem marker?_eq_none {kind : AttributeKind} (h : kind ∉ g.kinds) : g.marker? kind = none := by
  have hlookup : g.keywords.lookup kind = none := by
    rw [List.lookup_eq_none_iff]
    intro entry hentry
    rw [bne_iff_ne]
    rintro rfl
    exact h (List.mem_map.2 ⟨entry, hentry, rfl⟩)
  simp [Grammar.marker?, hlookup]

/-- The literal of a kind that carries a number is the one that is written first for it. -/
theorem literal?_text (hg : g.Separable mark) {name : WrittenName} (hname : name.Fits g mark)
    {kind : AttributeKind} (hvalue : kind.hasValue = true) :
    g.literal? kind (name.text g) = name.literal? kind := by
  by_cases hkind : kind ∈ g.kinds
  · rcases hg.marker?_toList hkind with ⟨marker, hmarker, hchars⟩
    have hopening : g.opening? kind = some (mark :: (g.keyword kind ++ [g.valueStart])) := by
      simp [Grammar.opening?, hmarker, hchars]
    have hword : mark ∉ g.keyword kind ++ [g.valueStart] := by
      simp [hg.mark_notMem_keyword hkind, hg.mark_ne_start]
    -- only the pieces of the kind begin like its marker with an opening delimiter
    have hiff : ∀ s ∈ name.segments,
        g.keyword kind ++ [g.valueStart] <+: s.body g ↔ s.kind = kind := fun s hs =>
      hg.opening_prefix_body_iff (hname.segments s hs) hkind hvalue
    rcases hg.afterFirst?_chars hname hword hiff with
      ⟨habsent, hnone⟩ | ⟨s, hs, rfl, hlit, tail, rest, hbody, hsome⟩
    · simp [Grammar.literal?, hopening, WrittenName.text, hnone, literal?_eq_none habsent]
    · have hfits := hname.segments s hs
      cases s with
      | flag other after => simp [Segment.kind, hfits.2.1] at hvalue
      | valued other literal after =>
          rcases hfits with ⟨-, -, -, -, hend, -⟩
          have htail : tail = literal ++ g.valueEnd :: after := by
            simpa [Segment.body, Segment.kind] using hbody.symm
          have hread : Text.upTo? g.valueEnd (tail ++ rest) = some literal :=
            Text.upTo?_eq_some_iff.2 ⟨hend, after ++ rest, by simp [htail]⟩
          simp [Grammar.literal?, hopening, WrittenName.text, hsome, hread, hlit, Segment.literal?]
  · have habsent : kind ∉ name.kinds := fun h => hkind (mem_kinds_of_written hname h)
    simp [Grammar.literal?, Grammar.opening?, marker?_eq_none hkind, literal?_eq_none habsent]

/-- A written name has the attributes that are written into it, and no others. -/
theorem has_text_iff (hg : g.Separable mark) {name : WrittenName} (hname : name.Fits g mark)
    (kind : AttributeKind) : g.has (name.text g) kind = true ↔ kind ∈ name.kinds := by
  -- a kind with a number is found by its literal, a flag by its marker alone
  cases hvalue : kind.hasValue with
  | true =>
      simp only [Grammar.has, hvalue, if_true, hg.literal?_text hname hvalue]
      constructor
      · intro h
        by_contra habsent
        simp [literal?_eq_none habsent] at h
      · intro h
        rcases exists_literal hname hvalue h with ⟨literal, -, -, hlit, -⟩
        simp [hlit]
  | false =>
      by_cases hkind : kind ∈ g.kinds
      · rcases hg.marker?_toList hkind with ⟨marker, hmarker, hchars⟩
        have hhas : g.has (name.text g) kind =
            (Text.afterFirst? (mark :: g.keyword kind) (name.chars g)).isSome := by
          rw [Text.isSome_afterFirst?]
          simp [Grammar.has, hvalue, hmarker, Text.contains, hchars, WrittenName.text]
        have hiff : ∀ s ∈ name.segments, g.keyword kind <+: s.body g ↔ s.kind = kind := fun s hs =>
          hg.keyword_prefix_body_iff (hname.segments s hs) hkind hvalue
        rw [hhas]
        rcases hg.afterFirst?_chars hname (hg.mark_notMem_keyword hkind) hiff with
          ⟨habsent, hnone⟩ | ⟨s, hs, rfl, -, tail, rest, -, hsome⟩
        · simp [hnone, habsent]
        · have hwritten : s.kind ∈ name.kinds := List.mem_map.2 ⟨s, hs, rfl⟩
          simp [hsome, hwritten]
      · have habsent : kind ∉ name.kinds := fun h => hkind (mem_kinds_of_written hname h)
        simp [Grammar.has, hvalue, marker?_eq_none hkind, habsent]

/-- A kind that carries a number gives the number that its first literal denotes. -/
theorem value_text (hg : g.Separable mark) {name : WrittenName} (hname : name.Fits g mark)
    {kind : AttributeKind} (h : kind ∈ name.kinds) :
    ∃ v?, g.value (name.text g) kind = .ok v? ∧
      (kind.hasValue = false → v? = none) ∧
      ∀ literal, name.literal? kind = some literal → ∃ v, v? = some v ∧ Denotes kind literal v := by
  cases hvalue : kind.hasValue with
  | true =>
      rcases exists_literal hname hvalue h with ⟨literal, -, -, hlit, hlen⟩
      rcases literalValue_denotes hvalue hlen with ⟨v, hv, hdenotes⟩
      refine ⟨some v, ?_, by simp, ?_⟩
      · simp [Grammar.value, hvalue, hg.literal?_text hname hvalue, hlit, hv]
      · intro literal' hlit'
        rw [hlit] at hlit'
        cases hlit'
        exact ⟨v, rfl, hdenotes⟩
  | false =>
      refine ⟨none, by simp [Grammar.value, hvalue], fun _ => rfl, ?_⟩
      intro literal hlit
      simp [literal?_flag hname hvalue] at hlit

end Grammar.Separable

/-- Reading a written name finds the kinds that were written, in the order of the grammar, and no
others; a kind with a number carries what its first literal denotes, and a flag carries nothing. -/
theorem attributes_written {g : Grammar} {mark : Char} (hg : g.Separable mark) {name : WrittenName}
    (hname : name.Fits g mark) :
    ∃ found, g.attributes (name.text g) = .ok found ∧
      found.tokens.map (·.1) = g.kinds.filter (· ∈ name.kinds) ∧
      (∀ kind, found.contains kind = true ↔ kind ∈ name.kinds) ∧
      (∀ kind, g.has (name.text g) kind = true ↔ kind ∈ name.kinds) ∧
      ∀ kind v?, (kind, v?) ∈ found.tokens →
        (kind.hasValue = false → v? = none) ∧
        (kind.hasValue = true → ∃ literal v, name.literal? kind = some literal ∧ v? = some v ∧
          Denotes kind literal v) := by
  have hhas := hg.has_text_iff hname
  have hread : ∀ kind ∈ g.kinds.filter (g.has (name.text g)), ∃ token,
      (do return (kind, ← g.value (name.text g) kind) : Except Fault _) = .ok token ∧
        token.1 = kind ∧ (kind.hasValue = false → token.2 = none) ∧
        (kind.hasValue = true → ∃ literal v, name.literal? kind = some literal ∧
          token.2 = some v ∧ Denotes kind literal v) := by
    intro kind hkind
    have hwritten : kind ∈ name.kinds := (hhas kind).1 (List.mem_filter.1 hkind).2
    rcases hg.value_text hname hwritten with ⟨v?, hv, hflag, hnumber⟩
    refine ⟨(kind, v?), bind_eq_ok_iff.2 ⟨v?, hv, rfl⟩, rfl, hflag, ?_⟩
    intro hvalue
    rcases Grammar.Separable.exists_literal hname hvalue hwritten with ⟨literal, -, -, hlit, -⟩
    rcases hnumber literal hlit with ⟨v, hsome, hdenotes⟩
    exact ⟨literal, v, hlit, hsome, hdenotes⟩
  -- every kind that is found can be read, so the tokens are those of the kinds, in their order
  rcases exists_mapM_ok hread with ⟨tokens, htokens, hall⟩
  have hkinds : tokens.map (·.1) = g.kinds.filter (g.has (name.text g)) := by
    rw [eq_comm, ← List.forall₂_eq_eq_eq, List.forall₂_map_right_iff]
    exact hall.imp fun _ _ h => h.1.symm
  have hfilter : g.kinds.filter (g.has (name.text g)) = g.kinds.filter (· ∈ name.kinds) := by
    apply List.filter_congr
    intro kind _
    rw [Bool.eq_iff_iff, hhas kind, decide_eq_true_eq]
  refine ⟨{ tokens }, bind_eq_ok_iff.2 ⟨tokens, htokens, rfl⟩, hkinds.trans hfilter, ?_, hhas, ?_⟩
  · intro kind
    have hmem : kind ∈ tokens.map (·.1) ↔ kind ∈ name.kinds := by
      rw [hkinds, List.mem_filter, hhas kind]
      constructor
      · exact fun h => h.2
      · exact fun h => ⟨Grammar.Separable.mem_kinds_of_written hname h, h⟩
    rw [← hmem, NodeAttributes.contains, List.any_eq_true, List.mem_map]
    simp
  · intro kind v? hmem
    rcases exists_of_mem_results hall hmem with ⟨_, -, rfl, hflag, hnumber⟩
    exact ⟨hflag, hnumber⟩

/-- The markers of the default grammar can be told apart. -/
theorem separable_default : Grammar.default.Separable '=' where
  indicator_eq := rfl
  mark_ne_start := by decide
  mark_ne_end := by decide
  kinds_nodup := by decide
  words_nodup := by decide +kernel
  mark_notMem := by decide +kernel
  start_notMem := by decide +kernel
  flag_not_prefix := by decide +kernel

/-- A name that asks twice for a layer, with keywords that contain one another and with free text that
goes on like a keyword. -/
def crowdedName : WrittenName where
  front := "RockCol".toList
  segments := [
    .flag .noCollision "Mask_".toList,
    .valued .collisionMask "0x1".toList "Col".toList,
    .valued .collisionLayer "007".toList [],
    .flag .collisionOnly [],
    .valued .collisionLayer "9".toList "\x7b1\x7d".toList]

theorem attributes_written_crowdedName :
    Grammar.default.Separable '=' ∧ crowdedName.Fits Grammar.default '=' ∧
      ∃ found, Grammar.default.attributes (crowdedName.text Grammar.default) = .ok found ∧
        found.tokens.map (·.1) = [.noCollision, .collisionLayer, .collisionMask, .collisionOnly] := by
  have hfits : crowdedName.Fits Grammar.default '=' := ⟨by decide +kernel, by decide +kernel⟩
  rcases attributes_written separable_default hfits with ⟨found, hfound, hkinds, -⟩
  refine ⟨separable_default, hfits, found, hfound, ?_⟩
  rw [hkinds]
  decide +kernel

end LevelPrep
