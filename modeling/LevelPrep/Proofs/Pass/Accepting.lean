import LevelPrep.Pass.Order
import LevelPrep.Proofs.Outcome
import Mathlib.Data.List.Induction
import Mathlib.Data.List.Nodup

/-!
# Lists of passes that are accepted

After any calls that register passes, a name stands for the class that was registered last under it
(`get?_ofCalls`).  A list of names is gone through from front to back, and each name either fits behind those before
it or offends, in exactly one of three ways (`buildFrom_of_fits`, `buildFrom_of_offends`).  So a list is accepted
exactly if it is `Legal`, and otherwise the first name that offends is reported (`legal_orders_build`).
-/

namespace LevelPrep

/-- A list that ends in an item is split at that item, or at one before it. -/
theorem of_concat_eq_split {α : Type} {front earlier later : List α} {last x : α}
    (h : front ++ [last] = earlier ++ x :: later) :
    (front = earlier ∧ last = x ∧ later = []) ∨
      ∃ between, front = earlier ++ x :: between ∧ later = between ++ [last] := by
  rcases List.eq_nil_or_concat later with rfl | ⟨between, other, rfl⟩
  · rcases List.append_inj' h rfl with ⟨hfront, hlast⟩
    exact Or.inl ⟨hfront, List.singleton_inj.1 hlast, rfl⟩
  · rw [List.concat_eq_append, ← List.cons_append, ← List.append_assoc] at h
    rcases List.append_inj' h rfl with ⟨hfront, hlast⟩
    exact Or.inr ⟨between, hfront, by rw [List.concat_eq_append, hlast]⟩

namespace PassRegistry

/-! ## Calls that register passes -/

/-- The registry after calls that register passes, starting from an empty one; a call that fails changes nothing. -/
def ofCalls (calls : List PassClass) : PassRegistry :=
  calls.foldl (fun r pass => (r.add pass).toOption.getD r) {}

/-- The class that was registered last under a name.  Nothing is registered under the empty name. -/
def RegisteredLast (calls : List PassClass) (word : String) (pass : PassClass) : Prop :=
  word ≠ "" ∧ ∃ earlier later, calls = earlier ++ pass :: later ∧ pass.name = .str word ∧
    ∀ other ∈ later, other.name ≠ .str word

theorem RegisteredLast.mem {calls : List PassClass} {word : String} {pass : PassClass}
    (h : RegisteredLast calls word pass) : pass ∈ calls := by
  rcases h.2 with ⟨earlier, later, rfl, -⟩
  simp

/-- One more call replaces the class of its own name. -/
theorem registeredLast_concat {calls : List PassClass} {last pass : PassClass} {word : String} :
    RegisteredLast (calls ++ [last]) word pass ↔
      (word ≠ "" ∧ last.name = .str word ∧ pass = last) ∨ last.name ≠ .str word ∧ RegisteredLast calls word pass := by
  constructor
  · rintro ⟨hword, earlier, later, hsplit, hname, hlater⟩
    rcases of_concat_eq_split hsplit with ⟨-, rfl, -⟩ | ⟨between, hcalls, rfl⟩
    · exact Or.inl ⟨hword, hname, rfl⟩
    · exact Or.inr ⟨hlater last (by simp), hword, earlier, between, hcalls, hname,
        fun other hin => hlater other (List.mem_append_left _ hin)⟩
  · rintro (⟨hword, hname, rfl⟩ | ⟨hlast, hword, earlier, later, rfl, hname, hlater⟩)
    · exact ⟨hword, calls, [], rfl, hname, by simp⟩
    · refine ⟨hword, earlier, later ++ [last], by simp, hname, fun other hother => ?_⟩
      rcases List.mem_append.1 hother with hin | hin
      · exact hlater other hin
      · rw [List.mem_singleton.1 hin]
        exact hlast

/-- A call registers a pass that has a name which may be a key, and fails otherwise. -/
theorem cases_of_add (r : PassRegistry) (last : PassClass) :
    (last.name.isSet = true ∧ r.add last = .ok (r.register last.name last)) ∨
      (∃ fault, r.add last = .error fault) ∧ (last.name.isSet = false ∨ last.name.isKey = false) := by
  unfold add Json.checkKey
  cases last.name.isSet with
  | false => exact Or.inr ⟨⟨_, rfl⟩, Or.inl rfl⟩
  | true =>
      cases last.name.isKey with
      | false => exact Or.inr ⟨⟨_, rfl⟩, Or.inr rfl⟩
      | true => exact Or.inl ⟨rfl, rfl⟩

/-- A name stands for the class that was registered last under it, and for nothing if there is none. -/
theorem get?_ofCalls (calls : List PassClass) (word : String) (pass : PassClass) :
    (ofCalls calls).get? (.str word) = some pass ↔ RegisteredLast calls word pass := by
  induction calls using List.reverseRecOn with
  | nil =>
      refine ⟨nofun, ?_⟩
      rintro ⟨-, earlier, later, hsplit, -⟩
      simp at hsplit
  | append_singleton calls last ih =>
      have hstep : ofCalls (calls ++ [last]) = ((ofCalls calls).add last).toOption.getD (ofCalls calls) := by
        rw [ofCalls, List.foldl_append]
        rfl
      rw [hstep, registeredLast_concat, ← ih]
      rcases cases_of_add (ofCalls calls) last with ⟨hset, hadd⟩ | ⟨⟨fault, hadd⟩, hrefused⟩
      · rw [hadd]
        show ((ofCalls calls).register last.name last).get? (.str word) = some pass ↔ _
        by_cases hname : last.name = .str word
        · have hword : word ≠ "" := by simpa [hname, Json.isSet] using hset
          rw [hname, Registry.get?_register_self]
          simp [hword, eq_comm]
        · rw [Registry.get?_register_of_ne hname]
          simp [hname, Registry.get?]
      · rw [hadd]
        show (ofCalls calls).get? (.str word) = some pass ↔ _
        by_cases hname : last.name = .str word
        · -- the only text that is refused is the empty one, which stands for nothing
          have hword : word = "" := by simpa [hname, Json.isSet, Json.isKey] using hrefused
          rw [ih]
          constructor
          · exact fun h => absurd hword h.1
          · rintro (⟨hne, -⟩ | ⟨hne, -⟩)
            · exact absurd hword hne
            · exact absurd hname hne
        · simp [hname]

theorem RegisteredLast.unique {calls : List PassClass} {word : String} {pass pass' : PassClass}
    (h : RegisteredLast calls word pass) (h' : RegisteredLast calls word pass') : pass = pass' :=
  Option.some.inj (((get?_ofCalls calls word pass).2 h).symm.trans ((get?_ofCalls calls word pass').2 h'))

theorem find_of_registeredLast {calls : List PassClass} {word : String} {pass : PassClass}
    (h : RegisteredLast calls word pass) : (ofCalls calls).find (.str word) = .ok pass := by
  unfold find
  rw [(get?_ofCalls calls word pass).2 h]
  rfl

theorem find_of_not_registered {calls : List PassClass} {word : String}
    (h : ∀ pass, ¬ RegisteredLast calls word pass) :
    (ofCalls calls).find (.str word) = .error (.unknownPass word (ofCalls calls).shownNames) := by
  have hnone : (ofCalls calls).get? (.str word) = none :=
    Option.eq_none_iff_forall_ne_some.2 fun pass hpass => h pass ((get?_ofCalls calls word pass).1 hpass)
  unfold find
  rw [hnone]
  rfl

/-! ## Requirements -/

/-- The texts among some values. -/
def textsOf (items : List Json) : List String :=
  items.filterMap fun
    | .str word => some word
    | _ => none

end PassRegistry

/-- The texts among the names that a pass requires; nothing else can be in a list of texts. -/
def PassClass.requiredWords (pass : PassClass) : List String :=
  match pass.requires with
  | .arr items => PassRegistry.textsOf items
  | _ => []

namespace PassRegistry

/-- What a pass requires of a list that does not stand before it there. -/
def missedWords (words before : List String) (pass : PassClass) : List String :=
  pass.requiredWords.filter fun other => decide (other ∈ words ∧ other ∉ before)

theorem contains_map_str {words : List String} {word : String} :
    (words.map Json.str).contains (.str word) = true ↔ word ∈ words := by
  rw [List.contains_eq_any_beq, List.any_eq_true]
  constructor
  · rintro ⟨value, hvalue, heq⟩
    rcases List.mem_map.1 hvalue with ⟨other, hother, rfl⟩
    rwa [Json.str.inj ((Json.str_beq_iff _ word).1 heq)] at hother
  · intro hword
    exact ⟨_, List.mem_map_of_mem hword, (Json.str_beq_iff _ word).2 rfl⟩

theorem contains_seen (before : List String) (word : String) :
    (before.reverse.map Json.str).contains (.str word) = decide (word ∈ before) := by
  rw [Bool.eq_iff_iff, contains_map_str, List.mem_reverse, decide_eq_true_iff]

/-- A required value is missed if it is a text of the list that is not among the names before. -/
def isMissed (words before : List String) : Json → Bool
  | .str other => decide (other ∈ words ∧ other ∉ before)
  | _ => false

/-- What is looked up about a required value. -/
theorem answer_eq_isMissed (words before : List String) (item : Json) :
    (do if ← item.standsIn (.arr (words.map .str)) then
          item.checkKey
          return !(before.reverse.map Json.str).contains item
        else return false : Except Fault Bool) = .ok (isMissed words before item) := by
  rw [show item.standsIn (.arr (words.map .str)) = .ok ((words.map Json.str).any (· == item)) from rfl, ok_bind]
  -- only a value that is listed can be missed, and whatever is listed is a text
  cases hlisted : (words.map Json.str).any (· == item) with
  | true =>
      rcases List.any_eq_true.1 hlisted with ⟨value, hvalue, heq⟩
      rcases List.mem_map.1 hvalue with ⟨other, hother, rfl⟩
      rw [(Json.str_beq_iff item other).1 heq]
      show Except.ok (!(before.reverse.map Json.str).contains (.str other)) = _
      rw [contains_seen]
      simp [isMissed, hother]
  | false =>
      cases item with
      | str other =>
          have hnot : other ∉ words := by
            intro hin
            rw [List.any_eq_false] at hlisted
            exact hlisted _ (List.mem_map_of_mem hin) ((Json.beq_str_iff _ other).2 rfl)
          have hkept : isMissed words before (.str other) = false := by simp [isMissed, hnot]
          rw [hkept]
          rfl
      | _ => rfl

theorem filter_isMissed (words before : List String) (items : List Json) :
    items.filter (isMissed words before) =
      ((textsOf items).filter fun other => decide (other ∈ words ∧ other ∉ before)).map .str := by
  induction items with
  | nil => rfl
  | cons item rest ih =>
      cases item with
      | str other =>
          have htexts : textsOf (.str other :: rest) = other :: textsOf rest := rfl
          rw [htexts, List.filter_cons, List.filter_cons, ih]
          show (if decide (other ∈ words ∧ other ∉ before) = true then _ else _) = _
          split_ifs <;> rfl
      | _ => exact ih

/-- What is missing from the names that were seen, if a list of texts is asked for. -/
theorem missing_eq (words before : List String) (items : List Json) :
    missing (.arr (words.map .str)) (before.reverse.map .str) items =
      .ok (((textsOf items).filter fun other => decide (other ∈ words ∧ other ∉ before)).map .str) := by
  rcases exists_filterM_ok_iff.2 fun item (_ : item ∈ items) => ⟨_, answer_eq_isMissed words before item⟩ with
    ⟨kept, hkept⟩
  have hpicked : kept = items.filter (isMissed words before) := by
    rw [eq_filter_of_filterM hkept]
    simp only [answer_eq_isMissed, Except.toOption]
    exact List.filter_congr fun item _ => by cases isMissed words before item <;> rfl
  rw [← filter_isMissed, ← hpicked]
  exact hkept

/-! ## Names behind other names -/

/-- A name of a list that can stand where it does: it is not among the names before it, it stands for a class, and
what this one requires of the list is before it. -/
structure Fits (calls : List PassClass) (words before : List String) (word : String) (pass : PassClass) : Prop where
  fresh : word ∉ before
  registered : RegisteredLast calls word pass
  ready : ∀ other ∈ pass.requiredWords, other ∈ words → other ∈ before

/-- A name of a list that cannot stand where it does, with what is wrong: it was listed before, or else it stands for
no class, or else its class requires names of the list that are not before it. -/
inductive Offends (calls : List PassClass) (words before : List String) (word : String) : Fault → Prop
  | repeated (h : word ∈ before) : Offends calls words before word (.repeatedPass word)
  | unknown (hfresh : word ∉ before) (h : ∀ pass, ¬ RegisteredLast calls word pass) :
      Offends calls words before word (.unknownPass word (ofCalls calls).shownNames)
  | early {pass : PassClass} (hfresh : word ∉ before) (hregistered : RegisteredLast calls word pass)
      (h : missedWords words before pass ≠ []) :
      Offends calls words before word (.passTooEarly word
        (Json.arr ((missedWords words before pass).map .str)).quoted (Json.arr (words.map .str)).display)

variable {calls : List PassClass} {words before rest : List String} {word : String} {pass : PassClass} {fault : Fault}

theorem missedWords_eq_nil_iff : missedWords words before pass = [] ↔
    ∀ other ∈ pass.requiredWords, other ∈ words → other ∈ before := by
  rw [missedWords, List.filter_eq_nil_iff]
  simp

/-- Every name fits or offends. -/
theorem fits_or_offends (calls : List PassClass) (words before : List String) (word : String) :
    (∃ pass, Fits calls words before word pass) ∨ ∃ fault, Offends calls words before word fault := by
  by_cases hfresh : word ∈ before
  · exact Or.inr ⟨_, .repeated hfresh⟩
  by_cases hknown : ∃ pass, RegisteredLast calls word pass
  · rcases hknown with ⟨pass, hpass⟩
    by_cases hmissed : missedWords words before pass = []
    · exact Or.inl ⟨pass, hfresh, hpass, missedWords_eq_nil_iff.1 hmissed⟩
    · exact Or.inr ⟨_, .early hfresh hpass hmissed⟩
  · exact Or.inr ⟨_, .unknown hfresh (not_exists.1 hknown)⟩

/-- No name does both. -/
theorem Fits.not_offends (h : Fits calls words before word pass) : ¬ Offends calls words before word fault := by
  intro hoffends
  cases hoffends with
  | repeated hin => exact h.fresh hin
  | unknown _ hnone => exact hnone pass h.registered
  | early _ hregistered hmissed =>
      cases hregistered.unique h.registered
      exact hmissed (missedWords_eq_nil_iff.2 h.ready)

/-- Only one thing is wrong with a name. -/
theorem Offends.unique {fault' : Fault} (h : Offends calls words before word fault)
    (h' : Offends calls words before word fault') : fault = fault' := by
  cases h with
  | repeated hin =>
      cases h' with
      | repeated => rfl
      | unknown hfresh => exact absurd hin hfresh
      | early hfresh => exact absurd hin hfresh
  | unknown hfresh hnone =>
      cases h' with
      | repeated hin => exact absurd hin hfresh
      | unknown => rfl
      | early _ hregistered => exact absurd hregistered (hnone _)
  | early hfresh hregistered hmissed =>
      cases h' with
      | repeated hin => exact absurd hin hfresh
      | unknown _ hnone => exact absurd hregistered (hnone _)
      | early _ hregistered' =>
          cases hregistered.unique hregistered'
          rfl

/-! ## One name after another -/

/-- The names that were seen, the last one first. -/
theorem map_str_reverse_concat (before : List String) (word : String) :
    (before ++ [word]).reverse.map Json.str = .str word :: before.reverse.map .str := by
  simp

theorem members_requires (hcalls : ∀ pass ∈ calls, ∃ items, pass.requires = .arr items)
    (hpass : RegisteredLast calls word pass) :
    ∃ items, pass.requires.members = .ok items ∧ pass.requiredWords = textsOf items := by
  rcases hcalls pass hpass.mem with ⟨items, hitems⟩
  exact ⟨items, by rw [hitems]; rfl, by rw [PassClass.requiredWords, hitems]⟩

theorem checkKey_str (word : String) : (Json.str word).checkKey = .ok () :=
  rfl

/-- A new name that stands for a class is taken if nothing is missing, and the rest is gone through behind it. -/
theorem buildFrom_of_registered (hcalls : ∀ pass ∈ calls, ∃ items, pass.requires = .arr items)
    (hfresh : word ∉ before) (hregistered : RegisteredLast calls word pass) :
    (ofCalls calls).buildFrom (.arr (words.map .str)) (before.reverse.map .str) (.str word :: rest.map .str) =
      if missedWords words before pass = [] then
        ((ofCalls calls).buildFrom (.arr (words.map .str)) ((before ++ [word]).reverse.map .str)
          (rest.map .str)).map (pass :: ·)
      else .error (.passTooEarly word (Json.arr ((missedWords words before pass).map .str)).quoted
        (Json.arr (words.map .str)).display) := by
  rcases members_requires hcalls hregistered with ⟨items, hmembers, hwords⟩
  have hmissing : missing (.arr (words.map .str)) (before.reverse.map .str) items =
      .ok ((missedWords words before pass).map .str) := by
    rw [missing_eq, missedWords, hwords]
  rw [buildFrom]
  simp only [checkKey_str, ok_bind, contains_seen, hfresh, decide_false, Bool.false_eq_true, if_false,
    find_of_registeredLast hregistered, hmembers, hmissing, map_str_reverse_concat]
  cases hmissed : missedWords words before pass with
  | nil =>
      rw [if_pos rfl]
      cases (ofCalls calls).buildFrom (.arr (words.map .str)) (.str word :: before.reverse.map .str)
        (rest.map .str) <;> rfl
  | cons other others =>
      rw [if_neg (List.cons_ne_nil other others)]
      rfl

/-- A name that fits is taken. -/
theorem buildFrom_of_fits (hcalls : ∀ pass ∈ calls, ∃ items, pass.requires = .arr items)
    (h : Fits calls words before word pass) :
    (ofCalls calls).buildFrom (.arr (words.map .str)) (before.reverse.map .str) (.str word :: rest.map .str) =
      ((ofCalls calls).buildFrom (.arr (words.map .str)) ((before ++ [word]).reverse.map .str)
        (rest.map .str)).map (pass :: ·) := by
  rw [buildFrom_of_registered hcalls h.fresh h.registered, if_pos (missedWords_eq_nil_iff.2 h.ready)]

/-- A name that offends is reported, whatever comes behind it. -/
theorem buildFrom_of_offends (hcalls : ∀ pass ∈ calls, ∃ items, pass.requires = .arr items)
    (h : Offends calls words before word fault) :
    (ofCalls calls).buildFrom (.arr (words.map .str)) (before.reverse.map .str) (.str word :: rest.map .str) =
      .error fault := by
  cases h with
  | repeated hin =>
      rw [buildFrom]
      simp only [checkKey_str, ok_bind, contains_seen, hin, decide_true, if_true]
      rfl
  | unknown hfresh hnone =>
      rw [buildFrom]
      simp only [checkKey_str, ok_bind, contains_seen, hfresh, decide_false, Bool.false_eq_true, if_false,
        find_of_not_registered hnone]
      rfl
  | early hfresh hregistered hmissed => rw [buildFrom_of_registered hcalls hfresh hregistered, if_neg hmissed]

/-! ## Whole lists -/

/-- Every name of a list up to some place fits where it stands. -/
def AllFit (calls : List PassClass) (words done : List String) : Prop :=
  ∀ before word after, done = before ++ word :: after → ∃ pass, Fits calls words before word pass

theorem AllFit.nil : AllFit calls words [] := by
  intro before word after hsplit
  simp at hsplit

theorem AllFit.snoc (h : AllFit calls words before) (hfits : Fits calls words before word pass) :
    AllFit calls words (before ++ [word]) := by
  intro earlier other later hsplit
  rcases of_concat_eq_split hsplit with ⟨rfl, rfl, -⟩ | ⟨between, hbefore, -⟩
  · exact ⟨pass, hfits⟩
  · exact h earlier other between hbefore

/-- The first name of a list that offends. -/
structure FirstOffence (calls : List PassClass) (words before : List String) (word : String) (after : List String)
    (fault : Fault) : Prop where
  split : words = before ++ word :: after
  offends : Offends calls words before word fault
  first : ∀ earlier other later, before = earlier ++ other :: later →
    ∀ fault', ¬ Offends calls words earlier other fault'

/-- How going through the rest of a list ends, if the names before it fit: with a class for each name, all of which
fit, or with the fault of the first name that offends. -/
inductive Outcome (calls : List PassClass) (words rest : List String) : Except Fault (List PassClass) → Prop
  | accepted {classes : List PassClass} (hclasses : List.Forall₂ (RegisteredLast calls) rest classes)
      (hfit : AllFit calls words words) : Outcome calls words rest (.ok classes)
  | refused {before after : List String} {word : String} {fault : Fault}
      (h : FirstOffence calls words before word after fault) : Outcome calls words rest (.error fault)

theorem outcome_buildFrom (hcalls : ∀ pass ∈ calls, ∃ items, pass.requires = .arr items)
    (hwords : words = before ++ rest) (hbefore : AllFit calls words before) :
    Outcome calls words rest
      ((ofCalls calls).buildFrom (.arr (words.map .str)) (before.reverse.map .str) (rest.map .str)) := by
  -- what has been gone through stays in front, so that each name is asked about with all names before it
  induction rest generalizing before with
  | nil =>
      rw [List.append_nil] at hwords
      subst hwords
      exact .accepted .nil hbefore
  | cons word rest ih =>
      rw [List.map_cons]
      rcases fits_or_offends calls words before word with ⟨pass, hfits⟩ | ⟨fault, hoffends⟩
      · rw [buildFrom_of_fits hcalls hfits]
        have hrest := ih (show words = (before ++ [word]) ++ rest by simp [hwords]) (hbefore.snoc hfits)
        generalize (ofCalls calls).buildFrom (.arr (words.map .str)) ((before ++ [word]).reverse.map .str)
          (rest.map .str) = outcome at hrest ⊢
        cases hrest with
        | accepted hclasses hfit => exact .accepted (.cons hfits.registered hclasses) hfit
        | refused hfirst => exact .refused hfirst
      · rw [buildFrom_of_offends hcalls hoffends]
        refine .refused ⟨hwords, hoffends, fun earlier other later hsplit fault' => ?_⟩
        rcases hbefore earlier other later hsplit with ⟨pass, hfits⟩
        exact hfits.not_offends

/-- A list has no name twice if none is among the names before it. -/
theorem nodup_iff_fresh : words.Nodup ↔ ∀ before word after, words = before ++ word :: after → word ∉ before := by
  induction words using List.reverseRecOn with
  | nil => simp
  | append_singleton words last ih =>
      rw [List.nodup_append, ih]
      constructor
      · rintro ⟨hfresh, -, hlast⟩ before word after hsplit hin
        rcases of_concat_eq_split hsplit with ⟨rfl, rfl, -⟩ | ⟨between, hwords, -⟩
        · exact hlast last hin last (List.mem_singleton.2 rfl) rfl
        · exact hfresh before word between hwords hin
      · intro h
        refine ⟨fun before word after hsplit => h before word (after ++ [last]) (by simp [hsplit]), by simp, ?_⟩
        rintro word hword _ hlast rfl
        rw [List.mem_singleton] at hlast
        subst hlast
        exact h words word [] rfl hword

/-- A list that may be run: every name stands for a class, none comes twice, and where a class requires a name of the
list, this comes at an earlier place. -/
structure Legal (calls : List PassClass) (words : List String) : Prop where
  known : ∀ word ∈ words, ∃ pass, RegisteredLast calls word pass
  once : words.Nodup
  ordered : ∀ before word after pass, words = before ++ word :: after → RegisteredLast calls word pass →
    ∀ other ∈ pass.requiredWords, other ∈ words → other ∈ before

/-- Lists that may be run are those all of whose names fit. -/
theorem legal_iff : Legal calls words ↔ AllFit calls words words := by
  constructor
  · intro h before word after hsplit
    rcases h.known word (by simp [hsplit]) with ⟨pass, hpass⟩
    exact ⟨pass, nodup_iff_fresh.1 h.once before word after hsplit, hpass,
      h.ordered before word after pass hsplit hpass⟩
  · intro h
    refine ⟨fun word hword => ?_, nodup_iff_fresh.2 fun before word after hsplit => ?_, ?_⟩
    · rcases List.append_of_mem hword with ⟨before, after, hsplit⟩
      rcases h before word after hsplit with ⟨pass, hfits⟩
      exact ⟨pass, hfits.registered⟩
    · rcases h before word after hsplit with ⟨pass, hfits⟩
      exact hfits.fresh
    · intro before word after pass hsplit hpass
      rcases h before word after hsplit with ⟨pass', hfits⟩
      cases hpass.unique hfits.registered
      exact hfits.ready

/-- In a list that may be run nothing offends. -/
theorem FirstOffence.not_allFit {after : List String} (h : FirstOffence calls words before word after fault) :
    ¬ AllFit calls words words := by
  intro hfit
  rcases hfit before word after h.split with ⟨pass, hfits⟩
  exact hfits.not_offends h.offends

/-- Nothing offends before the first offence. -/
theorem FirstOffence.eq_of_append {after before' after' between : List String} {word' : String} {fault' : Fault}
    (h : FirstOffence calls words before word after fault)
    (h' : FirstOffence calls words before' word' after' fault') (hbefore : before' = before ++ between)
    (hword : word :: after = between ++ word' :: after') : fault = fault' := by
  cases between with
  | nil =>
      cases hword
      rw [List.append_nil] at hbefore
      cases hbefore
      exact h.offends.unique h'.offends
  | cons other later =>
      cases hword
      exact absurd h.offends (h'.first before word later hbefore fault)

/-- There is one first offence. -/
theorem FirstOffence.unique {after before' after' : List String} {word' : String} {fault' : Fault}
    (h : FirstOffence calls words before word after fault)
    (h' : FirstOffence calls words before' word' after' fault') : fault = fault' := by
  rcases List.append_eq_append_iff.1 (h.split.symm.trans h'.split) with
    ⟨between, hbefore, hword⟩ | ⟨between, hbefore, hword⟩
  · exact h.eq_of_append h' hbefore hword
  · exact (h'.eq_of_append h hbefore hword).symm

/-- The outcome for a whole list. -/
theorem outcome_build (hcalls : ∀ pass ∈ calls, ∃ items, pass.requires = .arr items) (words : List String) :
    Outcome calls words words ((ofCalls calls).build (.arr (words.map .str))) :=
  outcome_buildFrom hcalls (List.nil_append words).symm .nil

/-- After any calls that register passes, a list of names is accepted exactly if it is legal: it then gives one class
for each name, the one that was registered last under it.  Otherwise the fault is that of the first name that offends.
A list with a pass that requires itself is not accepted. -/
theorem legal_orders_build (calls : List PassClass) (hcalls : ∀ pass ∈ calls, ∃ items, pass.requires = .arr items)
    (words : List String) :
    ((∃ classes, (ofCalls calls).build (.arr (words.map .str)) = .ok classes) ↔ Legal calls words) ∧
      (∀ classes, (ofCalls calls).build (.arr (words.map .str)) = .ok classes →
        List.Forall₂ (RegisteredLast calls) words classes) ∧
      (∀ fault, (ofCalls calls).build (.arr (words.map .str)) = .error fault ↔
        ∃ before word after, FirstOffence calls words before word after fault) ∧
      ∀ word ∈ words, ∀ pass, RegisteredLast calls word pass → word ∈ pass.requiredWords →
        ∃ fault, (ofCalls calls).build (.arr (words.map .str)) = .error fault := by
  have houtcome := outcome_build hcalls words
  generalize (ofCalls calls).build (.arr (words.map .str)) = outcome at houtcome ⊢
  cases houtcome with
  | @accepted classes hclasses hfit =>
      have hlegal := legal_iff.2 hfit
      refine ⟨⟨fun _ => hlegal, fun _ => ⟨classes, rfl⟩⟩, ?_, fun fault => ⟨nofun, ?_⟩,
        fun word hword pass hpass hself => ?_⟩
      · rintro _ ⟨⟩
        exact hclasses
      · rintro ⟨before, word, after, hfirst⟩
        exact absurd hfit hfirst.not_allFit
      · -- where the pass comes for the first time, it is not before itself
        rcases List.eq_append_cons_of_mem hword with ⟨before, after, hsplit, hfresh⟩
        exact absurd (hlegal.ordered before word after pass hsplit hpass word hself hword) hfresh
  | @refused before after word fault hfirst =>
      refine ⟨⟨nofun, fun hlegal => absurd (legal_iff.1 hlegal) hfirst.not_allFit⟩, nofun, fun fault' => ?_,
        fun _ _ _ _ _ => ⟨fault, rfl⟩⟩
      constructor
      · rintro ⟨⟩
        exact ⟨before, word, after, hfirst⟩
      · rintro ⟨before', word', after', hfirst'⟩
        rw [hfirst.unique hfirst']

/-- The passes of this library are registered by such calls. -/
example : ofCalls (PassKind.all.map PassKind.toClass) = builtin :=
  rfl

/-- Calls of which one registers a name again and two are refused; the last pass requires itself. -/
def workshopCalls : List PassClass := [
  { title := "CutPass", name := .str "cut" },
  { title := "PaintPass", name := .str "paint", requires := .arr [.str "sand", .int 1] },
  { title := "NamelessPass" },
  { title := "ListPass", name := .arr [.str "cut"] },
  { title := "SawPass", name := .str "cut", requires := .arr [.str "paint"] },
  { title := "LoopPass", name := .str "loop", requires := .arr [.str "loop"] }]

/-- The class that has taken the place of another is the one whose requirements count. -/
theorem legal_orders_build_workshop :
    (∀ pass ∈ workshopCalls, ∃ items, pass.requires = .arr items) ∧ Legal workshopCalls ["paint", "cut"] ∧
      (∃ before word after, FirstOffence workshopCalls ["cut", "paint"] before word after
        (.passTooEarly "cut" "['paint']" "['cut', 'paint']")) ∧
      ∃ fault, (ofCalls workshopCalls).build (.arr (["paint", "loop"].map .str)) = .error fault := by
  have hcalls : ∀ pass ∈ workshopCalls, ∃ items, pass.requires = .arr items := by
    intro pass hpass
    simp only [workshopCalls, List.mem_cons, List.not_mem_nil, or_false] at hpass
    rcases hpass with rfl | rfl | rfl | rfl | rfl | rfl <;> exact ⟨_, rfl⟩
  have hloop : RegisteredLast workshopCalls "loop"
      { title := "LoopPass", name := .str "loop", requires := .arr [.str "loop"] } :=
    (get?_ofCalls workshopCalls "loop" _).1 rfl
  rcases legal_orders_build workshopCalls hcalls ["paint", "cut"] with ⟨hlegal, -⟩
  rcases legal_orders_build workshopCalls hcalls ["cut", "paint"] with ⟨-, -, hrefused, -⟩
  rcases legal_orders_build workshopCalls hcalls ["paint", "loop"] with ⟨-, -, -, hself⟩
  exact ⟨hcalls, hlegal.1 ⟨_, rfl⟩, (hrefused _).1 rfl, hself "loop" (by simp) _ hloop (by decide)⟩

end PassRegistry

end LevelPrep
