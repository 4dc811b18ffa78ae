import LevelPrep.Level.Conversion
import LevelPrep.Proofs.Outcome
import Mathlib.Data.List.Perm.Basic

/-!
# Orders that are accepted

A list of names is accepted if it names passes, none of them twice, and if no pass stands before one that it
requires (`of_build`).  Where lightmaps are made, this puts the passes into four stages (`pairwise_stage`).
-/

namespace LevelPrep

namespace PassRegistry

theorem entries_builtin :
    builtin.entries = PassKind.all.map fun kind => (Json.str kind.word, kind.toClass) :=
  rfl

/-- Only the words of passes find one. -/
theorem exists_of_find {name : Json} {pass : PassClass} (h : builtin.find name = .ok pass) :
    ∃ kind : PassKind, name = .str kind.word ∧ pass = kind.toClass := by
  rcases bind_eq_ok_iff.1 h with ⟨⟨⟩, -, hfound⟩
  -- the registry has an entry for each pass under its word, and no other
  have hlookup : ∀ kinds : List PassKind,
      (kinds.map fun kind => (Json.str kind.word, kind.toClass)).lookup name = some pass →
        ∃ kind : PassKind, name = .str kind.word ∧ pass = kind.toClass := by
    intro kinds
    induction kinds with
    | nil => exact nofun
    | cons kind rest ih =>
        intro hkinds
        rw [List.map_cons, List.lookup_cons] at hkinds
        split at hkinds
        · next hname => exact ⟨kind, (Json.beq_str_iff name kind.word).1 hname, (Option.some.inj hkinds).symm⟩
        · exact ih hkinds
  cases hget : builtin.get? name with
  | none =>
      rw [hget] at hfound
      cases hfound
  | some found =>
      rw [hget] at hfound
      cases hfound
      refine hlookup PassKind.all ?_
      rwa [← entries_builtin]

/-- What is found for a pass that is not missed is required by none that was not seen. -/
theorem mem_seen_of_missing {all seen : List Json} {words : List String}
    (h : missing (.arr all) seen (words.map Json.str) = .ok []) {word : String} (hword : word ∈ words)
    (hlisted : Json.str word ∈ all) : Json.str word ∈ seen := by
  have hnone := eq_filter_of_filterM h
  have hfails := List.filter_eq_nil_iff.1 hnone.symm (.str word) (List.mem_map_of_mem hword)
  have hstands : all.any (· == Json.str word) = true :=
    List.any_eq_true.2 ⟨_, hlisted, (Json.beq_str_iff _ word).2 rfl⟩
  have hanswer : (do
      if ← (Json.str word).standsIn (.arr all) then
        (Json.str word).checkKey
        return !seen.contains (.str word)
      else return false : Except Fault Bool) = .ok (!seen.contains (.str word)) := by
    rw [show (Json.str word).standsIn (.arr all) = .ok true from congrArg Except.ok hstands]
    rfl
  rw [hanswer] at hfails
  have hseen : seen.contains (.str word) = true := by simpa [Except.toOption] using hfails
  rw [List.contains_eq_any_beq] at hseen
  rcases List.any_eq_true.1 hseen with ⟨name, hname, heq⟩
  rwa [(Json.str_beq_iff name word).1 heq] at hname

/-- The passes that are found for names after others that were seen. -/
theorem of_buildFrom {all seen names : List Json} {classes : List PassClass}
    (hall : ∀ name ∈ names, name ∈ all) (h : builtin.buildFrom (.arr all) seen names = .ok classes) :
    ∃ kinds : List PassKind, names = kinds.map (fun kind => .str kind.word) ∧
      classes = kinds.map PassKind.toClass ∧ (∀ kind ∈ kinds, Json.str kind.word ∉ seen) ∧ kinds.Nodup ∧
      kinds.Pairwise fun kind later => later ∉ kind.requires := by
  induction names generalizing seen classes with
  | nil =>
      cases h
      exact ⟨[], rfl, rfl, nofun, .nil, .nil⟩
  | cons name rest ih =>
      rcases List.forall_mem_cons.1 hall with ⟨-, hrest⟩
      rcases bind_eq_ok_iff.1 h with ⟨⟨⟩, -, h⟩
      split at h
      · cases h
      next hfresh =>
      rcases bind_eq_ok_iff.1 h with ⟨pass, hpass, h⟩
      rcases exists_of_find hpass with ⟨kind, rfl, rfl⟩
      rcases bind_eq_ok_iff.1 h with ⟨required, hrequired, h⟩
      rcases bind_eq_ok_iff.1 h with ⟨missed, hmissed, h⟩
      split at h
      · cases h
      next hempty =>
      rcases bind_eq_ok_iff.1 h with ⟨later, hlater, hlast⟩
      cases hlast
      rcases ih hrest hlater with ⟨kinds, rfl, rfl, hnew, hnodup, hordered⟩
      have hnone : missed = [] := by simpa using hempty
      subst hnone
      have hrequires : required = (kind.requires.map PassKind.word).map Json.str := by
        rw [List.map_map]
        exact (Except.ok.inj hrequired).symm
      rw [hrequires] at hmissed
      have hkept : ∀ other ∈ kinds, Json.str other.word ∉ seen ∧ other ≠ kind := by
        intro other hother
        have hnot := hnew other hother
        rw [List.mem_cons, not_or] at hnot
        exact ⟨hnot.2, fun hsame => hnot.1 (by rw [hsame])⟩
      refine ⟨kind :: kinds, rfl, rfl, ?_, ?_, ?_⟩
      · refine List.forall_mem_cons.2 ⟨fun hseen => hfresh ?_, fun other hother => (hkept other hother).1⟩
        rw [List.contains_eq_any_beq]
        exact List.any_eq_true.2 ⟨_, hseen, (Json.str_beq_iff _ kind.word).2 rfl⟩
      · exact List.nodup_cons.2 ⟨fun hin => (hkept kind hin).2 rfl, hnodup⟩
      · refine List.pairwise_cons.2 ⟨fun other hother hreq => ?_, hordered⟩
        -- a pass that is required and listed has been seen, so it does not come later
        have hlisted := hrest _ (List.mem_map_of_mem hother)
        exact (hkept other hother).1 (mem_seen_of_missing hmissed (List.mem_map_of_mem hreq) hlisted)

/-- What is accepted: names of passes, none of them twice, and no pass before one that it requires. -/
theorem of_build {names : List Json} {classes : List PassClass} (h : builtin.build (.arr names) = .ok classes) :
    ∃ kinds : List PassKind, names = kinds.map (fun kind => .str kind.word) ∧
      classes = kinds.map PassKind.toClass ∧ kinds.Nodup ∧
      kinds.Pairwise fun kind later => later ∉ kind.requires := by
  rcases of_buildFrom (fun _ hname => hname) h with ⟨kinds, hnames, hclasses, -, hnodup, hordered⟩
  exact ⟨kinds, hnames, hclasses, hnodup, hordered⟩

end PassRegistry

namespace PassKind

theorem word_injective : Function.Injective word := by
  intro kind other h
  cases kind <;> cases other <;> first | rfl | exact absurd h (by decide)

theorem ofName?_toClass (kind : PassKind) : ofName? kind.toClass.name = some kind := by
  cases kind <;> rfl

/-- When a pass comes, where lightmaps are made. -/
def stage : PassKind → Nat
  | collision => 0
  | renderRemoval => 1
  | lightmap => 2
  | shadow | renderLayer | material => 3

theorem stage_le_two_of_not_requires (kind : PassKind) (h : lightmap ∉ kind.requires) : kind.stage ≤ 2 := by
  cases kind <;> revert h <;> decide

theorem two_le_stage_of_not_required (kind : PassKind) (h : kind ∉ lightmap.requires) : 2 ≤ kind.stage := by
  cases kind <;> revert h <;> decide

/-- What a pass does not require is no earlier stage, unless the lightmap pass stands between them. -/
theorem stage_le_of_not_requires (kind later : PassKind) (h : later ∉ kind.requires)
    (hbetween : kind.stage ≤ 2 ∨ 2 ≤ later.stage) : kind.stage ≤ later.stage := by
  cases kind <;> cases later <;> revert h hbetween <;> decide

/-- Where lightmaps are made, what is accepted is in stages. -/
theorem pairwise_stage {kinds : List PassKind} (hordered : kinds.Pairwise fun kind later => later ∉ kind.requires)
    (hlightmap : .lightmap ∈ kinds) : kinds.Pairwise fun kind later => kind.stage ≤ later.stage := by
  rcases List.append_of_mem hlightmap with ⟨before, after, rfl⟩
  rcases List.pairwise_append.1 hordered with ⟨hbefore, hafter, hacross⟩
  rcases List.pairwise_cons.1 hafter with ⟨hnext, hafter⟩
  -- before the lightmap pass come only passes that do not require it, and after it none that it requires
  have hearly : ∀ kind ∈ before, kind.stage ≤ 2 := by
    intro kind hkind
    exact stage_le_two_of_not_requires kind (hacross kind hkind .lightmap List.mem_cons_self)
  have hlate : ∀ kind ∈ after, 2 ≤ kind.stage := by
    intro kind hkind
    exact two_le_stage_of_not_required kind (hnext kind hkind)
  refine List.pairwise_append.2 ⟨?_, List.pairwise_cons.2 ⟨hlate, ?_⟩, ?_⟩
  · refine hbefore.imp_of_mem fun {kind later} hkind _ hnot => ?_
    exact stage_le_of_not_requires kind later hnot (Or.inl (hearly kind hkind))
  · refine hafter.imp_of_mem fun {kind later} _ hlater hnot => ?_
    exact stage_le_of_not_requires kind later hnot (Or.inr (hlate later hlater))
  · intro kind hkind later hlater
    rcases List.mem_cons.1 hlater with rfl | hlater
    · exact hearly kind hkind
    · exact Nat.le_trans (hearly kind hkind) (hlate later hlater)

end PassKind

namespace LevelProcessor

variable {R : Type}

/-- What is known of a processor for settings that were found good. -/
structure Made (settings : ImportSettings) (tools : Tools R) (p : LevelProcessor R) : Prop where
  settings_eq : p.settings = settings
  tools_eq : p.tools = tools
  grammar : settings.grammar.grammar = .ok p.grammar
  names : settings.passes = p.passes.map fun kind => .str kind.word
  nodup : p.passes.Nodup
  ordered : p.passes.Pairwise fun kind later => later ∉ kind.requires

theorem made_of_ofSettings {settings : ImportSettings} {tools : Tools R} {p : LevelProcessor R}
    (h : ofSettings settings tools = .ok p) : Made settings tools p := by
  rcases bind_eq_ok_iff.1 h with ⟨grammar, hgrammar, h⟩
  rcases bind_eq_ok_iff.1 h with ⟨classes, hclasses, h⟩
  rcases bind_eq_ok_iff.1 h with ⟨_, -, hlast⟩
  cases hlast
  rcases PassRegistry.of_build hclasses with ⟨kinds, hnames, rfl, hnodup, hordered⟩
  have hkinds : (kinds.map PassKind.toClass).filterMap (fun pass => PassKind.ofName? pass.name) = kinds := by
    rw [List.filterMap_map, show ((fun pass : PassClass => PassKind.ofName? pass.name) ∘ PassKind.toClass) = some from
      funext PassKind.ofName?_toClass, List.filterMap_some]
  exact ⟨rfl, rfl, hgrammar, by rw [hkinds, hnames], by rwa [hkinds], by rwa [hkinds]⟩

/-- Processors for the same passes in another order have the same passes in another order. -/
theorem Made.perm {settings settings' : ImportSettings} {tools tools' : Tools R} {p p' : LevelProcessor R}
    (h : Made settings tools p) (h' : Made settings' tools' p') (hperm : settings'.passes.Perm settings.passes) :
    p'.passes.Perm p.passes := by
  rw [h.names, h'.names] at hperm
  have hinjective : Function.Injective fun kind : PassKind => Json.str kind.word :=
    fun _ _ hsame => PassKind.word_injective (Json.str.inj hsame)
  exact (List.map_perm_map_iff hinjective).1 hperm

end LevelProcessor

end LevelPrep
