import LevelPrep.Proofs.Level.Independence
import LevelPrep.Proofs.Pass.Commuting
import LevelPrep.Proofs.Pass.Exchanging

/-!
# Passes in another order

Passes may be listed in any order in which none stands before one that it requires, and the order makes no
difference to a conversion (`pass_order_irrelevant`).  With lightmaps this holds of the whole session
(`convert_eq_of_stages`), whatever the unwrapper does; without lightmaps the unwrapper is never asked, and what is
made of each child is the same (`LevelRules.image_eq_of_perm`).
-/

namespace LevelPrep

variable {R : Type}

open Work SceneGraph

/-! ## With lightmaps -/

/-- Two loops whose rounds leave the same sessions leave the same session. -/
theorem Work.eq_of_forM {α : Type} {f f' : α → Work R Unit} {items : List α} {s t t' : Session R}
    (hround : ∀ a ∈ items, ∀ s t t', (f a).runIn s = (.ok (), t) → (f' a).runIn s = (.ok (), t') → t = t')
    (h : (items.forM f).runIn s = (.ok (), t)) (h' : (items.forM f').runIn s = (.ok (), t')) : t = t' := by
  induction items generalizing s with
  | nil =>
      cases h
      cases h'
      rfl
  | cons a items ih =>
      rcases runIn_bind_eq_ok_iff.1 h with ⟨⟨⟩, between, hfirst, hrest⟩
      rcases runIn_bind_eq_ok_iff.1 h' with ⟨⟨⟩, between', hfirst', hrest'⟩
      cases hround a List.mem_cons_self s between between' hfirst hfirst'
      exact ih (fun b hb => hround b (List.mem_cons_of_mem a hb)) hrest hrest'

section

variable [Zero R] [One R] [Add R] [Mul R] {p : LevelProcessor R} {names : List Json} {passes : List PassKind}
  {scene : NodeId} {s t t' : Session R}

/-- The processor with its passes in another order. -/
def LevelProcessor.reordered (p : LevelProcessor R) (names : List Json) (passes : List PassKind) :
    LevelProcessor R :=
  { p with settings := { p.settings with passes := names }, passes := passes }

/-- Passes do not look at how passes are listed. -/
theorem PassKind.apply_reordered (kind : PassKind) (p : LevelProcessor R) (names : List Json)
    (passes : List PassKind) (scene root : NodeId) :
    kind.apply ((p.reordered names passes).context scene) root = kind.apply (p.context scene) root := by
  cases kind <;> rfl

/-- Where lightmaps are made, a conversion leaves the same session with its passes in another order. -/
theorem convert_eq_of_stages (hperm : p.passes.Perm passes) (hnodup : p.passes.Nodup)
    (hordered : p.passes.Pairwise fun kind later => later ∉ kind.requires)
    (hordered' : passes.Pairwise fun kind later => later ∉ kind.requires) (hlightmap : .lightmap ∈ p.passes)
    (h : (p.convert scene).runIn s = (.ok (), t))
    (h' : ((p.reordered names passes).convert scene).runIn s = (.ok (), t')) : t = t' := by
  -- up to the passes, both runs are the same
  rcases runIn_bind_eq_ok_iff.1 h with ⟨s₀, s₁, hsession, h⟩
  rcases runIn_bind_eq_ok_iff.1 h' with ⟨_, _, hsession', h'⟩
  cases hsession
  cases hsession'
  rcases runIn_bind_eq_ok_iff.1 h with ⟨shelf, s₂, hshelf, h⟩
  rcases runIn_bind_eq_ok_iff.1 h' with ⟨_, _, hshelf', h'⟩
  cases hshelf.symm.trans hshelf'
  rcases runIn_bind_eq_ok_iff.1 h with ⟨⟨⟩, s₃, hopen, h⟩
  rcases runIn_bind_eq_ok_iff.1 h' with ⟨⟨⟩, _, hopen', h'⟩
  cases hopen.symm.trans hopen'
  rcases runIn_bind_eq_ok_iff.1 h with ⟨g, s₄, hgraph, h⟩
  rcases runIn_bind_eq_ok_iff.1 h' with ⟨_, _, hgraph', h'⟩
  cases hgraph.symm.trans hgraph'
  rcases runIn_bind_eq_ok_iff.1 h with ⟨groups, s₅, hclassify, h⟩
  rcases runIn_bind_eq_ok_iff.1 h' with ⟨_, _, hclassify', h'⟩
  cases hclassify.symm.trans hclassify'
  rcases runIn_bind_eq_ok_iff.1 h with ⟨⟨⟩, s₆, hnote, h⟩
  rcases runIn_bind_eq_ok_iff.1 h' with ⟨⟨⟩, _, hnote', h'⟩
  cases hnote.symm.trans hnote'
  rcases runIn_bind_eq_ok_iff.1 h with ⟨⟨⟩, worked, hpasses, h⟩
  rcases runIn_bind_eq_ok_iff.1 h' with ⟨⟨⟩, worked', hpasses', h'⟩
  have hworked : worked = worked' := by
    refine eq_of_forM (fun node _ u v v' hv hv' => ?_) hpasses hpasses'
    have hcontext : (passes.forM fun pass => pass.apply (p.context scene) node).runIn u = (.ok (), v') := by
      simp only [← PassKind.apply_reordered _ p names passes]
      exact hv'
    exact eq_of_stages hperm hnodup hordered hordered' hlightmap hv hcontext
  subst hworked
  cases h.symm.trans h'
  rfl

end

/-! ## Without lightmaps -/

variable [Zero R] [One R] [Add R] [Mul R]

/-- Without the lightmap pass, a conversion asks the unwrapper for nothing. -/
theorem unwrapCalls_of_convert {p : LevelProcessor R} {scene : NodeId} {s s' : Session R}
    (hlightmap : .lightmap ∉ p.passes) (h : (p.convert scene).runIn s = (.ok (), s')) :
    s'.unwrapCalls = s.unwrapCalls := by
  rcases exists_converted h with ⟨shelf, catalog, sorted, worked, furnished, h⟩
  rcases h.sorted_eq with ⟨journal, hsorted⟩
  have hworked : worked.unwrapCalls = sorted.unwrapCalls := by
    refine forM_invariant (I := fun t => t.unwrapCalls = sorted.unwrapCalls) rfl ?_ h.passes
    intro node _ t t' ht hstep
    exact (unwrapCalls_of_passes hlightmap hstep).trans ht
  have hfurnished : furnished.unwrapCalls = worked.unwrapCalls := by
    refine forM_invariant (I := fun t => t.unwrapCalls = worked.unwrapCalls) rfl ?_ h.replacements
    intro node _ t t' ht hstep
    rcases runIn_discard_eq_ok_iff.1 hstep with ⟨replacement, hreplace⟩
    have hkept := keeps_replaceContent (·.unwrapCalls) (fun _ _ _ _ _ => rfl) p.tools scene node t
    rw [hreplace] at hkept
    exact hkept.trans ht
  rw [h.flushed]
  show furnished.unwrapCalls = s.unwrapCalls
  rw [hfurnished, hworked, hsorted]

/-- Without the lightmap pass, the same is made of a scene with the passes in another order. -/
theorem LevelRules.image_eq_of_perm {rules : LevelRules R} {passes : List PassKind} {d d₁ d₂ : Snapshot Geometry R}
    (hperm : rules.passes.Perm passes) (hnodup : rules.passes.Nodup)
    (hordered : rules.passes.Pairwise fun kind later => later ∉ kind.requires)
    (hordered' : passes.Pairwise fun kind later => later ∉ kind.requires) (hlightmap : .lightmap ∉ rules.passes)
    (h₁ : rules.image d = some d₁) (h₂ : ({ rules with passes := passes } : LevelRules R).image d = some d₂) :
    d₁ = d₂ := by
  rcases Option.map_eq_some_iff.1 h₁ with ⟨cs₁, hcs₁, rfl⟩
  rcases Option.map_eq_some_iff.1 h₂ with ⟨cs₂, hcs₂, rfl⟩
  -- of a child with a match both orders make the same content; of one without, the passes decide
  have hchild : ∀ c c₁ c₂, rules.childImage d.head.name c = some c₁ →
      ({ rules with passes := passes } : LevelRules R).childImage d.head.name c = some c₂ → c₁ = c₂ := by
    intro c c₁ c₂ hc₁ hc₂
    rcases Option.bind_eq_some_iff.1 hc₁ with ⟨found, hfound, hmade₁⟩
    rcases Option.bind_eq_some_iff.1 hc₂ with ⟨found', hfound', hmade₂⟩
    cases hfound.symm.trans hfound'
    cases found with
    | none => exact Rules.work_eq_of_perm hperm hnodup hordered hordered' hlightmap hmade₁ hmade₂
    | some content =>
        cases hmade₁
        cases hmade₂
        rfl
  have hall₁ := mapM_eq_some_iff.1 hcs₁
  have hall₂ := mapM_eq_some_iff.1 hcs₂
  clear h₁ h₂ hcs₁ hcs₂
  have hsame : cs₁ = cs₂ := by
    generalize d.children = cs at hall₁ hall₂
    induction hall₁ generalizing cs₂ with
    | nil =>
        cases hall₂
        rfl
    | cons hc₁ _ ih =>
        cases hall₂ with
        | cons hc₂ hrest => rw [hchild _ _ _ hc₁ hc₂, ih _ hrest]
  rw [hsame]

/-! ## Two orders -/

/-- If a planted scene can be converted with the same passes in two orders that are accepted, then it is dumped
alike after both, and the unwrapper was asked for the same. -/
theorem pass_order_irrelevant {settings : ImportSettings} {names : List Json} {tools : Tools R}
    {p p' : LevelProcessor R} (hnames : names.Perm settings.passes)
    (hp : LevelProcessor.ofSettings settings tools = .ok p)
    (hp' : LevelProcessor.ofSettings { settings with passes := names } tools = .ok p')
    {branch : Branch R} {start s t t' : Session R} {scene : NodeId} (hstart : start.InOrder)
    (hplant : (Work.plantScene branch).runIn start = (.ok scene, s))
    (hrun : (p.convert scene).runIn s = (.ok (), t)) (hrun' : (p'.convert scene).runIn s = (.ok (), t')) :
    (∃ d, t.stage.snapshot? scene = some d ∧ t'.stage.snapshot? scene = some d) ∧
      t'.unwrapCalls = t.unwrapCalls := by
  have hmade := LevelProcessor.made_of_ofSettings hp
  have hmade' := LevelProcessor.made_of_ofSettings hp'
  have hperm : p.passes.Perm p'.passes := (hmade.perm hmade' hnames).symm
  -- the two processors differ in nothing but the order of the passes
  have hsame : p' = p.reordered names p'.passes := by
    have hgrammar : p'.grammar = p.grammar := Except.ok.inj (hmade'.grammar.symm.trans hmade.grammar)
    rcases p' with ⟨settings', grammar', passes', tools'⟩
    cases hmade'.settings_eq
    cases hmade'.tools_eq
    cases hgrammar
    rw [LevelProcessor.reordered, hmade.settings_eq, hmade.tools_eq]
  have hready := ready_of_plantScene hstart hplant
  have hdump := snapshot?_of_plantScene hstart.linked hplant
  by_cases hlightmap : .lightmap ∈ p.passes
  · rw [hsame] at hrun'
    cases convert_eq_of_stages hperm hmade.nodup hmade.ordered hmade'.ordered hlightmap hrun hrun'
    rcases exists_assembled (openScene_of_plantScene hstart.linked hplant) hrun with ⟨_, _, _, _, _, -, hassembled⟩
    rcases exists_node?_iff.2 hready.inside with ⟨n, hn⟩
    have hinside : scene.index < t.stage.graph.size := index_lt_of_node? (hassembled.node?_scene.trans hn)
    rcases Stage.exists_snapshot? hassembled.linked hinside with ⟨d, hd⟩
    exact ⟨⟨d, hd, hd⟩, rfl⟩
  · have hlightmap' : .lightmap ∉ p'.passes := fun hin => hlightmap (hperm.symm.subset hin)
    let bake : MeshValue → Matrix R → Float → Option MeshValue := fun _ _ _ => none
    have hunwrap : .lightmap ∈ p.passes → Lightmap.Computes p.tools.unwrap bake := fun hin =>
      absurd hin hlightmap
    have hunwrap' : .lightmap ∈ p'.passes → Lightmap.Computes p'.tools.unwrap bake := fun hin =>
      absurd hin hlightmap'
    have hfirst := settles_convert hready hdump hunwrap
    have hsecond := settles_convert hready hdump hunwrap'
    rcases hfirst.leaves t hrun with ⟨⟨d₁, hd₁⟩, hconverts⟩
    rcases hsecond.leaves t' hrun' with ⟨⟨d₂, hd₂⟩, hconverts'⟩
    have heq : d₁ = d₂ := by
      rcases Option.bind_eq_some_iff.1 hd₁ with ⟨shelf, hshelf, hrest₁⟩
      rcases Option.bind_eq_some_iff.1 hrest₁ with ⟨catalog, hcatalog, himage₁⟩
      rw [toOption_eq_some_iff] at hshelf hcatalog
      rw [hsame] at hd₂
      rw [LevelProcessor.image_of_opened (p := p.reordered names p'.passes) hshelf hcatalog] at hd₂
      exact LevelRules.image_eq_of_perm hperm hmade.nodup hmade.ordered hmade'.ordered hlightmap himage₁ hd₂
    subst heq
    refine ⟨⟨d₁, hconverts.dump.trans hd₁, hconverts'.dump.trans hd₂⟩, ?_⟩
    rw [unwrapCalls_of_convert hlightmap' hrun', unwrapCalls_of_convert hlightmap hrun]

/-- Settings with the usual passes and keywords. -/
def keywordSettings : ImportSettings :=
  { depotSettings with grammar := {
      indicator := .str "=", valueStart := .str "\x7b", valueEnd := .str "\x7d"
      keywords := AttributeKind.all.map fun kind => (kind, .str kind.defaultKeyword) } }

/-- The processor for these settings. -/
def keywordProcessor : LevelProcessor Float :=
  { depotProcessor with settings := keywordSettings }

/-- The usual passes in another order. -/
def exchangedPasses : List PassKind :=
  [.collision, .renderRemoval, .lightmap, .material, .renderLayer, .shadow]

theorem pass_order_irrelevant_depotScene :
    (exchangedPasses.map fun kind => Json.str kind.word).Perm keywordSettings.passes ∧
      LevelProcessor.ofSettings keywordSettings depotTools = .ok keywordProcessor ∧
      LevelProcessor.ofSettings
          { keywordSettings with passes := exchangedPasses.map fun kind => .str kind.word } depotTools =
        .ok (keywordProcessor.reordered (exchangedPasses.map fun kind => .str kind.word) exchangedPasses) ∧
      ({ disk := depotDisk } : Session Float).InOrder ∧
      (Work.plantScene depotScene).runIn { disk := depotDisk } = (.ok ⟨0⟩, depotSession) ∧
      ((keywordProcessor.convert ⟨0⟩).runIn depotSession).1.toOption = some () ∧
      (((keywordProcessor.reordered (exchangedPasses.map fun kind => .str kind.word) exchangedPasses).convert
        ⟨0⟩).runIn depotSession).1.toOption = some () ∧
      (∃ d, ((keywordProcessor.convert ⟨0⟩).runIn depotSession).2.stage.snapshot? ⟨0⟩ = some d ∧
        (((keywordProcessor.reordered (exchangedPasses.map fun kind => .str kind.word) exchangedPasses).convert
          ⟨0⟩).runIn depotSession).2.stage.snapshot? ⟨0⟩ = some d) ∧
      (((keywordProcessor.reordered (exchangedPasses.map fun kind => .str kind.word) exchangedPasses).convert
        ⟨0⟩).runIn depotSession).2.unwrapCalls =
          ((keywordProcessor.convert ⟨0⟩).runIn depotSession).2.unwrapCalls := by
  have hnames : (exchangedPasses.map fun kind => Json.str kind.word).Perm keywordSettings.passes := by
    have hkinds : exchangedPasses.Perm PassKind.all := by decide
    exact hkinds.map _
  have hp : LevelProcessor.ofSettings keywordSettings depotTools = .ok keywordProcessor := rfl
  have hp' : LevelProcessor.ofSettings
      { keywordSettings with passes := exchangedPasses.map fun kind => .str kind.word } depotTools =
    .ok (keywordProcessor.reordered (exchangedPasses.map fun kind => .str kind.word) exchangedPasses) := rfl
  have hplant : (Work.plantScene depotScene).runIn { disk := depotDisk } = (.ok ⟨0⟩, depotSession) := rfl
  have hrun : ((keywordProcessor.convert ⟨0⟩).runIn depotSession).1.toOption = some () := by
    decide +kernel
  have hrun' : (((keywordProcessor.reordered (exchangedPasses.map fun kind => .str kind.word)
      exchangedPasses).convert ⟨0⟩).runIn depotSession).1.toOption = some () := by
    decide +kernel
  exact ⟨hnames, hp, hp', Session.inOrder_new depotDisk, hplant, hrun, hrun', pass_order_irrelevant hnames hp hp'
    (Session.inOrder_new depotDisk) hplant (Work.runIn_eq_of_toOption hrun) (Work.runIn_eq_of_toOption hrun')⟩

end LevelPrep
