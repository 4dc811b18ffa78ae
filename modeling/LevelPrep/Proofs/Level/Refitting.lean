import LevelPrep.Proofs.Level.Rules
import LevelPrep.Proofs.Pass.Advancing

/-!
# Replacing content, seen in dumps

The content of a node can be replaced exactly if the packaged scene of its match can be loaded; nothing has
happened to the live nodes if it cannot (`of_replaceContent_error`).  What the replacement makes of the tree of
the node is a refitted dump (`settles_replaceContent`), and all other trees are left alone.
-/

namespace LevelPrep

variable {R : Type}

open Work SceneGraph

variable {tools : Tools R} {catalog : Catalog} {entry : CatalogEntry} {path : Path} {scene node : NodeId}
  {s s' t : Session R} {d : Snapshot Geometry R}

/-! ## When content is replaced -/

theorem runIn_loadScene (tools : Tools R) (path : Path) (s : Session R) :
    (loadScene tools path).runIn s = ((tools.loadScene s.disk path).2,
      { s with warnings := s.warnings ++ (tools.loadScene s.disk path).1.toArray }) := by
  unfold loadScene
  rw [runIn_bind, runIn_session]
  show (Work.lift (tools.loadScene s.disk path).2).runIn _ = _
  rw [runIn_lift]

/-- A packaged scene can be had if it was kept or can be loaded; otherwise no live node has changed. -/
theorem cases_of_packedScene (tools : Tools R) (entry : CatalogEntry) (s : Session R) :
    (∃ kept t, (packedScene tools entry).runIn s = (.ok kept, t)) ∨
      ∃ fault t, (packedScene tools entry).runIn s = (.error fault, t) ∧
        s.shelf.packedScenes.lookup entry.assetId = none ∧
        (tools.loadScene s.disk entry.path).2 = .error fault ∧ t.stage = s.stage := by
  unfold packedScene
  simp only [runIn_bind, runIn_session]
  cases hkept : s.shelf.packedScenes.lookup entry.assetId with
  | some kept => exact Or.inl ⟨kept, s, rfl⟩
  | none =>
      simp only [runIn_bind, runIn_loadScene]
      cases hload : (tools.loadScene s.disk entry.path).2 with
      | error fault => exact Or.inr ⟨fault, _, rfl, trivial, rfl, rfl⟩
      | ok branch => exact Or.inl ⟨_, _, rfl⟩

/-- A planted tree can be hung up in the place of the content of a node. -/
theorem addChild_readied {branch : Branch R} {stage stage₁ : Stage R} {replacement : NodeId}
    (hnode : node.index < stage.graph.size) (hplanted : stage.Planted branch replacement stage₁) :
    (readied node stage₁.graph).addChild node (some replacement) =
      .ok ((readied node stage₁.graph).link node replacement) := by
  have hroot : (readied node stage₁.graph).parent? replacement = none := by
    rw [(relabelled_readied node stage₁.graph).parent?_same, hplanted.root]
  unfold addChild
  simp only [hroot, if_neg (ne_of_planted hplanted hnode).symm]

section

variable [Zero R] [One R]

/-- The replacement for a name that has a match can be had if the packaged scene of the match can. -/
theorem cases_of_packedSceneReplacement (tools : Tools R) {name : Json}
    (hmatch : s.shelf.packedSceneFor name = .ok (some entry)) :
    (∃ replacement t, (packedSceneReplacement tools name).runIn s = (.ok replacement, t)) ∨
      ∃ fault t, (packedSceneReplacement tools name).runIn s = (.error fault, t) ∧
        s.shelf.packedScenes.lookup entry.assetId = none ∧
        (tools.loadScene s.disk entry.path).2 = .error fault ∧ t.stage = s.stage := by
  unfold packedSceneReplacement
  simp only [runIn_bind, runIn_session, runIn_lift, hmatch]
  rcases cases_of_packedScene tools entry s with ⟨branch, t, hrun⟩ | ⟨fault, t, hrun, hcase⟩
  · rw [hrun]
    exact Or.inl ⟨_, _, rfl⟩
  · rw [hrun]
    exact Or.inr ⟨fault, t, rfl, hcase⟩

/-- The content of a node with a match can be replaced if the packaged scene can be had. -/
theorem cases_of_replaceContent (hs : s.stage.graph.Linked) (hparent : s.stage.graph.parent? node = some scene)
    (hcatalog : s.shelf.packedSceneCatalog = .ok catalog) (hlists : catalog.ListsDirectory path)
    (hstock : Stocked tools catalog scene s)
    (hmatch : catalog.bestMatch (s.stage.graph.name node) = .ok (some entry)) :
    (∃ replacement t, (replaceContent tools scene node).runIn s = (.ok replacement, t)) ∨
      ∃ fault t, (replaceContent tools scene node).runIn s = (.error fault, t) ∧
        s.shelf.packedScenes.lookup entry.assetId = none ∧
        (tools.loadScene s.disk entry.path).2 = .error fault ∧ t.stage = s.stage := by
  rcases hs.index_lt_of_mem_children ((hs.mem_children_iff scene node).2 hparent) with ⟨hscene, hnode⟩
  have hfound : s.shelf.packedSceneFor (s.stage.graph.name node) = .ok (some entry) := by
    rw [Shelf.packedSceneFor, hcatalog]
    exact hmatch
  unfold replaceContent
  simp only [runIn_bind, runIn_graph]
  rcases cases_of_packedSceneReplacement tools hfound with
    ⟨replacement, t, hrun⟩ | ⟨fault, t, hrun, hcase⟩
  · obtain ⟨branch, t', stage, -, -, hlarger, -, hplanted, rfl⟩ :=
      of_packedSceneReplacement hs hscene hcatalog hlists hstock hmatch hrun
    -- a newly planted tree has no parent yet, and can be hung up
    have hadd := addChild_readied hnode (hlarger.planted hplanted)
    rw [hrun]
    simp only [runIn_onGraph, runIn_lift]
    unfold readied at hadd
    simp only [hadd]
    exact Or.inl ⟨_, _, rfl⟩
  · rw [hrun]
    exact Or.inr ⟨fault, t, rfl, hcase⟩

/-- A replacement leaves everything of a session alone but its live nodes, its shelf, and what it reports, whether it
succeeds or fails. -/
theorem keeps_replaceContent {V : Type} (view : Session R → V)
    (hview : ∀ (s : Session R) stage shelf journal warnings,
      view { s with stage := stage, shelf := shelf, journal := journal, warnings := warnings } = view s)
    (tools : Tools R) (scene node : NodeId) : Keeps view (replaceContent tools scene node) := by
  -- the steps that a replacement is made of
  have hsession : Keeps view (session : Work R (Session R)) := fun _ => rfl
  have hgraph : Keeps view (graph : Work R (SceneGraph R)) := fun _ => rfl
  have honGraph : ∀ f, Keeps view (onGraph f : Work R Unit) := fun f s =>
    hview s { s.stage with graph := f s.stage.graph } s.shelf s.journal s.warnings
  have honStage : ∀ f : StateM (Stage R) NodeId, Keeps view (onStage f) := fun f s =>
    hview s (f s.stage).2 s.shelf s.journal s.warnings
  have hdebug : ∀ logger message, Keeps view (debug logger message : Work R Unit) := fun logger message s =>
    hview s s.stage s.shelf (s.journal.push { level := .debug, logger, message }) s.warnings
  have hload : ∀ path, Keeps view (loadScene tools path) := fun path s => by
    rw [runIn_loadScene]
    exact hview s s.stage s.shelf s.journal _
  have hkeep : ∀ f : Session R → Shelf, Keeps view (modify fun s => { s with shelf := f s } : Work R Unit) :=
    fun f s => hview s s.stage (f s) s.journal s.warnings
  have hplant : ∀ branch, Keeps view (plantScene branch : Work R NodeId) := fun branch =>
    (honStage _).bind fun root => (honGraph _).bind fun _ _ => rfl
  have hpacked : ∀ entry, Keeps view (packedScene tools entry) := by
    intro entry
    refine hsession.bind fun s => ?_
    cases s.shelf.packedScenes.lookup entry.assetId with
    | some kept => exact fun _ => rfl
    | none =>
        exact (hload _).bind fun branch => (hdebug _ _).bind fun _ => (hplant branch).bind fun kept =>
          (hkeep _).bind fun _ _ => rfl
  have hreplacement : ∀ name, Keeps view (packedSceneReplacement tools name) := by
    intro name
    refine hsession.bind fun s => (Keeps.lift _).bind fun found => ?_
    cases found with
    | none => exact (hdebug _ _).bind fun _ => (honStage _).bind fun root => (honGraph _).bind fun _ _ => rfl
    | some entry =>
        exact (hpacked entry).bind fun kept => (honStage _).bind fun root => (honGraph _).bind fun _ _ => rfl
  refine hgraph.bind fun g => (hreplacement _).bind fun replacement => ?_
  refine (honGraph _).bind fun _ => (honGraph _).bind fun _ => hgraph.bind fun g => (Keeps.lift _).bind fun g' => ?_
  exact (honGraph _).bind fun _ => (honGraph _).bind fun _ => hgraph.bind fun g =>
    (hdebug _ _).bind fun _ _ => rfl

end

/-! ## What is left alone -/

/-- After a replacement nodes have the owners that they had, or belong to the scene. -/
theorem owner_of_regraft {g : SceneGraph R} {replacement x owner : NodeId} {n : Node R}
    (hn : (regraft scene node replacement g).node? x = some n) (howner : n.owner = some owner) :
    owner = scene ∨ ∃ m, g.node? x = some m ∧ m.owner = some owner := by
  have howned := relabelled_setOwner ((readied node g).link node replacement) replacement (some scene)
  have hreadied := relabelled_readied node g
  unfold regraft at hn
  rw [howned.node?_eq, node?_link, hreadied.node?_eq] at hn
  cases hm : g.node? x with
  | none =>
      rw [hm] at hn
      cases hn
  | some m =>
      rw [hm] at hn
      cases hn
      change (if _ then some scene else m.owner) = some owner at howner
      split_ifs at howner
      · exact Or.inl (Option.some.inj howner).symm
      · exact Or.inr ⟨m, rfl, howner⟩

/-- The nodes of a session after a replacement have owners that are there. -/
theorem owned_of_regraft {stage₁ : Stage R} {branch : Branch R} {replacement : NodeId}
    (hs : Fit s) (hscene : scene.index < s.stage.graph.size)
    (hplanted : s.stage.Planted branch replacement stage₁)
    (hgraph : t.stage.graph = regraft scene node replacement stage₁.graph) : t.stage.Owned := by
  have hsize : t.stage.graph.size = stage₁.graph.size := by rw [hgraph, size_regraft]
  have hle := hplanted.size_le
  intro x n owner hn howner
  rw [hgraph] at hn
  rw [hsize]
  rcases owner_of_regraft hn howner with rfl | ⟨m, hm, howner⟩
  · exact hscene.trans_le hle
  · by_cases hx : x.index < s.stage.graph.size
    · rw [hplanted.old x hx] at hm
      exact (hs.owned x m owner hm howner).trans_le hle
    · exact ((hplanted.new x m (Nat.not_lt.1 hx) hm).owner owner howner).2

namespace Replaced

variable {replacement x : NodeId} {branch : Branch R}

theorem size_le (h : Replaced scene node replacement branch s t) : s.stage.graph.size ≤ t.stage.graph.size :=
  h.regrafted.size_lt.le

theorem name_eq (h : Replaced scene node replacement branch s t) (hx : x.index < s.stage.graph.size) :
    t.stage.graph.name x = s.stage.graph.name x := by
  rcases exists_node?_iff.2 hx with ⟨n, hn⟩
  simp [SceneGraph.name, h.regrafted.old x n hn, hn]

theorem parent?_eq (h : Replaced scene node replacement branch s t) (hx : x.index < s.stage.graph.size) :
    t.stage.graph.parent? x = s.stage.graph.parent? x := by
  rcases exists_node?_iff.2 hx with ⟨n, hn⟩
  rw [parent?_of_node? (h.regrafted.old x n hn), parent?_of_node? hn]

/-- References of live nodes are good after the replacement. -/
theorem sound (h : Replaced scene node replacement branch s t) (hs : Fit s) : t.stage.Sound := by
  intro x mesh hmesh
  rcases Option.bind_eq_some_iff.1 hmesh with ⟨i, hi, himesh⟩
  rcases Option.bind_eq_some_iff.1 hi with ⟨n, hn, hpayload⟩
  by_cases hx : x.index < s.stage.graph.size
  · rcases exists_node?_iff.2 hx with ⟨m, hm⟩
    cases hn.symm.trans (h.regrafted.old x m hm)
    have hknown := hs.orderly.sound.payload hm
    by_cases hxnode : x = node
    · -- the replaced node has no mesh
      simp only [if_pos hxnode] at hpayload
      cases hp : m.payload with
      | meshInstance j =>
          rw [hp] at hpayload
          cases hpayload
          cases himesh
      | plain | staticBody | collisionShape =>
          rw [hp] at hpayload
          cases hpayload
    · simp only [if_neg hxnode] at hpayload
      exact (h.resources.mesh (hknown i mesh hpayload himesh)).1
  · exact h.known x n (Nat.not_lt.1 hx) hn i mesh hpayload himesh

theorem fit (h : Replaced scene node replacement branch s t) (hs : Fit s) (howned : t.stage.Owned) : Fit t where
  linked := h.regrafted.linked
  owned := howned
  orderly := ⟨h.sound hs, hs.orderly.listed.of_catalogs h.catalogs, by
    have hholds := hs.orderly.holds.of_extends h.resources
    unfold Shelf.Holds at hholds ⊢
    rw [h.materials]
    intro name entry id hname
    rw [Shelf.materialFor_eq h.catalogs] at hname
    exact hholds name entry id hname⟩
  onDisk := by
    intro name entry id hname hid
    rw [Shelf.materialFor_eq h.catalogs] at hname
    rw [h.materials] at hid
    rw [h.disk]
    exact hs.onDisk name entry id hname hid

/-- The owner of a node that was there has kept its name. -/
theorem owner_name_eq (h : Replaced scene node replacement branch s t) (hs : Fit s) {n : Node R}
    (hn : s.stage.graph.node? x = some n) :
    n.owner.map t.stage.graph.name = n.owner.map s.stage.graph.name := by
  cases howner : n.owner with
  | none => rfl
  | some owner => exact congrArg some (h.name_eq (hs.owned x n owner hn howner))

/-- A node other than the replaced one is as it was, but for its mark. -/
theorem head?_eq (h : Replaced scene node replacement branch s t) (hs : Fit s) (hx : x.index < s.stage.graph.size)
    (hne : x ≠ node) :
    t.stage.head? x = (s.stage.head? x).map (fun v =>
        { v with queued := v.queued || decide (x ∈ s.stage.graph.children node) }) ∧
      t.stage.graph.children x = s.stage.graph.children x := by
  rcases exists_node?_iff.2 hx with ⟨n, hn⟩
  have hnode := h.regrafted.old x n hn
  simp only [if_neg hne] at hnode
  have hvalue := (h.resources.payload (hs.orderly.sound.payload hn)).2
  refine ⟨?_, by rw [children_of_node? hnode, children_of_node? hn]⟩
  rw [Stage.head?_of_node? hn, Stage.head?_of_node? hnode]
  simp only [Stage.headOf, Option.map_some, h.owner_name_eq hs hn]
  unfold Stage.payloadValue
  rw [hvalue]

/-- The replaced node has lost its mesh, and has the new content behind its old one. -/
theorem head?_node (h : Replaced scene node replacement branch s t) (hs : Fit s)
    (hnode : node.index < s.stage.graph.size) :
    t.stage.head? node = (s.stage.head? node).map (fun v =>
        { v with payload := v.payload.mapInstance fun i => { i with mesh := none } }) ∧
      t.stage.graph.children node = s.stage.graph.children node ++ [replacement] := by
  rcases exists_node?_iff.2 hnode with ⟨n, hn⟩
  have hnode' := h.regrafted.old node n hn
  have hnot : node ∉ s.stage.graph.children node := fun hmem =>
    hs.linked.not_within_parent hmem (Within.refl _ node)
  simp only [if_true, hnot, decide_false, Bool.or_false] at hnode'
  have hvalue := (h.resources.payload (hs.orderly.sound.payload hn)).2
  refine ⟨?_, by rw [children_of_node? hnode', children_of_node? hn]⟩
  rw [Stage.head?_of_node? hn, Stage.head?_of_node? hnode']
  simp only [Stage.headOf, Option.map_some, h.owner_name_eq hs hn]
  unfold Stage.payloadValue
  rw [← hvalue]
  cases n.payload <;> rfl

/-- Replacing content is work on the tree of the node. -/
theorem advanced (h : Replaced scene node replacement branch s t) (hs : Fit s) (howned : t.stage.Owned) :
    Advanced node s t := by
  refine ⟨h.fit hs howned, h.size_le, fun x => h.parent?_eq, fun x => h.name_eq, fun x hx hout => ?_, h.disk,
    h.catalogs⟩
  have hne : x ≠ node := by
    rintro rfl
    exact hout (Within.refl _ x)
  have hnot : x ∉ s.stage.graph.children node := fun hmem => hout ((Within.refl _ node).child hmem)
  rcases h.head?_eq hs hx hne with ⟨hhead, hchildren⟩
  refine ⟨?_, hchildren⟩
  rw [hhead]
  cases s.stage.head? x with
  | none => rfl
  | some v => simp [hnot]

/-- A child that the node had is marked, and nothing else has happened to its tree. -/
theorem snapshot?_child (h : Replaced scene node replacement branch s t) (hs : Fit s) {child : NodeId}
    (hchild : child ∈ s.stage.graph.children node) :
    t.stage.snapshot? child = (s.stage.snapshot? child).map Snapshot.queue := by
  have hg := hs.linked
  have hlt := (hg.index_lt_of_mem_children hchild).2
  have hne : ∀ x, s.stage.graph.Within child x → x ≠ node := by
    rintro x hx rfl
    exact hg.not_within_parent hchild hx
  rcases h.head?_eq hs hlt (hne child (Within.refl _ child)) with ⟨hhead, hchildren⟩
  have hbelow : (s.stage.graph.children child).mapM t.stage.snapshot? =
      (s.stage.graph.children child).mapM s.stage.snapshot? := by
    refine mapM_congr fun other hother => Stage.snapshot?_congr hg h.regrafted.linked fun x hx => ?_
    have hin := ((Within.refl _ child).child hother).trans hx
    -- below the child no node is a child of the replaced node
    have hnot : x ∉ s.stage.graph.children node := by
      intro hmem
      have hsame := hg.child_unique hmem hchild (Within.refl _ x) hin
      subst hsame
      exact hg.not_within_parent hother hx
    rcases h.head?_eq hs (hg.index_lt_of_within hin hlt) (hne x hin) with ⟨hhead, hchildren⟩
    refine ⟨?_, hchildren⟩
    rw [hhead]
    cases s.stage.head? x with
    | none => rfl
    | some v => simp [hnot]
  rw [Stage.snapshot?_eq hg, Stage.snapshot?_eq h.regrafted.linked, hhead, hchildren, hbelow]
  cases s.stage.head? child with
  | none => rfl
  | some v =>
      cases (s.stage.graph.children child).mapM s.stage.snapshot? with
      | none => rfl
      | some ds => simp [hchild, Snapshot.queue]

/-- The new content belongs to the scene. -/
theorem snapshot?_replacement (h : Replaced scene node replacement branch s t) (hs : Fit s)
    (hscene : scene.index < s.stage.graph.size) :
    t.stage.snapshot? replacement =
      some ((branch.rename (.str ((s.stage.graph.name node).display ++ " (replaced)"))).ownedBy
        (s.stage.graph.name scene)) := by
  rw [← h.name_eq hscene]
  refine Stage.snapshot?_of_shows h.regrafted.linked h.shown fun x hx => ⟨h.regrafted.owned x hx, ?_⟩
  have hnew : s.stage.graph.size ≤ x.index :=
    Stage.le_index_of_within hs.linked h.regrafted.linked (fun y => h.parent?_eq)
      h.regrafted.fresh hx
  unfold SceneGraph.isQueued
  cases hn : t.stage.graph.node? x with
  | none => rfl
  | some n => simp [h.regrafted.new x n hnew hn]

/-- The dump of the replaced tree. -/
theorem dump (h : Replaced scene node replacement branch s t) (hs : Fit s)
    (hscene : scene.index < s.stage.graph.size) (hd : s.stage.snapshot? node = some d) :
    t.stage.snapshot? node = some (d.refit (s.stage.graph.name scene) branch) := by
  have hg := hs.linked
  have hg' := h.regrafted.linked
  have hnode := Stage.index_lt_of_snapshot? hg hd
  rcases (Stage.snapshot?_eq_some_iff hg).1 hd with ⟨v, ds, hv, hds, rfl⟩
  rcases h.head?_node hs hnode with ⟨hhead, hchildren⟩
  have hold : (s.stage.graph.children node).mapM t.stage.snapshot? = some (ds.map Snapshot.queue) := by
    rw [mapM_congr fun child => h.snapshot?_child hs, mapM_eq_some_iff, List.forall₂_map_right_iff]
    exact hds.imp fun child d hd => by rw [hd, Option.map_some]
  have hname : s.stage.graph.name node = v.name := Stage.name_of_head? hv
  rw [Stage.snapshot?_eq hg', hhead, hv, hchildren, List.mapM_append, hold]
  simp [h.snapshot?_replacement hs hscene, hname, Snapshot.refit]

end Replaced

/-! ## The step -/

/-- The content of a node with a match can be replaced exactly if the packaged scene of the match can be loaded,
and this is what it makes of the tree of the node. -/
theorem settles_replaceContent [Zero R] [One R] (hs : Fit s)
    (hparent : s.stage.graph.parent? node = some scene)
    (hd : s.stage.snapshot? node = some d) (hcatalog : s.shelf.packedSceneCatalog = .ok catalog)
    (hlists : catalog.ListsDirectory path) (hstock : Stocked tools catalog scene s)
    (hmatch : catalog.bestMatch (s.stage.graph.name node) = .ok (some entry)) :
    Settles (discard (replaceContent tools scene node)) s
      (∃ branch, (tools.loadScene s.disk entry.path).2 = .ok branch) fun t =>
        Advanced node s t ∧ Stocked tools catalog scene t ∧
          ∃ branch, (tools.loadScene s.disk entry.path).2 = .ok branch ∧
            t.stage.snapshot? node = some (d.refit (s.stage.graph.name scene) branch) := by
  have hg := hs.linked
  have hscene := (hg.index_lt_of_mem_children ((hg.mem_children_iff scene node).2 hparent)).1
  refine ⟨fun t hrun => ?_, fun hable => ?_⟩
  · rcases runIn_discard_eq_ok_iff.1 hrun with ⟨replacement, hreplace⟩
    obtain ⟨branch, hload, hstock', hreplaced⟩ :=
      replaced_of_replaceContent hg hparent hcatalog hlists hstock hmatch hreplace
    obtain ⟨_, u, stage, -, -, hlarger, -, -, -, hplanted, hstage⟩ :=
      regraft_of_replaceContent hg hscene hcatalog hlists hstock hmatch hreplace
    have hgraph : t.stage.graph = regraft scene node replacement stage.graph := by rw [hstage]
    have howned : t.stage.Owned := owned_of_regraft hs hscene (hlarger.planted hplanted) hgraph
    exact ⟨⟨branch, hload⟩, hreplaced.advanced hs howned, hstock', branch, hload, hreplaced.dump hs hscene hd⟩
  · rcases hable with ⟨branch, hload⟩
    -- a replacement can fail only because its scene cannot be loaded
    rcases cases_of_replaceContent hg hparent hcatalog hlists hstock hmatch with
      ⟨replacement, t, hrun⟩ | ⟨fault, t, -, -, hfail, -⟩
    · exact ⟨t, runIn_discard_eq_ok_iff.2 ⟨replacement, hrun⟩⟩
    · cases hload.symm.trans hfail

end LevelPrep
