import LevelPrep.Level.Conversion
import LevelPrep.Proofs.Catalog.Entries
import LevelPrep.Proofs.Scene.Copying
import LevelPrep.Proofs.Session

/-!
# Replacing the content of a node

A replaced node keeps its place and loses its mesh; its children are queued, and behind them hangs a new tree, which
belongs to the scene.  The new tree is a copy of a packaged scene that is kept somewhere else on the stage, and what
is kept there does not change (`Stocked`).
-/

namespace LevelPrep

variable {R : Type}

open SceneGraph

/-! ## The graph -/

/-- The graph with the content of a node ready to be taken out. -/
def readied (node : NodeId) (g : SceneGraph R) : SceneGraph R :=
  ((g.children node).foldl queueFree g).modifyInstance node fun i => { i with mesh := none }

/-- The graph with the planted tree in the place of the content. -/
def regraft (scene node replacement : NodeId) (g : SceneGraph R) : SceneGraph R :=
  ((readied node g).link node replacement).setOwner replacement (some scene)

theorem relabelled_readied (node : NodeId) (g : SceneGraph R) :
    g.Relabelled (fun x n =>
        { n with
          payload :=
            if x = node then n.payload.mapInstance fun i => { i with mesh := none } else n.payload
          queued := n.queued || decide (x ∈ g.children node) })
      (readied node g) :=
  (relabelled_queueFree g (g.children node)).trans (relabelled_modifyInstance _ node _)

/-- What is known of the graph after the content of a node was replaced.  Of the nodes that were there, only the
node itself and its children have changed. -/
structure Regrafted (scene node replacement : NodeId) (g g' : SceneGraph R) : Prop where
  linked : g'.Linked
  fresh : g.size ≤ replacement.index
  size_lt : g.size < g'.size
  old : ∀ x n, g.node? x = some n → g'.node? x = some
    { n with
      payload := if x = node then n.payload.mapInstance fun i => { i with mesh := none } else n.payload
      children := if x = node then n.children ++ [replacement] else n.children
      queued := n.queued || decide (x ∈ g.children node) }
  new : ∀ x n, g.size ≤ x.index → g'.node? x = some n → n.queued = false
  owned : ∀ x, g'.Within replacement x → g'.owner? x = some scene

section

variable {node replacement : NodeId} {branch : Branch R} {stage stage₁ : Stage R}

theorem index_lt_of_planted (hplanted : stage.Planted branch replacement stage₁) :
    replacement.index < stage₁.graph.size := by
  rcases hplanted.shown.exists_node with ⟨n, hn⟩
  exact index_lt_of_node? hn

theorem children_of_planted (hplanted : stage.Planted branch replacement stage₁)
    (hnode : node.index < stage.graph.size) :
    stage₁.graph.children node = stage.graph.children node := by
  rw [children, hplanted.old node hnode, children]

/-- A node that was there is not the root of what was planted. -/
theorem ne_of_planted (hplanted : stage.Planted branch replacement stage₁) {x : NodeId}
    (hx : x.index < stage.graph.size) : x ≠ replacement := by
  rintro rfl
  exact absurd hplanted.fresh (Nat.not_le.2 hx)

/-- The tree can be hung up in the place of the content. -/
theorem linked_link_readied (hstage : stage.graph.Linked) (hnode : node.index < stage.graph.size)
    (hplanted : stage.Planted branch replacement stage₁) :
    ((readied node stage₁.graph).link node replacement).Linked :=
  (relabelled_readied node stage₁.graph).linked_link
    (hnode.trans_le hplanted.size_le) (index_lt_of_planted hplanted)
    (hplanted.linked_link hstage hnode)

/-- The nodes of the tree that is hung up are new. -/
theorem le_index_of_within_readied (hstage : stage.graph.Linked)
    (hnode : node.index < stage.graph.size)
    (hplanted : stage.Planted branch replacement stage₁) {x : NodeId}
    (h : ((readied node stage₁.graph).link node replacement).Within replacement x) :
    stage.graph.size ≤ x.index := by
  have hreadied := relabelled_readied node stage₁.graph
  have hlt := index_lt_of_planted hplanted
  refine Stage.le_index_of_within hstage (linked_link_readied hstage hnode hplanted) ?_ hplanted.fresh h
  intro y hy
  rw [parent?_link _ node (by rwa [hreadied.size_eq]), if_neg (ne_of_planted hplanted hy), hreadied.parent?_same,
    parent?, hplanted.old y hy, parent?]

/-- The nodes after the replacement, told by those after the planting. -/
theorem exists_node?_regraft (scene : NodeId) (hstage : stage.graph.Linked)
    (hnode : node.index < stage.graph.size) (hplanted : stage.Planted branch replacement stage₁)
    {x : NodeId} {n : Node R} (hn : stage₁.graph.node? x = some n) :
    ∃ owner, (regraft scene node replacement stage₁.graph).node? x = some
      { n with
        payload := if x = node then n.payload.mapInstance fun i => { i with mesh := none } else n.payload
        parent := if x = replacement then some node else n.parent
        owner := owner
        children := if x = node then n.children ++ [replacement] else n.children
        queued := n.queued || decide (x ∈ stage.graph.children node) } ∧
      (x.index < stage.graph.size → owner = n.owner) := by
  have hlinked := linked_link_readied hstage hnode hplanted
  have howned := relabelled_setOwner ((readied node stage₁.graph).link node replacement) replacement (some scene)
  have hreadied := relabelled_readied node stage₁.graph
  rw [children_of_planted hplanted hnode] at hreadied
  unfold regraft
  rw [howned.node?_eq, node?_link, hreadied.node?_eq, hn]
  refine ⟨_, rfl, fun hx => ?_⟩
  -- an old node lies outside of the new tree, so the change of owners does not concern it
  have hlate : x ∉ ((readied node stage₁.graph).link node replacement).levelOrder replacement := by
    rw [mem_levelOrder_iff hlinked]
    intro hwithin
    exact absurd (le_index_of_within_readied hstage hnode hplanted hwithin) (Nat.not_le.2 hx)
  simp [hlate]

theorem size_regraft (scene node replacement : NodeId) (g : SceneGraph R) :
    (regraft scene node replacement g).size = g.size := by
  unfold regraft
  rw [(relabelled_setOwner _ replacement (some scene)).size_eq, size_link, (relabelled_readied node g).size_eq]

/-- A node that was not there before is one of those that were added. -/
theorem exists_planted_node (scene : NodeId) (hstage : stage.graph.Linked)
    (hnode : node.index < stage.graph.size) (hplanted : stage.Planted branch replacement stage₁)
    {x : NodeId} {n : Node R} (hx : stage.graph.size ≤ x.index)
    (hn : (regraft scene node replacement stage₁.graph).node? x = some n) :
    ∃ m, stage₁.graph.node? x = some m ∧ n.payload = m.payload ∧ n.queued = m.queued := by
  rcases exists_node?_iff.2 (size_regraft _ _ _ stage₁.graph ▸ index_lt_of_node? hn) with ⟨m, hm⟩
  rcases exists_node?_regraft scene hstage hnode hplanted hm with ⟨owner, hfinal, -⟩
  rw [hfinal] at hn
  cases hn
  have hne : x ≠ node := by
    rintro rfl
    exact absurd hnode (Nat.not_lt.2 hx)
  have hnot : x ∉ stage.graph.children node := fun hmem =>
    absurd (hstage.index_lt_of_mem_children hmem).2 (Nat.not_lt.2 hx)
  exact ⟨m, hm, by simp [hne], by simp [hnot]⟩

/-- Replacing the content of a node. -/
theorem regrafted_regraft (scene : NodeId) (hstage : stage.graph.Linked)
    (hnode : node.index < stage.graph.size) (hplanted : stage.Planted branch replacement stage₁) :
    Regrafted scene node replacement stage.graph (regraft scene node replacement stage₁.graph) := by
  have hlinked := linked_link_readied hstage hnode hplanted
  have howned := relabelled_setOwner ((readied node stage₁.graph).link node replacement) replacement (some scene)
  have hlt := index_lt_of_planted hplanted
  have hsize := size_regraft scene node replacement stage₁.graph
  refine ⟨howned.linked hlinked, hplanted.fresh, ?_, ?_, ?_, ?_⟩
  · rw [hsize]
    exact hplanted.fresh.trans_lt hlt
  · intro x n hn
    have hx := index_lt_of_node? hn
    rw [← hplanted.old x hx] at hn
    rcases exists_node?_regraft scene hstage hnode hplanted hn with ⟨owner, hfinal, howner⟩
    rw [hfinal, howner hx]
    simp [ne_of_planted hplanted hx]
  · intro x n hx hn
    rcases exists_planted_node scene hstage hnode hplanted hx hn with ⟨m, hm, -, hqueued⟩
    rw [hqueued]
    exact (hplanted.new x m hx hm).unqueued
  · intro x hx
    -- whatever hangs below the replacement was given to the scene
    have hmem := (mem_levelOrder_iff hlinked).2 (howned.within_iff.1 hx)
    obtain ⟨n, hn⟩ := exists_node?_iff.2
      ((howned.linked hlinked).index_lt_of_within hx (hsize.symm ▸ hlt))
    rw [howned.node?_eq] at hn
    rcases Option.map_eq_some_iff.1 hn with ⟨m, hm, rfl⟩
    simp [owner?, regraft, howned.node?_eq, hm, hmem]

/-- The planted tree is what hangs in the place of the content. -/
theorem shows_regraft (scene : NodeId) (hstage : stage.graph.Linked)
    (hnode : node.index < stage.graph.size) (hplanted : stage.Planted branch replacement stage₁)
    {stage' : Stage R} (hgraph : stage'.graph = regraft scene node replacement stage₁.graph)
    (hresources : stage'.resources = stage₁.resources) : stage'.Shows branch replacement := by
  refine hplanted.shown.of_same fun x hx m hm => ?_
  have hne : x ≠ node := by
    rintro rfl
    exact absurd hnode (Nat.not_lt.2 (hplanted.le_index_of_within hstage hx))
  rcases exists_node?_regraft scene hstage hnode hplanted hm with ⟨owner, hfinal, -⟩
  rw [← hgraph] at hfinal
  simp only [if_neg hne] at hfinal
  refine ⟨_, hfinal, rfl, rfl, ?_, rfl⟩
  unfold Stage.payloadValue
  rw [hresources]

end

/-! ## The session -/

/-- The packaged scenes that are kept show what is in the files of the catalog.  Each is a scene of its own, and the
scene that is worked on is not part of it. -/
def Stocked (tools : Tools R) (catalog : Catalog) (scene : NodeId) (s : Session R) : Prop :=
  ∀ entry ∈ catalog.entries, ∀ kept, s.shelf.packedScenes.lookup entry.assetId = some kept →
    ¬ s.stage.graph.Within kept scene ∧
      ∃ branch, (tools.loadScene s.disk entry.path).2 = .ok branch ∧ s.stage.OwnScene branch kept

/-- Nothing has changed but live nodes, their resources, the packaged scenes that are kept, and reports. -/
structure SameSupplies (s s' : Session R) : Prop where
  disk : s'.disk = s.disk
  catalogs : s'.shelf.catalogs = s.shelf.catalogs
  materials : s'.shelf.materials = s.shelf.materials
  unwrapCalls : s'.unwrapCalls = s.unwrapCalls

open Work

section

variable {tools : Tools R} {catalog : Catalog} {entry : CatalogEntry} {root : Path} {scene node : NodeId}
  {s s' : Session R} {branch : Branch R}

/-- What is kept stays as it is while the nodes outside of the scene that is worked on do, and what they refer to. -/
theorem Stocked.of_same (h : Stocked tools catalog scene s) (hdisk : s'.disk = s.disk)
    (hpacked : s'.shelf.packedScenes = s.shelf.packedScenes)
    (hresources : s.stage.resources.Extends s'.stage.resources)
    (hsame : ∀ kept x, s.stage.graph.parent? kept = none → ¬ s.stage.graph.Within kept scene →
      kept.index < s.stage.graph.size → s.stage.graph.Within kept x →
        s'.stage.graph.node? x = s.stage.graph.node? x) : Stocked tools catalog scene s' := by
  intro entry hentry kept hkept
  rw [hpacked] at hkept
  rcases h entry hentry kept hkept with ⟨hout, branch, hload, hscene⟩
  have hnodes := fun x => hsame kept x hscene.parent?_eq hout hscene.index_lt
  refine ⟨fun hin => hout ((within_congr hnodes).1 hin), branch, hdisk ▸ hload, ?_⟩
  exact hscene.of_same hnodes fun x n hx hn => hresources.payload (hscene.known x n hx hn)

/-- A packaged scene is what is in the file of its entry, whether it was kept or is loaded now. -/
theorem of_packedScene {kept : NodeId} (hs : s.stage.graph.Linked) (hscene : scene.index < s.stage.graph.size)
    (hlists : catalog.ListsDirectory root) (hentry : entry ∈ catalog.entries)
    (hstock : Stocked tools catalog scene s) (h : (packedScene tools entry).runIn s = (.ok kept, s')) :
    ∃ branch, (tools.loadScene s.disk entry.path).2 = .ok branch ∧ s'.stage.OwnScene branch kept ∧
      Stocked tools catalog scene s' ∧ s.stage.Enlarged s'.stage ∧ SameSupplies s s' := by
  rcases runIn_bind_eq_ok_iff.1 h with ⟨s₀, s₁, hsession, hrest₁⟩
  cases hsession
  cases hkept : s.shelf.packedScenes.lookup entry.assetId with
  | some old =>
      simp only [hkept] at hrest₁
      cases hrest₁
      rcases hstock entry hentry kept hkept with ⟨-, branch, hload, hown⟩
      exact ⟨branch, hload, hown, hstock, .refl hs, rfl, rfl, rfl, rfl⟩
  | none =>
      simp only [hkept] at hrest₁
      rcases runIn_bind_eq_ok_iff.1 hrest₁ with ⟨branch, s₂, hload, hrest₂⟩
      rcases runIn_bind_eq_ok_iff.1 hload with ⟨s₃, s₄, hsession, hload₁⟩
      cases hsession
      rcases runIn_bind_eq_ok_iff.1 hload₁ with ⟨⟨⟩, s₅, hwarn, hload₂⟩
      cases hwarn
      rcases runIn_lift_eq_ok_iff.1 hload₂ with ⟨hloaded, rfl⟩
      cases hrest₂
      -- the tree is planted as a scene of its own, and everything that was there stays
      have hown := (Stage.plant_spec branch hs).ownScene hs
      have hplanted := (Stage.plant_spec branch hs).ownTree hs
      refine ⟨branch, hloaded, hown, ?_, hplanted.toEnlarged, rfl, rfl, rfl, rfl⟩
      intro other hother kept hlookup
      simp only [List.lookup_cons] at hlookup
      split at hlookup
      · next hname =>
          cases hlookup
          refine ⟨fun hin => absurd (hplanted.le_index_of_within hs hin) (Nat.not_le.2 hscene), branch, ?_, hown⟩
          -- entries of one name are one entry, so what was loaded for one holds for both
          rw [hlists.eq_of_assetId hother hentry (by simpa using hname)]
          exact hloaded
      · rcases hstock other hother kept hlookup with ⟨hout, branch', hload', hown'⟩
        refine ⟨fun hin => hout ?_, branch', hload', hown'.of_enlarged hs hplanted.toEnlarged⟩
        refine (within_congr fun x hx => ?_).1 hin
        exact hplanted.old x (hs.index_lt_of_within hx hown'.index_lt)

theorem of_addChild {g g' : SceneGraph R} {node child : NodeId}
    (h : g.addChild node (some child) = .ok g') : g' = g.link node child := by
  simp only [addChild] at h
  split at h
  · cases h
  · split_ifs at h
    exact (Except.ok.inj h).symm

/-- Replacing the content of a child of the scene that is worked on does not touch what is kept. -/
theorem Stocked.of_regrafted {replacement : NodeId} (h : Stocked tools catalog scene s) (hs : s.stage.graph.Linked)
    (hparent : s.stage.graph.parent? node = some scene) (hdisk : s'.disk = s.disk)
    (hpacked : s'.shelf.packedScenes = s.shelf.packedScenes)
    (hresources : s.stage.resources.Extends s'.stage.resources)
    (hregrafted : Regrafted scene node replacement s.stage.graph s'.stage.graph) :
    Stocked tools catalog scene s' := by
  refine h.of_same hdisk hpacked hresources fun kept x hroot hout hkept hx => ?_
  have hchild := (hs.mem_children_iff scene node).2 hparent
  -- what is kept has no parent, so whatever has one there has it inside
  have hup : ∀ parent child, s.stage.graph.Within kept child → child ∈ s.stage.graph.children parent →
      s.stage.graph.Within kept parent := by
    intro parent child hin hmem
    rcases hin.eq_or_exists_parent with rfl | ⟨other, hother, hmem'⟩
    · cases hroot.symm.trans ((hs.mem_children_iff parent child).1 hmem)
    · rwa [hs.parent_unique hmem hmem']
  have hnode : ¬ s.stage.graph.Within kept node := fun hin => hout (hup scene node hin hchild)
  have hne : x ≠ node := by
    rintro rfl
    exact hnode hx
  have hnot : x ∉ s.stage.graph.children node := fun hmem => hnode (hup node x hx hmem)
  rcases exists_node?_iff.2 (hs.index_lt_of_within hx hkept) with ⟨n, hn⟩
  rw [hregrafted.old x n hn, hn]
  simp [hne, hnot]

/-- What is known of the session after the content of a node was replaced by a branch. -/
structure Replaced (scene node replacement : NodeId) (branch : Branch R) (s s' : Session R) : Prop
    extends SameSupplies s s' where
  regrafted : Regrafted scene node replacement s.stage.graph s'.stage.graph
  resources : s.stage.resources.Extends s'.stage.resources
  known : ∀ x n, s.stage.graph.size ≤ x.index → s'.stage.graph.node? x = some n →
    n.payload.Known s'.stage.resources
  shown : s'.stage.Shows
    (branch.rename (.str ((s.stage.graph.name node).display ++ " (replaced)"))) replacement

variable [Zero R] [One R]

/-- A node with a match is replaced by what is in the file of its match: a scene is kept that shows it, and a copy of
this scene is planted. -/
theorem of_packedSceneReplacement {name : Json} {replacement : NodeId} (hs : s.stage.graph.Linked)
    (hscene : scene.index < s.stage.graph.size) (hcatalog : s.shelf.packedSceneCatalog = .ok catalog)
    (hlists : catalog.ListsDirectory root) (hstock : Stocked tools catalog scene s)
    (hmatch : catalog.bestMatch name = .ok (some entry))
    (h : (packedSceneReplacement tools name).runIn s = (.ok replacement, s')) :
    ∃ branch t stage, (tools.loadScene s.disk entry.path).2 = .ok branch ∧ Stocked tools catalog scene t ∧
      s.stage.Enlarged t.stage ∧ SameSupplies s t ∧
      t.stage.Planted (branch.rename (.str (name.display ++ " (replaced)"))) replacement stage ∧
      s' = { t with stage := stage } := by
  rcases runIn_bind_eq_ok_iff.1 h with ⟨s₀, s₁, hsession, hrest₁⟩
  cases hsession
  rcases runIn_bind_eq_ok_iff.1 hrest₁ with ⟨found, s₂, hfound, hrest₂⟩
  rcases runIn_lift_eq_ok_iff.1 hfound with ⟨hfound, rfl⟩
  rw [Shelf.packedSceneFor, hcatalog] at hfound
  cases hmatch.symm.trans hfound
  rcases runIn_bind_eq_ok_iff.1 hrest₂ with ⟨kept, t, hkept, hrest₃⟩
  obtain ⟨branch, hload, hown, hstock', hlarger, hsame⟩ :=
    of_packedScene hs hscene hlists (Catalog.mem_of_bestMatch hmatch) hstock hkept
  rcases runIn_bind_eq_ok_iff.1 hrest₃ with ⟨copy, s₄, hcopy, hrest₄⟩
  rw [runIn_onStage] at hcopy
  rcases Prod.mk.inj hcopy with ⟨hid, rfl⟩
  cases hid
  cases hrest₄
  exact ⟨branch, t, _, hload, hstock', hlarger, hsame, (Stage.copyTree_spec hlarger.linked hown).1.rename _, rfl⟩

/-- The steps of a replacement put together. -/
theorem regraft_of_replaceContent {replacement : NodeId} (hs : s.stage.graph.Linked)
    (hscene : scene.index < s.stage.graph.size) (hcatalog : s.shelf.packedSceneCatalog = .ok catalog)
    (hlists : catalog.ListsDirectory root) (hstock : Stocked tools catalog scene s)
    (hmatch : catalog.bestMatch (s.stage.graph.name node) = .ok (some entry))
    (h : (replaceContent tools scene node).runIn s = (.ok replacement, s')) :
    ∃ branch t stage, (tools.loadScene s.disk entry.path).2 = .ok branch ∧ Stocked tools catalog scene t ∧
      s.stage.Enlarged t.stage ∧ SameSupplies s s' ∧ s'.shelf.packedScenes = t.shelf.packedScenes ∧
      t.disk = s.disk ∧
      t.stage.Planted (branch.rename (.str ((s.stage.graph.name node).display ++ " (replaced)"))) replacement stage ∧
      s'.stage = { graph := regraft scene node replacement stage.graph, resources := stage.resources } := by
  rcases runIn_bind_eq_ok_iff.1 h with ⟨g, s₁, hgraph, hrest₁⟩
  rcases eq_of_graph hgraph with ⟨rfl, rfl⟩
  rcases runIn_bind_eq_ok_iff.1 hrest₁ with ⟨planted, s₂, hplanted, hrest₂⟩
  obtain ⟨branch, t, stage, hload, hstock', hlarger, hsame, hnew, rfl⟩ :=
    of_packedSceneReplacement hs hscene hcatalog hlists hstock hmatch hplanted
  rcases runIn_bind_eq_ok_iff.1 hrest₂ with ⟨⟨⟩, s₃, hqueue, hrest₃⟩
  rcases runIn_bind_eq_ok_iff.1 hrest₃ with ⟨⟨⟩, s₄, hempty, hrest₄⟩
  rcases runIn_bind_eq_ok_iff.1 hrest₄ with ⟨g, s₅, hgraph', hrest₅⟩
  rcases runIn_bind_eq_ok_iff.1 hrest₅ with ⟨linked, s₆, hlift, hrest₆⟩
  rcases runIn_bind_eq_ok_iff.1 hrest₆ with ⟨⟨⟩, s₇, hput, hrest₇⟩
  rcases runIn_bind_eq_ok_iff.1 hrest₇ with ⟨⟨⟩, s₈, hown, hrest₈⟩
  rcases runIn_bind_eq_ok_iff.1 hrest₈ with ⟨g', s₉, hgraph'', hrest₉⟩
  rcases runIn_bind_eq_ok_iff.1 hrest₉ with ⟨⟨⟩, s₁₀, hdebug, hpure⟩
  rcases eq_of_pure hpure with ⟨rfl, rfl⟩
  rcases eq_of_debug hdebug with ⟨journal, hs₁₀⟩
  rcases eq_of_graph hgraph' with ⟨rfl, rfl⟩
  rcases eq_of_graph hgraph'' with ⟨rfl, rfl⟩
  rcases runIn_lift_eq_ok_iff.1 hlift with ⟨hadd, rfl⟩
  have hlinked := of_addChild hadd
  have hs₃ := eq_of_onGraph hqueue
  have hs₄ := eq_of_onGraph hempty
  have hs₇ := eq_of_onGraph hput
  have hs₈ := eq_of_onGraph hown
  -- between the replacement and the last note only the graph has changed
  have hgraph : s₉.stage.graph = regraft scene node replacement stage.graph := by
    simp only [hs₈, hs₇, hlinked, hs₄, hs₃]
    rfl
  have hresources : s₉.stage.resources = stage.resources := by simp only [hs₈, hs₇, hs₄, hs₃]
  have hshelf : s₉.shelf = t.shelf := by simp only [hs₈, hs₇, hs₄, hs₃]
  have hdisk : s₉.disk = t.disk := by simp only [hs₈, hs₇, hs₄, hs₃]
  have hcalls : s₉.unwrapCalls = t.unwrapCalls := by simp only [hs₈, hs₇, hs₄, hs₃]
  have hstage : s₉.stage = { graph := regraft scene node replacement stage.graph, resources := stage.resources } := by
    rw [← hgraph, ← hresources]
  rw [hs₁₀]
  exact ⟨branch, t, stage, hload, hstock', hlarger, ⟨hdisk.trans hsame.disk, hshelf ▸ hsame.catalogs,
    hshelf ▸ hsame.materials, hcalls.trans hsame.unwrapCalls⟩, congrArg Shelf.packedScenes hshelf, hsame.disk, hnew,
    hstage⟩

/-- A child of the scene that has a match keeps its place and gets what is in the file of its match. -/
theorem replaced_of_replaceContent {replacement : NodeId} (hs : s.stage.graph.Linked)
    (hparent : s.stage.graph.parent? node = some scene) (hcatalog : s.shelf.packedSceneCatalog = .ok catalog)
    (hlists : catalog.ListsDirectory root) (hstock : Stocked tools catalog scene s)
    (hmatch : catalog.bestMatch (s.stage.graph.name node) = .ok (some entry))
    (h : (replaceContent tools scene node).runIn s = (.ok replacement, s')) :
    ∃ branch, (tools.loadScene s.disk entry.path).2 = .ok branch ∧ Stocked tools catalog scene s' ∧
      Replaced scene node replacement branch s s' := by
  rcases hs.index_lt_of_mem_children ((hs.mem_children_iff scene node).2 hparent) with ⟨hscene, hnode⟩
  obtain ⟨branch, t, stage, hload, hstock', hlarger, hsame, hpacked, hdisk, hplanted, hstage⟩ :=
    regraft_of_replaceContent hs hscene hcatalog hlists hstock hmatch h
  have hgraph : s'.stage.graph = regraft scene node replacement stage.graph := by rw [hstage]
  have hresources : s'.stage.resources = stage.resources := by rw [hstage]
  have hall := hlarger.planted hplanted
  have hparent' : t.stage.graph.parent? node = some scene := by
    rw [parent?, hlarger.old node hnode, ← parent?, hparent]
  refine ⟨branch, hload, ?_, hsame, ?_, ?_, ?_, ?_⟩
  · have hlater := regrafted_regraft scene hlarger.linked (hnode.trans_le hlarger.size_le) hplanted
    rw [← hgraph] at hlater
    exact hstock'.of_regrafted hlarger.linked hparent' (hsame.disk.trans hdisk.symm) hpacked
      (hresources ▸ hplanted.resources) hlater
  · rw [hgraph]
    exact regrafted_regraft scene hs hnode hall
  · rw [hresources]
    exact hall.resources
  · intro x n hx hn
    rw [hgraph] at hn
    rcases exists_planted_node scene hs hnode hall hx hn with ⟨m, hm, hpayload, -⟩
    rw [hpayload, hresources]
    exact (hall.new x m hx hm).known
  · exact shows_regraft scene hs hnode hall hgraph hresources

end

end LevelPrep
