import LevelPrep.Proofs.Level.Furnishing
import LevelPrep.Proofs.Level.Phases
import LevelPrep.Proofs.Pass.Runs
import LevelPrep.Proofs.Scene.Flushing

/-!
# The phases put together

`Assembled` holds of every conversion that succeeds on an open scene (`exists_assembled`): it relates the live
nodes before, after the passes, after the replacements and after the flush.  From it follows which nodes
are queued when the scene is flushed, and what the flush leaves of each group of children.
-/

namespace LevelPrep

variable {R : Type}

open Work SceneGraph

/-- A scene that can be converted: its tree is in order, and no node of it is to be taken out. -/
structure OpenScene (scene : NodeId) (s : Session R) : Prop where
  linked : s.stage.graph.Linked
  inside : scene.index < s.stage.graph.size
  unqueued : ∀ x n, s.stage.graph.Within scene x → s.stage.graph.node? x = some n → n.queued = false

/-- The session after a scene was planted: what is planted is a scene of its own, and nothing else has
happened to the live nodes. -/
theorem stage_of_plantScene {branch : Branch R} {scene : NodeId} {s s' : Session R}
    (h : (plantScene branch).runIn s = (.ok scene, s')) :
    scene = (Stage.plant branch s.stage).1 ∧
      s' = { s with stage := { (Stage.plant branch s.stage).2 with
        graph := (Stage.plant branch s.stage).2.graph.ownTree scene } } := by
  rcases runIn_bind_eq_ok_iff.1 h with ⟨planted, s₁, hplant, howned⟩
  rcases runIn_bind_eq_ok_iff.1 howned with ⟨⟨⟩, s₂, hown, hpure⟩
  rcases eq_of_pure hpure with ⟨rfl, rfl⟩
  rcases Prod.mk.inj hplant with ⟨hid, rfl⟩
  cases hid
  exact ⟨rfl, eq_of_onGraph hown⟩

/-- A tree that was just planted as a scene is one. -/
theorem ownScene_of_plantScene {branch : Branch R} {scene : NodeId} {s s' : Session R}
    (hs : s.stage.graph.Linked) (h : (plantScene branch).runIn s = (.ok scene, s')) :
    s'.stage.OwnScene branch scene ∧ s.stage.Planted branch scene s'.stage := by
  rcases stage_of_plantScene h with ⟨rfl, rfl⟩
  have hplanted := Stage.plant_spec branch hs
  exact ⟨hplanted.ownScene hs, hplanted.ownTree hs⟩

/-- A scene whose tree was just planted can be converted. -/
theorem openScene_of_plantScene {branch : Branch R} {scene : NodeId} {s s' : Session R}
    (hs : s.stage.graph.Linked) (h : (plantScene branch).runIn s = (.ok scene, s')) :
    OpenScene scene s' := by
  rcases ownScene_of_plantScene hs h with ⟨hscene, hplanted⟩
  exact ⟨hplanted.linked, hscene.index_lt, fun x n hx hn => (hscene.kept hx hn).1⟩

/-- A conversion that succeeded: the session it starts from, the session after the passes, the one after the
replacements, and the one it ends in. -/
structure Assembled [Zero R] [One R] (tools : Tools R) (catalog : Catalog) (scene : NodeId)
    (static replaceable : List NodeId) (s t u s' : Session R) : Prop where
  opened : OpenScene scene s
  sorted : ∀ child, child ∈ s.stage.graph.children scene ↔ child ∈ static ∨ child ∈ replaceable
  apart : ∀ child, child ∈ static → child ∉ replaceable
  disk : t.disk = s.disk
  reshaped : Reshaped scene (· ∈ static) s.stage.graph t.stage.graph
  furnished : Furnished tools catalog scene replaceable t u
  cut : Cut (u.stage.graph.Doomed scene) u.stage.graph s'.stage.graph
  resources : s'.stage.resources = u.stage.resources

namespace Assembled

variable [Zero R] [One R] {tools : Tools R} {catalog : Catalog} {scene : NodeId}
  {static replaceable : List NodeId} {s t u s' : Session R}

section

variable (h : Assembled tools catalog scene static replaceable s t u s')
include h

theorem linked : s'.stage.graph.Linked :=
  h.cut.linked h.furnished.linked

theorem mem_children_of_static {child : NodeId} (hchild : child ∈ static) :
    child ∈ s.stage.graph.children scene :=
  (h.sorted child).2 (Or.inl hchild)

theorem mem_children_of_replaceable {child : NodeId} (hchild : child ∈ replaceable) :
    child ∈ s.stage.graph.children scene :=
  (h.sorted child).2 (Or.inr hchild)

/-- The scene lies in none of the trees of its children. -/
theorem not_within_scene {child : NodeId} (hchild : child ∈ s.stage.graph.children scene) :
    ¬ s.stage.graph.Within child scene :=
  h.opened.linked.not_within_parent hchild

/-- The trees of static and of replaceable children have nothing in common. -/
theorem not_within_static {child root x : NodeId} (hchild : child ∈ replaceable) (hroot : root ∈ static)
    (hx : s.stage.graph.Within child x) : ¬ s.stage.graph.Within root x := by
  intro hrootx
  have heq := h.opened.linked.child_unique (h.mem_children_of_replaceable hchild)
    (h.mem_children_of_static hroot) hx hrootx
  exact h.apart root hroot (heq ▸ hchild)

/-- The passes leave alone what lies in no static tree. -/
theorem node?_passes {x : NodeId} {n : Node R} (hn : s.stage.graph.node? x = some n)
    (hx : ∀ root ∈ static, ¬ s.stage.graph.Within root x) : t.stage.graph.node? x = some n :=
  h.reshaped.node?_of_outside hn hx

theorem children_of_replaceable {child : NodeId} (hchild : child ∈ replaceable) :
    t.stage.graph.children child = s.stage.graph.children child := by
  obtain ⟨n, hn⟩ := exists_node?_iff.2
    (h.opened.linked.index_lt_of_mem_children (h.mem_children_of_replaceable hchild)).2
  rw [children_of_node? hn, children_of_node? (h.node?_passes hn fun root hroot =>
    h.not_within_static hchild hroot (Within.refl _ child))]

/-- A node that the replacements queue lies below a replaceable child. -/
theorem queued_iff {x : NodeId} {n : Node R} (hn : t.stage.graph.node? x = some n)
    (hx : x ∉ replaceable) : u.stage.graph.node? x = some
      { n with queued := n.queued || decide (∃ r ∈ replaceable, x ∈ s.stage.graph.children r) } := by
  rw [h.furnished.others x n hn hx]
  congr 3
  refine decide_eq_decide.2 (exists_congr fun r => and_congr_right fun hr => ?_)
  rw [h.children_of_replaceable hr]

/-! ### What is queued at the flush -/

theorem not_mem_children_of_static {root x : NodeId} (hroot : root ∈ static)
    (hx : s.stage.graph.Within root x) :
    x ∉ replaceable ∧ ∀ r ∈ replaceable, x ∉ s.stage.graph.children r := by
  constructor
  · intro hmem
    exact h.not_within_static hmem hroot (Within.refl _ x) hx
  · intro r hr hmem
    exact h.not_within_static hr hroot ((Within.refl _ r).child hmem) hx

/-- The replacements leave a node alone that is neither replaced nor the child of a replaced node. -/
theorem node?_replacements {x : NodeId} {n : Node R} (hn : t.stage.graph.node? x = some n)
    (hx : x ∉ replaceable) (hparent : ∀ r ∈ replaceable, x ∉ s.stage.graph.children r) :
    u.stage.graph.node? x = some n := by
  have hnot : ¬ ∃ r ∈ replaceable, x ∈ s.stage.graph.children r := by
    rintro ⟨r, hr, hmem⟩
    exact hparent r hr hmem
  rw [h.queued_iff hn hx]
  simp [hnot]

/-- A node that the passes have made is left alone by the replacements. -/
theorem node?_replacements_of_new {x : NodeId} {n : Node R} (hn : t.stage.graph.node? x = some n)
    (hx : s.stage.graph.size ≤ x.index) : u.stage.graph.node? x = some n := by
  refine h.node?_replacements hn ?_ ?_
  · intro hmem
    exact absurd (h.opened.linked.index_lt_of_mem_children (h.mem_children_of_replaceable hmem)).2
      (Nat.not_lt.2 hx)
  · intro r _ hmem
    exact absurd (h.opened.linked.index_lt_of_mem_children hmem).2 (Nat.not_lt.2 hx)

theorem unqueued_of_static {root x : NodeId} (hroot : root ∈ static) (hx : s.stage.graph.Within root x) :
    u.stage.graph.isQueued x = false := by
  have hscene := ((Within.refl _ scene).child (h.mem_children_of_static hroot)).trans hx
  rcases exists_node?_iff.2 (h.opened.linked.index_lt_of_within hscene h.opened.inside) with ⟨n, hn⟩
  rcases h.reshaped.old x n hn with ⟨change, bodies, ht, -⟩
  rcases h.not_mem_children_of_static hroot hx with ⟨hnot, hparent⟩
  simp [isQueued, h.node?_replacements ht hnot hparent, h.opened.unqueued x n hscene hn]

theorem unqueued_of_new {x : NodeId} (hx : s.stage.graph.size ≤ x.index) :
    u.stage.graph.isQueued x = false := by
  unfold isQueued
  cases hn : u.stage.graph.node? x with
  | none => rfl
  | some n =>
      by_cases hlate : t.stage.graph.size ≤ x.index
      · exact (h.furnished.new x n hlate hn).1
      · rcases exists_node?_iff.2 (Nat.not_le.1 hlate) with ⟨m, hm⟩
        cases (h.node?_replacements_of_new hm hx).symm.trans hn
        exact (h.reshaped.new x n hx hm).1

theorem unqueued_of_child {child : NodeId} (hchild : child ∈ s.stage.graph.children scene) :
    u.stage.graph.isQueued child = false := by
  rcases (h.sorted child).1 hchild with hstatic | hreplaceable
  · exact h.unqueued_of_static hstatic (Within.refl _ child)
  · rcases exists_node?_iff.2 (h.opened.linked.index_lt_of_mem_children hchild).2 with ⟨n, hn⟩
    have ht := h.node?_passes hn fun root hroot =>
      h.not_within_static hreplaceable hroot (Within.refl _ child)
    rcases h.furnished.replaced child n ht hreplaceable with ⟨_, _, _, -, -, -, hu, -⟩
    have hnot : ¬ ∃ r ∈ replaceable, child ∈ t.stage.graph.children r := by
      rintro ⟨r, hr, hmem⟩
      rw [h.children_of_replaceable hr] at hmem
      have heq := h.opened.linked.parent_unique hmem hchild
      subst heq
      exact h.not_within_scene (h.mem_children_of_replaceable hr) (Within.refl _ r)
    have hqueued := h.opened.unqueued child n ((Within.refl _ scene).child hchild) hn
    simp [isQueued, hu, hqueued, hnot]

theorem queued_of_replaced {r x : NodeId} (hr : r ∈ replaceable) (hx : x ∈ s.stage.graph.children r) :
    u.stage.graph.isQueued x = true := by
  have hlinked := h.opened.linked
  have hrscene := h.mem_children_of_replaceable hr
  rcases exists_node?_iff.2 (hlinked.index_lt_of_mem_children hx).2 with ⟨n, hn⟩
  have ht := h.node?_passes hn fun root hroot =>
    h.not_within_static hr hroot ((Within.refl _ r).child hx)
  have hnot : x ∉ replaceable := by
    intro hmem
    have heq := hlinked.parent_unique hx (h.mem_children_of_replaceable hmem)
    subst heq
    exact h.not_within_scene hrscene (Within.refl _ r)
  have hmark : ∃ r ∈ replaceable, x ∈ s.stage.graph.children r := ⟨r, hr, hx⟩
  simp [isQueued, h.queued_iff ht hnot, hmark]

/-! ### What the flush leaves -/

/-- The scene itself is the same up to the flush. -/
theorem node?_scene_of_replacements : u.stage.graph.node? scene = s.stage.graph.node? scene := by
  rcases exists_node?_iff.2 h.opened.inside with ⟨n, hn⟩
  have ht := h.node?_passes hn fun root hroot =>
    h.not_within_scene (h.mem_children_of_static hroot)
  rw [hn]
  refine h.node?_replacements ht ?_ ?_
  · intro hmem
    exact h.not_within_scene (h.mem_children_of_replaceable hmem) (Within.refl _ scene)
  · intro r hr hmem
    exact h.not_within_scene (h.mem_children_of_replaceable hr) ((Within.refl _ r).child hmem)

/-- The flush leaves the scene itself and its children as they were. -/
theorem node?_scene : s'.stage.graph.node? scene = s.stage.graph.node? scene := by
  rcases exists_node?_iff.2 h.opened.inside with ⟨n, hn⟩
  have hu := h.node?_scene_of_replacements.trans hn
  rw [hn]
  refine h.cut.node?_eq_of_unqueued (fun _ hx => hx.1) hu ?_ ?_
  · simp [isQueued, hu, h.opened.unqueued scene n (Within.refl _ scene) hn]
  · intro child hchild
    exact h.unqueued_of_child (by rwa [children_of_node? hn])

/-- The flush leaves the static trees as the passes have left them. -/
theorem node?_static {root x : NodeId} {n : Node R} (hroot : root ∈ static)
    (hx : s.stage.graph.Within root x) (hn : t.stage.graph.node? x = some n) :
    s'.stage.graph.node? x = some n := by
  rcases h.not_mem_children_of_static hroot hx with ⟨hnot, hparent⟩
  have hscene := ((Within.refl _ scene).child (h.mem_children_of_static hroot)).trans hx
  rcases exists_node?_iff.2 (h.opened.linked.index_lt_of_within hscene h.opened.inside) with ⟨m, hm⟩
  rcases h.reshaped.old x m hm with ⟨change, bodies, ht, hbodies, -⟩
  refine h.cut.node?_eq_of_unqueued (fun _ hx => hx.1) (h.node?_replacements hn hnot hparent)
    (h.unqueued_of_static hroot hx) ?_
  intro child hchild
  cases ht.symm.trans hn
  rcases List.mem_append.1 hchild with hold | hbody
  · exact h.unqueued_of_static hroot (hx.child (by rwa [children_of_node? hm]))
  · exact h.unqueued_of_new (hbodies child hbody).2.1

/-- The bodies that the passes have made stay. -/
theorem isBody_kept {root body : NodeId} (hnew : s.stage.graph.size ≤ body.index)
    (hbody : t.stage.graph.IsBody scene root body) : s'.stage.graph.IsBody scene root body := by
  rcases hbody with ⟨name, transform, layer, mask, shape, hb, hh⟩
  have hnew' : s.stage.graph.size ≤ (⟨body.index + 1⟩ : NodeId).index := Nat.le_succ_of_le hnew
  refine ⟨name, transform, layer, mask, shape, ?_, ?_⟩
  · refine h.cut.node?_eq_of_unqueued (fun _ hx => hx.1) (h.node?_replacements_of_new hb hnew)
      (h.unqueued_of_new hnew) ?_
    intro child hchild
    rw [List.mem_singleton.1 hchild]
    exact h.unqueued_of_new hnew'
  · exact h.cut.node?_eq_of_unqueued (fun _ hx => hx.1) (h.node?_replacements_of_new hh hnew')
      (h.unqueued_of_new hnew') (by simp)

/-- The replacements are left with all that is below them. -/
theorem shows_kept {replacement : NodeId} {branch : Branch R}
    (hnew : t.stage.graph.size ≤ replacement.index) (hshown : u.stage.Shows branch replacement) :
    s'.stage.Shows branch replacement := by
  have hwithin : ∀ x, u.stage.graph.Within replacement x → u.stage.graph.isQueued x = false := by
    intro x hx
    have hlate := Stage.le_index_of_within h.reshaped.linked h.furnished.linked
      (fun y => h.furnished.parent?_eq) hnew hx
    exact h.unqueued_of_new (h.reshaped.size_le.trans hlate)
  refine hshown.of_same fun x hx n hn => ⟨n, ?_, rfl, rfl, ?_, rfl⟩
  · refine h.cut.node?_eq_of_unqueued (fun _ hx => hx.1) hn (hwithin x hx) fun child hchild => ?_
    exact hwithin child (hx.child (by rwa [children_of_node? hn]))
  · unfold Stage.payloadValue
    rw [h.resources]

theorem doomed_of_replaced {r x : NodeId} (hr : r ∈ replaceable) (hx : x ∈ s.stage.graph.children r) :
    u.stage.graph.Doomed scene x := by
  have hrscene := h.mem_children_of_replaceable hr
  rcases exists_node?_iff.2 (h.opened.linked.index_lt_of_mem_children hrscene).2 with ⟨n, hn⟩
  have ht := h.node?_passes hn fun root hroot => h.not_within_static hr hroot (Within.refl _ r)
  rcases h.furnished.replaced r n ht hr with ⟨_, _, _, -, -, -, hu, -⟩
  have hreached : r ∈ u.stage.graph.children scene := by
    rwa [children, h.node?_scene_of_replacements, ← children]
  refine ⟨h.queued_of_replaced hr hx, r, .single ⟨hreached, h.unqueued_of_child hrscene⟩, ?_⟩
  rw [children_of_node? hu]
  rw [children_of_node? hn] at hx
  exact List.mem_append_left _ hx

/-- A replaceable child is left with its new content and nothing else below it. -/
theorem node?_replaceable {r : NodeId} {n : Node R} (hr : r ∈ replaceable)
    (hn : s.stage.graph.node? r = some n) : ∃ entry branch replacement,
      catalog.bestMatch n.name = .ok (some entry) ∧
      (tools.loadScene s.disk entry.path).2 = .ok branch ∧
      s.stage.graph.size ≤ replacement.index ∧
      s'.stage.graph.node? r = some
        { n with
          payload := n.payload.mapInstance fun i => { i with mesh := none }
          children := [replacement] } ∧
      s'.stage.Shows (branch.rename (.str (n.name.display ++ " (replaced)"))) replacement := by
  classical
  have hrscene := h.mem_children_of_replaceable hr
  have ht := h.node?_passes hn fun root hroot => h.not_within_static hr hroot (Within.refl _ r)
  obtain ⟨entry, branch, replacement, hmatch, hload, hnew, hu, hshown⟩ :=
    h.furnished.replaced r n ht hr
  have hfresh := h.reshaped.size_le.trans hnew
  rw [h.disk] at hload
  refine ⟨entry, branch, replacement, hmatch, hload, hfresh, ?_, h.shows_kept hnew hshown⟩
  -- of the children only the replacement is left: the old ones were queued, and it is new
  have hold : n.children.filter (fun child => ¬ u.stage.graph.Doomed scene child) = [] := by
    refine List.filter_eq_nil_iff.2 fun child hchild => ?_
    simp [h.doomed_of_replaced hr (by rwa [children_of_node? hn] : child ∈ s.stage.graph.children r)]
  have hkept : ∀ x, u.stage.graph.isQueued x = false → ¬ u.stage.graph.Doomed scene x := by
    intro x hx hd
    rw [hd.1] at hx
    cases hx
  have hchildren : (n.children ++ [replacement]).filter
      (fun child => ¬ u.stage.graph.Doomed scene child) = [replacement] := by
    rw [List.filter_append, hold]
    simp [hkept replacement (h.unqueued_of_new hfresh)]
  have hqueued := h.unqueued_of_child hrscene
  simp only [isQueued, hu, Option.any_some] at hqueued
  have hmark := hqueued.trans
    (h.opened.unqueued r n ((Within.refl _ scene).child hrscene) hn).symm
  rw [h.cut.node?_eq, hu]
  simp only [Option.map_some, hmark, if_neg (hkept r (h.unqueued_of_child hrscene))]
  congr

end

end Assembled

/-- After sorting, the static children can be worked on. -/
theorem Sorted.workable {p : LevelProcessor R} {scene : NodeId} {s sorted : Session R} {shelf : Shelf}
    {catalog : Catalog} (h : Sorted p scene s shelf catalog sorted) (hs : s.stage.graph.Linked) :
    Workable (· ∈ staticChildren catalog scene s.stage.graph) sorted := by
  rcases h.sorted_eq with ⟨journal, rfl⟩
  exact ⟨hs, fun root hroot => (hs.index_lt_of_mem_children (List.mem_filter.1 hroot).1).2⟩

/-- After the passes, the children with a match can be replaced: passes keep names, and no packaged scene has been
loaded yet. -/
theorem Sorted.furnishable [Zero R] [One R] {p : LevelProcessor R} {scene : NodeId} {s sorted t : Session R}
    {shelf : Shelf} {catalog : Catalog} (h : Sorted p scene s shelf catalog sorted) (hs : s.stage.graph.Linked)
    (hworked : Worked scene (· ∈ staticChildren catalog scene s.stage.graph) sorted t) :
    Furnishable p.tools catalog scene (replaceableChildren catalog scene s.stage.graph) t := by
  have hreshaped := hworked.reshaped (h.workable hs)
  rcases h.sorted_eq with ⟨journal, rfl⟩
  refine ⟨hreshaped.linked, (Shelf.packedSceneCatalog_congr hworked.catalogs).trans h.catalog_eq,
    Shelf.exists_listsDirectory h.opened h.catalog_eq, ?_, (hs.nodup_children scene).filter _, ?_⟩
  · intro entry _ kept hkept
    rw [hworked.packedScenes, (Shelf.of_ofSettings h.opened).2.1] at hkept
    cases hkept
  · intro node hnode
    -- the match was looked up before the passes, under a name that they have left alone
    rcases List.mem_filter.1 hnode with ⟨hmem, hmatch⟩
    have hlt := (hs.index_lt_of_mem_children hmem).2
    rcases exists_node?_iff.2 (hlt.trans_le hreshaped.size_le) with ⟨n, hn⟩
    rcases h.answered node hmem with ⟨found, hfound⟩
    have hname : t.stage.graph.name node = n.name := by simp [SceneGraph.name, hn]
    rw [Catalog.hasMatch_of_bestMatch hfound] at hmatch
    rcases Option.isSome_iff_exists.1 hmatch with ⟨entry, rfl⟩
    have hparent := hreshaped.parent?_eq hlt
    rw [parent?_of_node? hn, (hs.mem_children_iff scene node).1 hmem] at hparent
    refine ⟨n, entry, hn, hparent, ?_⟩
    rw [← hname, hreshaped.name_eq hlt]
    exact hfound

/-- Every conversion that succeeds on an open scene is put together like this. -/
theorem exists_assembled [Zero R] [One R] [Add R] [Mul R] {p : LevelProcessor R} {scene : NodeId}
    {s s' : Session R} (hscene : OpenScene scene s) (hrun : (p.convert scene).runIn s = (.ok (), s')) :
    ∃ shelf catalog sorted t u, Converted p scene s s' shelf catalog sorted t u ∧
      Assembled p.tools catalog scene (staticChildren catalog scene s.stage.graph)
        (replaceableChildren catalog scene s.stage.graph) s t u s' := by
  rcases exists_converted hrun with ⟨shelf, catalog, sorted, t, u, hconverted⟩
  refine ⟨shelf, catalog, sorted, t, u, hconverted, ?_⟩
  have hsorted := hconverted.toSorted
  have hworkable := hsorted.workable hscene.linked
  have hworked : Worked scene (· ∈ staticChildren catalog scene s.stage.graph) sorted t :=
    worked_of_static hworkable (fun _ hnode => hnode) hconverted.passes
  have hreshaped := hworked.reshaped hworkable
  have hfurnished := (hsorted.furnishable hscene.linked hworked).furnished hconverted.replacements
  rcases hconverted.sorted_eq with ⟨journal, rfl⟩
  refine ⟨hscene, fun _ => mem_children_iff_sorted, fun _ => not_mem_replaceable_of_static, hworked.disk, hreshaped,
    hfurnished, ?_, by rw [hconverted.flushed]⟩
  rw [hconverted.flushed]
  refine flush_spec hfurnished.linked ?_
  exact hscene.inside.trans_le (hreshaped.size_le.trans hfurnished.size_le)

end LevelPrep
