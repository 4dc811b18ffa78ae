import LevelPrep.Proofs.Level.Assembly
import LevelPrep.Proofs.Level.Independence
import LevelPrep.Proofs.Pass.Growing

/-!
# Conversions that fail

Nothing is taken back when a conversion fails.  Still it loses no node (`Intact`), and it leaves alone what it has
not reached yet (`Untouched`): everything if it fails before the first pass, the children that come later if it fails
in a pass, and the child itself as well if it fails in a replacement, as a packaged scene is loaded before its place
is cleared (`FailsAt`).
-/

namespace LevelPrep

variable {R : Type}

open Work SceneGraph

/-! ## Nodes that are still there -/

/-- The nodes of a graph are still there: each has its name, its transform and its parent, and its children in their
order, perhaps with others behind them; and what was below the scene still is. -/
structure SceneGraph.Intact (scene : NodeId) (g g' : SceneGraph R) : Prop where
  nodes : ∀ x n, g.node? x = some n → ∃ n', g'.node? x = some n' ∧ n'.name = n.name ∧
    n'.transform = n.transform ∧ n'.parent = n.parent ∧ n.children <+: n'.children
  reachable : ∀ x, g.Within scene x → g'.Within scene x

namespace SceneGraph.Intact

variable {scene x child : NodeId} {g g' g'' : SceneGraph R}

theorem of_nodes (h : ∀ x n, g.node? x = some n → ∃ n', g'.node? x = some n' ∧ n'.name = n.name ∧
    n'.transform = n.transform ∧ n'.parent = n.parent ∧ n.children <+: n'.children) : g.Intact scene g' := by
  refine ⟨h, fun x hx => hx.of_same_children fun y _ child hchild => ?_⟩
  rcases exists_node?_of_mem_children hchild with ⟨n, hn, hmem⟩
  rcases h y n hn with ⟨n', hn', -, -, -, hchildren⟩
  rw [children_of_node? hn']
  exact hchildren.subset hmem

theorem refl (scene : NodeId) (g : SceneGraph R) : g.Intact scene g :=
  .of_nodes fun _ n hn => ⟨n, hn, rfl, rfl, rfl, List.prefix_rfl⟩

theorem trans (h : g.Intact scene g') (h' : g'.Intact scene g'') : g.Intact scene g'' := by
  refine .of_nodes fun x n hn => ?_
  rcases h.nodes x n hn with ⟨n', hn', hname, htransform, hparent, hchildren⟩
  rcases h'.nodes x n' hn' with ⟨n'', hn'', hname', htransform', hparent', hchildren'⟩
  exact ⟨n'', hn'', hname'.trans hname, htransform'.trans htransform, hparent'.trans hparent,
    hchildren.trans hchildren'⟩

theorem name_eq (h : g.Intact scene g') (hx : x.index < g.size) : g'.name x = g.name x := by
  rcases exists_node?_iff.2 hx with ⟨n, hn⟩
  rcases h.nodes x n hn with ⟨n', hn', hname, -⟩
  simp [SceneGraph.name, hn, hn', hname]

theorem mem_children (h : g.Intact scene g') (hchild : child ∈ g.children x) : child ∈ g'.children x := by
  rcases exists_node?_of_mem_children hchild with ⟨n, hn, hmem⟩
  rcases h.nodes x n hn with ⟨n', hn', -, -, -, hchildren⟩
  rw [children_of_node? hn']
  exact hchildren.subset hmem

/-- Passes lose no node. -/
theorem of_reshaped [Zero R] [One R] {roots : NodeId → Prop} (h : g.Reshaped scene roots g') :
    g.Intact scene g' := by
  refine .of_nodes fun x n hn => ?_
  rcases h.old x n hn with ⟨change, bodies, hn', -⟩
  exact ⟨_, hn', rfl, rfl, rfl, List.prefix_append _ _⟩

/-- Replacements lose no node: what they take out is only marked. -/
theorem of_furnished {tools : Tools R} {catalog : Catalog} {done : List NodeId} {s t : Session R}
    (h : Furnished tools catalog scene done s t) : s.stage.graph.Intact scene t.stage.graph := by
  refine .of_nodes fun x n hn => ?_
  by_cases hx : x ∈ done
  · rcases h.replaced x n hn hx with ⟨_, _, replacement, -, -, -, hn', -⟩
    exact ⟨_, hn', rfl, rfl, rfl, List.prefix_append _ _⟩
  · exact ⟨_, h.others x n hn hx, rfl, rfl, rfl, List.prefix_rfl⟩

end SceneGraph.Intact

/-! ## Trees that are left alone -/

/-- A tree that is left alone: all of its nodes are the same, and so is its dump, unless the unwrapper has changed
what meshes refer to. -/
structure Untouched (tools : Tools R) (root : NodeId) (s s' : Session R) : Prop where
  nodes : ∀ x, s.stage.graph.Within root x → s'.stage.graph.node? x = s.stage.graph.node? x
  dump : tools.OnlyAdds → s'.stage.snapshot? root = s.stage.snapshot? root

/-- A tree of the same nodes is dumped as before: owners have kept their names, and meshes refer to what they
referred to. -/
theorem Ready.untouched {tools : Tools R} {scene root : NodeId} {s s' : Session R} (hs : Ready scene s)
    (hintact : s.stage.graph.Intact scene s'.stage.graph) (hlinked : s'.stage.graph.Linked)
    (hext : tools.OnlyAdds → s.stage.resources.Extends s'.stage.resources)
    (hnodes : ∀ x, s.stage.graph.Within root x → s'.stage.graph.node? x = s.stage.graph.node? x) :
    Untouched tools root s s' where
  nodes := hnodes
  dump hadds := by
    refine Stage.snapshot?_congr hs.linked hlinked fun x hx => ?_
    have hnode := hnodes x hx
    refine ⟨Stage.head?_of_same hs.sound (hext hadds) hnode fun owner howner => ?_, ?_⟩
    · rcases Option.bind_eq_some_iff.1 howner with ⟨n, hn, howner⟩
      exact hintact.name_eq (hs.owned x n owner hn howner)
    · rw [SceneGraph.children, hnode, SceneGraph.children]

namespace Untouched

variable {tools : Tools R} {scene root : NodeId} {s s' t : Session R}

theorem of_stage (h : Untouched tools root s t) (hstage : s'.stage = t.stage) : Untouched tools root s s' :=
  ⟨hstage ▸ h.nodes, hstage ▸ h.dump⟩

theorem mesh?_eq (h : Untouched tools root s s') : s'.stage.graph.mesh? root = s.stage.graph.mesh? root := by
  rw [SceneGraph.mesh?, SceneGraph.meshInstance?, h.nodes root (Within.refl _ root)]
  rfl

/-- The nodes of a child that is left alone are not marked, as no node of an open scene is. -/
theorem unqueued (h : Untouched tools root s s') (hopen : OpenScene scene s)
    (hroot : root ∈ s.stage.graph.children scene) :
    ∀ x ∈ s.stage.graph.children root, s'.stage.graph.isQueued x = false := by
  intro x hx
  have hin := (Within.refl _ root).child hx
  rw [SceneGraph.isQueued, h.nodes x hin]
  cases hx' : s.stage.graph.node? x with
  | none => rfl
  | some n => exact hopen.unqueued x n (((Within.refl _ scene).child hroot).trans hin) hx'

end Untouched

/-- Passes on some children of a scene leave the trees of the other children alone. -/
theorem SceneGraph.Reshaped.node?_of_sibling [Zero R] [One R] {g g' : SceneGraph R} {scene child x : NodeId}
    {roots : NodeId → Prop} (h : g.Reshaped scene roots g') (hg : g.Linked)
    (hroots : ∀ root, roots root → root ∈ g.children scene) (hchild : child ∈ g.children scene)
    (hleft : ¬ roots child) (hx : g.Within child x) : g'.node? x = g.node? x := by
  rcases exists_node?_iff.2 (hg.index_lt_of_within hx (hg.index_lt_of_mem_children hchild).2) with ⟨n, hn⟩
  rw [hn]
  refine h.node?_of_outside hn fun root hroot hin => ?_
  have heq := hg.child_unique hchild (hroots root hroot) hx hin
  exact hleft (heq ▸ hroot)

/-- Replacements in some children of a scene leave the trees of the other children alone. -/
theorem Furnished.node?_of_sibling {tools : Tools R} {catalog : Catalog} {done : List NodeId} {s t : Session R}
    {scene child x : NodeId} (h : Furnished tools catalog scene done s t) (hs : s.stage.graph.Linked)
    (hdone : ∀ r ∈ done, r ∈ s.stage.graph.children scene) (hchild : child ∈ s.stage.graph.children scene)
    (hleft : child ∉ done) (hx : s.stage.graph.Within child x) :
    t.stage.graph.node? x = s.stage.graph.node? x := by
  rcases exists_node?_iff.2 (hs.index_lt_of_within hx (hs.index_lt_of_mem_children hchild).2) with ⟨n, hn⟩
  have hapart : ∀ r ∈ done, ¬ s.stage.graph.Within r x := by
    intro r hr hin
    have heq := hs.child_unique hchild (hdone r hr) hx hin
    exact hleft (heq ▸ hr)
  have hfresh : x ∉ done := fun hmem => hapart x hmem (Within.refl _ x)
  have hmark : ¬ ∃ r ∈ done, x ∈ s.stage.graph.children r := by
    rintro ⟨r, hr, hmem⟩
    exact hapart r hr ((Within.refl _ r).child hmem)
  rw [hn, h.others x n hn hfresh]
  simp [hmark]

/-! ## Where a conversion fails -/

variable [Zero R] [One R] [Add R] [Mul R]

/-- Where a conversion has failed, and what it has left alone. -/
inductive FailsAt (p : LevelProcessor R) (scene : NodeId) (s s' : Session R) (fault : Fault) : Prop
  /-- The catalogs could not be opened. -/
  | opening (hopen : Shelf.ofSettings s.disk p.settings.catalogs = .error fault)
      (hspared : s'.stage = s.stage)
  /-- There is no catalog of packaged scenes. -/
  | unconfigured {shelf : Shelf} (hopen : Shelf.ofSettings s.disk p.settings.catalogs = .ok shelf)
      (hcatalog : shelf.packedSceneCatalog = .error fault) (hspared : s'.stage = s.stage)
  /-- A child could not be looked up. -/
  | unanswered {shelf : Shelf} {catalog : Catalog} {child : NodeId}
      (hopen : Shelf.ofSettings s.disk p.settings.catalogs = .ok shelf)
      (hcatalog : shelf.packedSceneCatalog = .ok catalog) (hchild : child ∈ s.stage.graph.children scene)
      (hmatch : catalog.bestMatch (s.stage.graph.name child) = .error fault) (hspared : s'.stage = s.stage)
  /-- A pass failed on a static child: the static children after it and all replaceable ones are left alone. -/
  | working {shelf : Shelf} {catalog : Catalog} {done later : List NodeId} {child : NodeId}
      {ran left : List PassKind} {kind : PassKind} {sorted t u : Session R}
      (hsorted : Sorted p scene s shelf catalog sorted)
      (hchildren : staticChildren catalog scene s.stage.graph = done ++ child :: later)
      (hpasses : p.passes = ran ++ kind :: left)
      (hdone : (done.forM fun node => p.passes.forM fun pass => pass.apply (p.context scene) node).runIn sorted =
        (.ok (), t))
      (hran : (ran.forM fun pass => pass.apply (p.context scene) child).runIn t = (.ok (), u))
      (hfail : (kind.apply (p.context scene) child).runIn u = (.error fault, s'))
      (hspared : ∀ other ∈ later ++ replaceableChildren catalog scene s.stage.graph, Untouched p.tools other s s')
  /-- The packaged scene for a replaceable child could not be loaded: the child and the replaceable children after
  it are left alone.  The child has its mesh, and none of its children is marked. -/
  | loading {shelf : Shelf} {catalog : Catalog} {done later : List NodeId} {child : NodeId}
      {entry : CatalogEntry} {sorted t u : Session R} (hsorted : Sorted p scene s shelf catalog sorted)
      (hchildren : replaceableChildren catalog scene s.stage.graph = done ++ child :: later)
      (hmatch : catalog.bestMatch (s.stage.graph.name child) = .ok (some entry))
      (hload : (p.tools.loadScene s.disk entry.path).2 = .error fault)
      (hpasses : ((staticChildren catalog scene s.stage.graph).forM fun node =>
        p.passes.forM fun pass => pass.apply (p.context scene) node).runIn sorted = (.ok (), t))
      (hdone : (done.forM fun node => discard (replaceContent p.tools scene node)).runIn t = (.ok (), u))
      (hfail : (replaceContent p.tools scene child).runIn u = (.error fault, s'))
      (hspared : ∀ other ∈ child :: later, Untouched p.tools other s s')
      (hmesh : s'.stage.graph.mesh? child = s.stage.graph.mesh? child)
      (hunqueued : ∀ x ∈ s.stage.graph.children child, s'.stage.graph.isQueued x = false)

variable {p : LevelProcessor R} {scene : NodeId} {s s' sorted worked : Session R} {shelf : Shelf}
  {catalog : Catalog} {fault : Fault}

/-- The resources after the passes, on whatever children they have run. -/
theorem Sorted.extends (h : Sorted p scene s shelf catalog sorted) {nodes : List NodeId}
    {outcome : Except Fault Unit}
    (hrun : (nodes.forM fun node => p.passes.forM fun pass => pass.apply (p.context scene) node).runIn sorted =
      (outcome, s')) (hadds : p.tools.OnlyAdds) : s.stage.resources.Extends s'.stage.resources := by
  have hgrows := grows_static (show (p.context scene).tools.OnlyAdds from hadds) p.passes nodes sorted
  rw [hrun] at hgrows
  rcases h.sorted_eq with ⟨journal, rfl⟩
  exact hgrows

omit [Add R] [Mul R] in
/-- The nodes of a scene after passes over some of its static children. -/
theorem Sorted.reshaped {nodes : List NodeId} (h : Sorted p scene s shelf catalog sorted)
    (hs : s.stage.graph.Linked) (hnodes : ∀ node ∈ nodes, node ∈ staticChildren catalog scene s.stage.graph)
    (hworked : Worked scene (· ∈ nodes) sorted s') :
    Reshaped scene (· ∈ nodes) s.stage.graph s'.stage.graph := by
  have hreshaped := hworked.reshaped ((h.workable hs).mono hnodes)
  rcases h.sorted_eq with ⟨journal, rfl⟩
  exact hreshaped

/-- A pass that fails has not reached the static children after the one it fails on, nor any replaceable one. -/
theorem failsAt_of_static (hs : Ready scene s) (hsorted : Sorted p scene s shelf catalog sorted)
    (hrun : ((staticChildren catalog scene s.stage.graph).forM fun node =>
      p.passes.forM fun pass => pass.apply (p.context scene) node).runIn sorted = (.error fault, s')) :
    s.stage.graph.Intact scene s'.stage.graph ∧ FailsAt p scene s s' fault := by
  have hg := hs.linked
  rcases exists_of_forM_error hrun with ⟨done, child, later, t, hchildren, hdone, hchild⟩
  rcases exists_of_forM_error hchild with ⟨ran, kind, left, u, hpasses, hran, hfail⟩
  have hsplit : staticChildren catalog scene s.stage.graph = (done ++ [child]) ++ later := by simp [hchildren]
  have hnodes : ∀ node ∈ done ++ [child], node ∈ staticChildren catalog scene s.stage.graph := fun node hnode =>
    hsplit ▸ List.mem_append_left later hnode
  -- up to the failing pass, nothing but the children in question was worked on
  have hworkable := (hsorted.workable hg).mono hnodes
  have hin : child ∈ done ++ [child] := by simp
  have hfirst : Worked scene (· ∈ done ++ [child]) sorted t :=
    worked_of_static hworkable (fun node hnode => List.mem_append_left _ hnode) hdone
  have hnext : Worked scene (· ∈ done ++ [child]) t u := worked_of_passes (hfirst.workable hworkable) hin hran
  have hlast : Worked scene (· ∈ done ++ [child]) u s' :=
    worked_of_apply (hnext.workable (hfirst.workable hworkable)) hin hfail
  have hreshaped := hsorted.reshaped hg hnodes (hfirst.trans (hnext.trans hlast))
  have hintact : s.stage.graph.Intact scene s'.stage.graph := .of_reshaped hreshaped
  refine ⟨hintact, .working hsorted hchildren hpasses hdone hran hfail fun other hother => ?_⟩
  have hscene : other ∈ s.stage.graph.children scene := by
    refine mem_children_iff_sorted.2 ((List.mem_append.1 hother).imp (fun hlater => ?_) id)
    rw [hsplit]
    exact List.mem_append_right _ hlater
  have hleft : other ∉ done ++ [child] := by
    intro hmem
    rcases List.mem_append.1 hother with hlater | hreplaceable
    · have hnodup : (staticChildren catalog scene s.stage.graph).Nodup := (hg.nodup_children scene).filter _
      rw [hsplit] at hnodup
      exact List.disjoint_of_nodup_append hnodup hmem hlater
    · exact not_mem_replaceable_of_static (hnodes other hmem) hreplaceable
  have hroots : ∀ root ∈ done ++ [child], root ∈ s.stage.graph.children scene := fun root hroot =>
    mem_children_iff_sorted.2 (Or.inl (hnodes root hroot))
  exact hs.untouched hintact hreshaped.linked (hsorted.extends hrun) fun x hx =>
    hreshaped.node?_of_sibling hg hroots hscene hleft hx

omit [Add R] [Mul R] in
/-- Where replacements fail, a packaged scene could not be loaded, and nothing has happened since the last
replacement. -/
theorem Furnishable.of_error {nodes : List NodeId} {t : Session R} {tools : Tools R}
    (h : Furnishable tools catalog scene nodes t)
    (hrun : (nodes.forM fun node => discard (replaceContent tools scene node)).runIn t = (.error fault, s')) :
    ∃ done child later u n entry, nodes = done ++ child :: later ∧
      (done.forM fun node => discard (replaceContent tools scene node)).runIn t = (.ok (), u) ∧
      Furnished tools catalog scene done t u ∧ (replaceContent tools scene child).runIn u = (.error fault, s') ∧
      t.stage.graph.node? child = some n ∧ catalog.bestMatch n.name = .ok (some entry) ∧
      (tools.loadScene t.disk entry.path).2 = .error fault ∧ s'.stage = u.stage := by
  rcases exists_of_forM_error hrun with ⟨done, child, later, u, hsplit, hdone, hchild⟩
  rw [runIn_discard_eq_error_iff] at hchild
  have hfurnished : Furnished tools catalog scene done t u := (of_append (hsplit ▸ h)).furnished hdone
  obtain ⟨-, n, entry, hn, hparent, hcatalog, hname, hmatch⟩ := h.exists_next hsplit hfurnished
  rcases h.lists with ⟨root, hlists⟩
  rcases cases_of_replaceContent hfurnished.linked hparent hcatalog hlists hfurnished.stocked
      (hname.symm ▸ hmatch) with ⟨replacement, v, hok⟩ | ⟨fault', v, herror, -, hload, hstage⟩
  · cases hok.symm.trans hchild
  · cases herror.symm.trans hchild
    rw [hfurnished.disk] at hload
    exact ⟨done, child, later, u, n, entry, hsplit, hdone, hfurnished, hchild, hn, hmatch, hload, hstage⟩

section

variable (hs : Ready scene s) (hsorted : Sorted p scene s shelf catalog sorted)
  (hpasses : ((staticChildren catalog scene s.stage.graph).forM fun node =>
    p.passes.forM fun pass => pass.apply (p.context scene) node).runIn sorted = (.ok (), worked))
include hs hsorted hpasses

/-- After the passes and some of the replacements, the replaceable children that are still to come are left alone. -/
theorem Sorted.untouched_later {done later : List NodeId} {other : NodeId} {u : Session R}
    (hchildren : replaceableChildren catalog scene s.stage.graph = done ++ later)
    (hfurnished : Furnished p.tools catalog scene done worked u) (hother : other ∈ later) :
    Untouched p.tools other s u := by
  have hg := hs.linked
  have hreshaped := hsorted.reshaped hg (fun _ hnode => hnode)
    (worked_of_static (hsorted.workable hg) (fun _ hnode => hnode) hpasses)
  have hpassed : s.stage.graph.Intact scene worked.stage.graph := .of_reshaped hreshaped
  have hreplaceable : ∀ r ∈ done ++ later, r ∈ s.stage.graph.children scene := fun r hr =>
    mem_children_iff_sorted.2 (Or.inr (hchildren ▸ hr))
  have hchild := hreplaceable other (List.mem_append_right done hother)
  have hnotStatic : other ∉ staticChildren catalog scene s.stage.graph := by
    intro hstatic
    refine not_mem_replaceable_of_static hstatic ?_
    rw [hchildren]
    exact List.mem_append_right done hother
  have hnotDone : other ∉ done := by
    have hnodup : (replaceableChildren catalog scene s.stage.graph).Nodup := (hg.nodup_children scene).filter _
    rw [hchildren] at hnodup
    exact fun hmem => List.disjoint_of_nodup_append hnodup hmem hother
  refine hs.untouched (hpassed.trans (.of_furnished hfurnished)) hfurnished.linked
    (fun hadds => (hsorted.extends hpasses hadds).trans hfurnished.resources) fun x hx => ?_
  -- neither the passes nor the replacements so far have worked on this tree
  have hstatic : worked.stage.graph.node? x = s.stage.graph.node? x :=
    hreshaped.node?_of_sibling hg (fun root hroot => mem_children_iff_sorted.2 (Or.inl hroot)) hchild hnotStatic hx
  rw [← hstatic]
  exact hfurnished.node?_of_sibling hreshaped.linked
    (fun r hr => hpassed.mem_children (hreplaceable r (List.mem_append_left later hr)))
    (hpassed.mem_children hchild) hnotDone (hreshaped.within hx)

/-- A replacement that fails has not touched its child yet, nor any replaceable one after it. -/
theorem failsAt_of_replacements (hopen : OpenScene scene s)
    (hrun : ((replaceableChildren catalog scene s.stage.graph).forM fun node =>
      discard (replaceContent p.tools scene node)).runIn worked = (.error fault, s')) :
    s.stage.graph.Intact scene s'.stage.graph ∧ FailsAt p scene s s' fault := by
  have hworked : Worked scene (· ∈ staticChildren catalog scene s.stage.graph) sorted worked :=
    worked_of_static (hsorted.workable hs.linked) (fun _ hnode => hnode) hpasses
  have hpassed : s.stage.graph.Intact scene worked.stage.graph :=
    .of_reshaped (hsorted.reshaped hs.linked (fun _ hnode => hnode) hworked)
  obtain ⟨done, child, later, u, n, entry, hchildren, hdone, hfurnished, hfail, hn, hmatch, hload, hstage⟩ :=
    (hsorted.furnishable hs.linked hworked).of_error hrun
  have hreplaceable : child ∈ replaceableChildren catalog scene s.stage.graph := by
    rw [hchildren]
    exact List.mem_append_right done List.mem_cons_self
  have hchild := mem_children_iff_sorted.2 (Or.inr hreplaceable)
  have hname : n.name = s.stage.graph.name child := by
    rw [← hpassed.name_eq (hs.linked.index_lt_of_mem_children hchild).2]
    simp [SceneGraph.name, hn]
  have hdisk : worked.disk = s.disk := by
    rw [hworked.disk]
    rcases hsorted.sorted_eq with ⟨journal, rfl⟩
    rfl
  -- what was replaced before are other children, and the failing replacement changes no live node
  have hspared : ∀ other ∈ child :: later, Untouched p.tools other s s' := fun other hother =>
    (hsorted.untouched_later hs hpasses hchildren hfurnished hother).of_stage hstage
  have hself := hspared child List.mem_cons_self
  refine ⟨?_, .loading hsorted hchildren (hname ▸ hmatch) (hdisk ▸ hload) hpasses hdone hfail hspared
    hself.mesh?_eq (hself.unqueued hopen hchild)⟩
  rw [hstage]
  exact hpassed.trans (.of_furnished hfurnished)

end

/-! ## Failing conversions -/

/-- A conversion that fails loses no node, and has left alone what it has not reached. -/
theorem failure_contained (p : LevelProcessor R) {branch : Branch R} {start s s' : Session R} {scene : NodeId}
    {fault : Fault} (hstart : start.InOrder) (hplant : (Work.plantScene branch).runIn start = (.ok scene, s))
    (hrun : (p.convert scene).runIn s = (.error fault, s')) :
    s.stage.graph.Intact scene s'.stage.graph ∧ FailsAt p scene s s' fault := by
  have hopen := openScene_of_plantScene hstart.linked hplant
  have hready := ready_of_plantScene hstart hplant
  cases ends_of_convert hrun with
  | opening hfault => exact ⟨.refl scene _, .opening hfault rfl⟩
  | unconfigured hshelf hcatalog journal => exact ⟨.refl scene _, .unconfigured hshelf hcatalog rfl⟩
  | unanswered hshelf hcatalog hchild hmatch journal =>
      exact ⟨.refl scene _, .unanswered hshelf hcatalog hchild hmatch rfl⟩
  | working hsorted hpasses => exact failsAt_of_static hready hsorted hpasses
  | replacing hsorted hpasses hreplacements =>
      exact failsAt_of_replacements hready hsorted hpasses hopen hreplacements

/-- The disk of the depot, where the packaged scene is an empty file. -/
def spoiledDisk : Disk where
  home := depotDisk.home
  entries := [(["home", "Scenes"], .directory), (["home", "Materials"], .directory),
    (["home", "Scenes", "Crate.json"], .file "".toUTF8), (["home", "Materials", "Stone.tres"], .file "".toUTF8)]

/-- The session with the planted depot on the spoiled disk. -/
def spoiledSession : Session Float :=
  ((Work.plantScene depotScene).runIn { disk := spoiledDisk }).2

theorem failure_contained_depotScene :
    depotProcessor.tools.OnlyAdds ∧ ({ disk := spoiledDisk } : Session Float).InOrder ∧
      (Work.plantScene depotScene).runIn { disk := spoiledDisk } = (.ok ⟨0⟩, spoiledSession) ∧
      ∃ fault, (depotProcessor.convert ⟨0⟩).runIn spoiledSession =
          (.error fault, ((depotProcessor.convert ⟨0⟩).runIn spoiledSession).2) ∧
        spoiledSession.stage.graph.Intact ⟨0⟩
          ((depotProcessor.convert ⟨0⟩).runIn spoiledSession).2.stage.graph ∧
        FailsAt depotProcessor ⟨0⟩ spoiledSession ((depotProcessor.convert ⟨0⟩).runIn spoiledSession).2 fault := by
  have hplant : (Work.plantScene depotScene).runIn { disk := spoiledDisk } = (.ok ⟨0⟩, spoiledSession) := rfl
  have hfails : ((depotProcessor.convert ⟨0⟩).runIn spoiledSession).1.toOption = none := by
    decide +kernel
  rcases Work.exists_of_toOption_eq_none hfails with ⟨fault, hrun⟩
  have hadds : depotProcessor.tools.OnlyAdds := fun _ _ _ r => .refl r
  exact ⟨hadds, Session.inOrder_new spoiledDisk, hplant, fault, hrun,
    failure_contained depotProcessor (Session.inOrder_new spoiledDisk) hplant hrun⟩

end LevelPrep
