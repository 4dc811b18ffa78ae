import LevelPrep.Proofs.Level.Replacement

/-!
# Furnishing a level

`Furnished` says what is left of a session after the content of some nodes was replaced, one node after
another (`Furnishable.furnished`).  A replacement does not disturb those made before it.
-/

namespace LevelPrep

variable {R : Type}

open Work SceneGraph

/-- What the replacements of some nodes leave of the session they started from.  Of the nodes that were there
only these nodes and their children have changed: the former have their new content behind what they had,
and the latter are queued. -/
structure Furnished (tools : Tools R) (catalog : Catalog) (scene : NodeId) (done : List NodeId) (s t : Session R) :
    Prop extends SameSupplies s t where
  linked : t.stage.graph.Linked
  size_le : s.stage.graph.size ≤ t.stage.graph.size
  resources : s.stage.resources.Extends t.stage.resources
  stocked : Stocked tools catalog scene t
  others : ∀ x n, s.stage.graph.node? x = some n → x ∉ done → t.stage.graph.node? x = some
    { n with queued := n.queued || decide (∃ r ∈ done, x ∈ s.stage.graph.children r) }
  replaced : ∀ r n, s.stage.graph.node? r = some n → r ∈ done → ∃ entry branch replacement,
    catalog.bestMatch n.name = .ok (some entry) ∧
    (tools.loadScene s.disk entry.path).2 = .ok branch ∧
    s.stage.graph.size ≤ replacement.index ∧
    t.stage.graph.node? r = some
      { n with
        payload := n.payload.mapInstance fun i => { i with mesh := none }
        children := n.children ++ [replacement]
        queued := n.queued || decide (∃ r' ∈ done, r ∈ s.stage.graph.children r') } ∧
    t.stage.Shows (branch.rename (.str (n.name.display ++ " (replaced)"))) replacement
  new : ∀ x n, s.stage.graph.size ≤ x.index → t.stage.graph.node? x = some n →
    n.queued = false ∧ n.payload.Known t.stage.resources

namespace Furnished

variable {tools : Tools R} {catalog : Catalog} {scene : NodeId} {done : List NodeId} {s t t' : Session R}

theorem nil (hs : s.stage.graph.Linked) (hstock : Stocked tools catalog scene s) :
    Furnished tools catalog scene [] s s where
  disk := rfl
  catalogs := rfl
  materials := rfl
  unwrapCalls := rfl
  linked := hs
  size_le := Nat.le_refl _
  resources := .refl _
  stocked := hstock
  others x n hn _ := by simpa using hn
  replaced r n _ hr := by cases hr
  new x n hx hn := absurd (index_lt_of_node? hn) (Nat.not_lt.2 hx)

theorem parent?_eq (h : Furnished tools catalog scene done s t) {x : NodeId}
    (hx : x.index < s.stage.graph.size) : t.stage.graph.parent? x = s.stage.graph.parent? x := by
  rcases exists_node?_iff.2 hx with ⟨n, hn⟩
  by_cases hdone : x ∈ done
  · rcases h.replaced x n hn hdone with ⟨_, _, _, -, -, -, ht, -⟩
    rw [parent?_of_node? ht, parent?_of_node? hn]
  · rw [parent?_of_node? (h.others x n hn hdone), parent?_of_node? hn]

/-- What has replaced the content of one node is not disturbed when another node of the session is replaced. -/
theorem shows_of_replaced (h : Furnished tools catalog scene done s t) (hs : s.stage.graph.Linked)
    {node replacement other : NodeId} {branch branch' : Branch R} (hnode : node.index < s.stage.graph.size)
    (hreplaced : Replaced scene node replacement branch t t') (hother : s.stage.graph.size ≤ other.index)
    (hshown : t.stage.Shows branch' other) : t'.stage.Shows branch' other := by
  refine hshown.of_same fun x hx m hm => ?_
  have hnew : s.stage.graph.size ≤ x.index := Stage.le_index_of_within hs h.linked (fun y => h.parent?_eq) hother hx
  have hne : x ≠ node := by
    rintro rfl
    omega
  refine ⟨_, hreplaced.regrafted.old x m hm, rfl, rfl, ?_, by simp only [if_neg hne]⟩
  unfold Stage.payloadValue
  simp only [if_neg hne]
  exact (hreplaced.resources.payload (h.new x m hnew hm).2).2

/-- Another node is replaced. -/
theorem snoc (h : Furnished tools catalog scene done s t) (hs : s.stage.graph.Linked)
    {node replacement : NodeId} {n : Node R} {entry : CatalogEntry} {branch : Branch R}
    (hnode : s.stage.graph.node? node = some n) (hfresh : node ∉ done)
    (hmatch : catalog.bestMatch n.name = .ok (some entry))
    (hload : (tools.loadScene s.disk entry.path).2 = .ok branch)
    (hstock : Stocked tools catalog scene t') (hreplaced : Replaced scene node replacement branch t t') :
    Furnished tools catalog scene (done ++ [node]) s t' := by
  have hlt := index_lt_of_node? hnode
  have ht := h.others node n hnode hfresh
  have hchildren : t.stage.graph.children node = s.stage.graph.children node := by
    rw [children_of_node? ht, children_of_node? hnode]
  have hsize := h.size_le
  have hsize' := hreplaced.regrafted.size_lt
  have hold := hreplaced.regrafted.old
  rw [hchildren] at hold
  -- marks add up: those of the nodes that are done, and those of the new one
  have hmark : ∀ x, (decide (∃ r ∈ done, x ∈ s.stage.graph.children r) ||
      decide (x ∈ s.stage.graph.children node)) =
        decide (∃ r ∈ done ++ [node], x ∈ s.stage.graph.children r) := by
    intro x
    rw [← Bool.decide_or]
    congr 1
    simp [or_and_right, exists_or]
  refine ⟨⟨hreplaced.disk.trans h.disk, hreplaced.catalogs.trans h.catalogs,
    hreplaced.materials.trans h.materials, hreplaced.unwrapCalls.trans h.unwrapCalls⟩,
    hreplaced.regrafted.linked, by omega, h.resources.trans hreplaced.resources, hstock, ?_, ?_, ?_⟩
  · intro x m hm hx
    rw [List.mem_append, not_or, List.mem_singleton] at hx
    rw [hold x _ (h.others x m hm hx.1)]
    simp only [if_neg hx.2, Bool.or_assoc, hmark]
  · intro r m hm hr
    by_cases hdone : r ∈ done
    · have hne : r ≠ node := by
        rintro rfl
        exact hfresh hdone
      rcases h.replaced r m hm hdone with ⟨entry', branch', other, hmatch', hload', hnew, hr', hshown⟩
      refine ⟨entry', branch', other, hmatch', hload', hnew, ?_, h.shows_of_replaced hs hlt hreplaced hnew hshown⟩
      rw [hold r _ hr']
      simp only [if_neg hne, Bool.or_assoc, hmark]
    · have hlast : r = node := by simpa [hdone] using hr
      subst hlast
      cases hm.symm.trans hnode
      refine ⟨entry, branch, replacement, hmatch, hload, ?_, ?_, ?_⟩
      · exact hsize.trans hreplaced.regrafted.fresh
      · rw [hold r _ ht]
        simp only [if_true, Bool.or_assoc, hmark]
      · have hname : t.stage.graph.name r = n.name := by simp [SceneGraph.name, ht]
        exact hname ▸ hreplaced.shown
  · intro x m hx hm
    by_cases hlate : t.stage.graph.size ≤ x.index
    · exact ⟨hreplaced.regrafted.new x m hlate hm, hreplaced.known x m hlate hm⟩
    · rcases exists_node?_iff.2 (Nat.not_le.1 hlate) with ⟨m', hm'⟩
      rcases h.new x m' hx hm' with ⟨hqueued, hknown⟩
      rw [hold x m' hm'] at hm
      cases hm
      have hne : x ≠ node := by
        rintro rfl
        omega
      have hnot : x ∉ s.stage.graph.children node := fun hmem =>
        absurd (hs.index_lt_of_mem_children hmem).2 (Nat.not_lt.2 hx)
      simp only [if_neg hne, hqueued, hnot, decide_false, Bool.or_false, true_and]
      exact (hreplaced.resources.payload hknown).1

end Furnished

/-- What replacements start from: a catalog with packaged scenes that are those in its files, and children of a scene
that have matches in it. -/
structure Furnishable (tools : Tools R) (catalog : Catalog) (scene : NodeId) (nodes : List NodeId) (s : Session R) :
    Prop where
  linked : s.stage.graph.Linked
  catalog_eq : s.shelf.packedSceneCatalog = .ok catalog
  lists : ∃ root, catalog.ListsDirectory root
  stocked : Stocked tools catalog scene s
  nodup : nodes.Nodup
  matched : ∀ node ∈ nodes, ∃ n entry, s.stage.graph.node? node = some n ∧ n.parent = some scene ∧
    catalog.bestMatch n.name = .ok (some entry)

namespace Furnishable

variable {tools : Tools R} {catalog : Catalog} {nodes later done : List NodeId} {scene node : NodeId}
  {s t : Session R}

theorem of_append (h : Furnishable tools catalog scene (nodes ++ later) s) : Furnishable tools catalog scene nodes s :=
  ⟨h.linked, h.catalog_eq, h.lists, h.stocked, (List.nodup_append.1 h.nodup).1,
    fun node hnode => h.matched node (List.mem_append_left later hnode)⟩

/-- After some nodes have been replaced, the next one is as it was but for its mark. -/
theorem exists_next (h : Furnishable tools catalog scene nodes s) (hsplit : nodes = done ++ node :: later)
    (hdone : Furnished tools catalog scene done s t) : node ∉ done ∧ ∃ n entry, s.stage.graph.node? node = some n ∧
      t.stage.graph.parent? node = some scene ∧ t.shelf.packedSceneCatalog = .ok catalog ∧
      t.stage.graph.name node = n.name ∧ catalog.bestMatch n.name = .ok (some entry) := by
  rcases h.matched node (by simp [hsplit]) with ⟨n, entry, hn, hparent, hmatch⟩
  have hfresh : node ∉ done := by
    intro hmem
    have hnodup := h.nodup
    rw [hsplit] at hnodup
    exact List.disjoint_of_nodup_append hnodup hmem List.mem_cons_self
  have ht := hdone.others node n hn hfresh
  have hcatalog := (Shelf.packedSceneCatalog_congr hdone.catalogs).trans h.catalog_eq
  exact ⟨hfresh, n, entry, hn, (parent?_of_node? ht).trans hparent, hcatalog, by simp [SceneGraph.name, ht], hmatch⟩

/-- The next node is replaced. -/
theorem snoc [Zero R] [One R] {replacement : NodeId} {t' : Session R} (h : Furnishable tools catalog scene nodes s)
    (hsplit : nodes = done ++ node :: later) (hdone : Furnished tools catalog scene done s t)
    (hreplace : (replaceContent tools scene node).runIn t = (.ok replacement, t')) :
    t.stage.graph.parent? node = some scene ∧ (∃ branch, Replaced scene node replacement branch t t') ∧
      Furnished tools catalog scene (done ++ [node]) s t' := by
  rcases h.lists with ⟨root, hlists⟩
  obtain ⟨hfresh, n, entry, hn, hparent, hcatalog, hname, hmatch⟩ := h.exists_next hsplit hdone
  obtain ⟨branch, hload, hstock', hreplaced⟩ := replaced_of_replaceContent hdone.linked hparent hcatalog hlists
    hdone.stocked (hname.symm ▸ hmatch) hreplace
  rw [hdone.disk] at hload
  exact ⟨hparent, ⟨branch, hreplaced⟩, hdone.snoc h.linked hn hfresh hmatch hload hstock' hreplaced⟩

/-- Nodes of different places that have a match are replaced one after another. -/
theorem furnished [Zero R] [One R] (h : Furnishable tools catalog scene nodes s)
    (hrun : (nodes.forM fun node => discard (replaceContent tools scene node)).runIn s = (.ok (), t)) :
    Furnished tools catalog scene nodes s t := by
  refine forM_prefix (I := fun done t => Furnished tools catalog scene done s t) (.nil h.linked h.stocked) ?_ hrun
  intro done node rest t t' hsplit hdone hstep
  rcases runIn_discard_eq_ok_iff.1 hstep with ⟨replacement, hreplace⟩
  exact (h.snoc hsplit hdone hreplace).2.2

end Furnishable

end LevelPrep
