import LevelPrep.Proofs.Level.Independence

/-!
# What belongs to a scene

Nodes come into a scene from four places: the file of the scene, the collision pass, which makes bodies and
their shapes, and the packaged scenes, whose nodes have been owned by a root of their own before.  Whatever
the settings, the tools and the files are, in the end the scene owns every node below it.

* `Owns`: the invariant; a planted scene has it (`owns_of_plantScene`), and passes, replacements and the flush
  preserve it (`Owns.reshaped`, `Owns.regrafted`, `Owns.cut`);
* `Cut.unqueued_of_within`: a flush leaves no queued node in the tree;
* `consistent_of_process`: the tree after a run.
-/

namespace LevelPrep

variable {R : Type}

open Work SceneGraph

namespace SceneGraph

/-- The root owns every other node of its tree. -/
def Owns (scene : NodeId) (g : SceneGraph R) : Prop :=
  ∀ x, g.Within scene x → x ≠ scene → g.owner? x = some scene

/-- A tree in order: links of parents and children agree, the walk meets every node once, the root is free and
owns all that is below it, and nothing below it is to be taken out. -/
structure Consistent (scene : NodeId) (g : SceneGraph R) : Prop where
  /-- The root is there, and has no owner. -/
  root : ∃ n, g.node? scene = some n ∧ n.owner = none
  /-- The root has no parent, and is nobody's child. -/
  free : g.parent? scene = none ∧ ∀ x, scene ∉ g.children x
  /-- The walk meets a node if it is reached, and then once. -/
  once : ∀ x, (g.Within scene x ↔ x ∈ g.levelOrder scene) ∧ (g.levelOrder scene).count x ≤ 1
  /-- A node below the root is a child of the node that it has for its parent, once, and of no other. -/
  held : ∀ x, g.Within scene x → x ≠ scene → ∃ parent, g.Within scene parent ∧ g.parent? x = some parent ∧
    (g.children parent).count x = 1 ∧ ∀ other, x ∈ g.children other → other = parent
  owned : g.Owns scene
  unqueued : ∀ x, g.Within scene x → x ≠ scene → g.isQueued x = false

variable {g g' : SceneGraph R} {scene : NodeId}

/-- In a linked graph only the owners and the marks are left to be looked at. -/
theorem Linked.consistent (hg : g.Linked) {n : Node R} (hn : g.node? scene = some n) (hparent : n.parent = none)
    (howner : n.owner = none) (howned : g.Owns scene)
    (hunqueued : ∀ x, g.Within scene x → x ≠ scene → g.isQueued x = false) : g.Consistent scene where
  root := ⟨n, hn, howner⟩
  free := by
    have hfree := (parent?_of_node? hn).trans hparent
    refine ⟨hfree, fun x hx => ?_⟩
    rw [hg.mem_children_iff, hfree] at hx
    cases hx
  once x := ⟨(mem_levelOrder_iff hg).symm, List.nodup_iff_count_le_one.1 (nodup_levelOrder hg scene) x⟩
  held := by
    intro x hx hne
    rcases hx.eq_or_exists_parent with heq | ⟨parent, hparent, hmem⟩
    · exact absurd heq hne
    · exact ⟨parent, hparent, (hg.mem_children_iff parent x).1 hmem,
        List.count_eq_one_of_mem (hg.nodup_children parent) hmem, fun other hother => hg.parent_unique hother hmem⟩
  owned := howned
  unqueued := hunqueued

/-! ## Passes -/

section

variable [Zero R] [One R]

/-- What lies in a tree after passes has lain in it before, or is a body, or is the shape of a body. -/
theorem Reshaped.cases_of_within {roots : NodeId → Prop} (h : g.Reshaped scene roots g') (hg : g.Linked)
    {a x : NodeId} (ha : a.index < g.size) (hx : g'.Within a x) : g.Within a x ∨
      ∃ root body, g'.IsBody scene root body ∧ (x = body ∨ x = ⟨body.index + 1⟩) := by
  induction hx with
  | refl => exact Or.inl (Within.refl g a)
  | @tail y child _ hchild ih =>
      rcases ih with hy | ⟨root, body, hbody, rfl | rfl⟩
      · rcases exists_node?_iff.2 (hg.index_lt_of_within hy ha) with ⟨n, hn⟩
        rcases h.old y n hn with ⟨change, bodies, hn', hbodies, -⟩
        rw [children_of_node? hn'] at hchild
        rcases List.mem_append.1 hchild with hold | hnew
        · exact Or.inl (hy.child (by rwa [children_of_node? hn]))
        · exact Or.inr ⟨y, child, (hbodies child hnew).2.2, Or.inl rfl⟩
      · -- the only child of a body is its shape
        have hisBody := hbody
        rcases hbody with ⟨name, transform, layer, mask, shape, hb, -⟩
        rw [children_of_node? hb, List.mem_singleton] at hchild
        exact Or.inr ⟨root, y, hisBody, Or.inr hchild⟩
      · rcases hbody with ⟨name, transform, layer, mask, shape, -, hh⟩
        rw [children_of_node? hh] at hchild
        cases hchild

/-- Bodies and their shapes are made for the scene. -/
theorem IsBody.owner?_eq {root body x : NodeId} (h : g.IsBody scene root body)
    (hx : x = body ∨ x = ⟨body.index + 1⟩) : g.owner? x = some scene := by
  rcases h with ⟨name, transform, layer, mask, shape, hb, hh⟩
  rcases hx with rfl | rfl
  · simp [owner?, hb]
  · simp [owner?, hh]

/-- Passes leave owners as they are, and what they make belongs to the scene. -/
theorem Owns.reshaped {roots : NodeId → Prop} (howns : g.Owns scene) (hg : g.Linked)
    (hscene : scene.index < g.size) (h : g.Reshaped scene roots g') : g'.Owns scene := by
  intro x hx hne
  rcases h.cases_of_within hg hscene hx with hold | ⟨root, body, hbody, hself⟩
  · rcases exists_node?_iff.2 (hg.index_lt_of_within hold hscene) with ⟨n, hn⟩
    rcases h.old x n hn with ⟨change, bodies, hn', -⟩
    have howner := howns x hold hne
    simpa [owner?, hn, hn'] using howner
  · exact hbody.owner?_eq hself

end

/-! ## Flushing -/

/-- A flush leaves no queued node below the root. -/
theorem Cut.unqueued_of_within {root x : NodeId} (h : Cut (g.Doomed root) g g') (hx : g'.Within root x)
    (hne : x ≠ root) : g'.isQueued x = false := by
  rw [h.isQueued_eq]
  rcases Relation.ReflTransGen.cases_tail (h.reaches_of_within hx) with heq | ⟨parent, -, -, hunqueued⟩
  · exact absurd heq hne
  · exact hunqueued

theorem Owns.cut {doomed : NodeId → Prop} (howns : g.Owns scene) (h : Cut doomed g g') : g'.Owns scene := by
  intro x hx hne
  have howner := howns x (h.within hx) hne
  unfold owner? at howner ⊢
  rw [h.node?_eq]
  cases hn : g.node? x with
  | none => simp [hn] at howner
  | some n => simpa [hn] using howner

end SceneGraph

/-! ## Replacements -/

section

variable {g g' : SceneGraph R} {scene node replacement : NodeId}

/-- What lies in a tree after a replacement has lain in it before, or lies in the tree that was hung up. -/
theorem Regrafted.cases_of_within (h : Regrafted scene node replacement g g') (hg : g.Linked) {a x : NodeId}
    (ha : a.index < g.size) (hx : g'.Within a x) : g.Within a x ∨ g'.Within replacement x := by
  induction hx with
  | refl => exact Or.inl (Within.refl g a)
  | @tail y child _ hchild ih =>
      rcases ih with hy | hy
      · rcases exists_node?_iff.2 (hg.index_lt_of_within hy ha) with ⟨n, hn⟩
        rw [children_of_node? (h.old y n hn)] at hchild
        have hcases : child ∈ n.children ∨ child = replacement := by
          split_ifs at hchild
          · simpa using hchild
          · exact Or.inl hchild
        rcases hcases with hold | rfl
        · exact Or.inl (hy.child (by rwa [children_of_node? hn]))
        · exact Or.inr (Within.refl g' child)
      · exact Or.inr (hy.child hchild)

/-- A replacement leaves owners as they are, and what it hangs up belongs to the scene. -/
theorem SceneGraph.Owns.regrafted (howns : g.Owns scene) (hg : g.Linked) (hscene : scene.index < g.size)
    (h : Regrafted scene node replacement g g') : g'.Owns scene := by
  intro x hx hne
  rcases h.cases_of_within hg hscene hx with hold | hnew
  · rcases exists_node?_iff.2 (hg.index_lt_of_within hold hscene) with ⟨n, hn⟩
    have howner := howns x hold hne
    simpa [owner?, hn, h.old x n hn] using howner
  · exact h.owned x hnew

end

/-- The scene owns what replacements leave below it. -/
theorem Furnishable.owns [Zero R] [One R] {tools : Tools R} {catalog : Catalog} {nodes : List NodeId}
    {scene : NodeId} {s t : Session R} (h : Furnishable tools catalog scene nodes s)
    (hscene : scene.index < s.stage.graph.size) (howns : s.stage.graph.Owns scene)
    (hrun : (nodes.forM fun node => discard (replaceContent tools scene node)).runIn s = (.ok (), t)) :
    t.stage.graph.Owns scene := by
  have hboth : Furnished tools catalog scene nodes s t ∧ t.stage.graph.Owns scene := by
    refine forM_prefix (I := fun done t => Furnished tools catalog scene done s t ∧ t.stage.graph.Owns scene)
      ⟨.nil h.linked h.stocked, howns⟩ ?_ hrun
    intro done node later t t' hsplit ⟨hdone, howns⟩ hstep
    rcases runIn_discard_eq_ok_iff.1 hstep with ⟨replacement, hreplace⟩
    obtain ⟨-, ⟨branch, hreplaced⟩, hnext⟩ := h.snoc hsplit hdone hreplace
    have hinside : scene.index < t.stage.graph.size := hscene.trans_le hdone.size_le
    exact ⟨hnext, howns.regrafted hdone.linked hinside hreplaced.regrafted⟩
  exact hboth.2

/-! ## Runs -/

/-- A planted scene has neither parent nor owner, and owns what is below it. -/
theorem owns_of_plantScene {branch : Branch R} {scene : NodeId} {s s' : Session R} (hs : s.stage.graph.Linked)
    (h : (plantScene branch).runIn s = (.ok scene, s')) : s'.stage.graph.Owns scene ∧
      ∃ n, s'.stage.graph.node? scene = some n ∧ n.parent = none ∧ n.owner = none := by
  rcases ownScene_of_plantScene hs h with ⟨hscene, -⟩
  constructor
  · intro x hx hne
    rcases hx.eq_or_exists_child with rfl | ⟨child, hchild, hbelow⟩
    · exact absurd rfl hne
    · exact (hscene.below child hchild x hbelow).1
  · rcases hscene.free with ⟨n, hn, hparent, howner, -⟩
    exact ⟨n, hn, hparent, howner⟩

variable [Zero R] [One R] [Add R] [Mul R]

/-- The scene owns what a conversion leaves below it. -/
theorem owns_of_convert {p : LevelProcessor R} {scene : NodeId} {s s' : Session R} (hscene : OpenScene scene s)
    (howns : s.stage.graph.Owns scene) (hrun : (p.convert scene).runIn s = (.ok (), s')) :
    s'.stage.graph.Owns scene := by
  rcases exists_assembled hscene hrun with ⟨shelf, catalog, sorted, t, u, hconverted, h⟩
  have hworked : Worked scene (· ∈ staticChildren catalog scene s.stage.graph) sorted t :=
    worked_of_static (hconverted.toSorted.workable hscene.linked) (fun _ hnode => hnode) hconverted.passes
  have hpassed : t.stage.graph.Owns scene := howns.reshaped hscene.linked hscene.inside h.reshaped
  have hinside : scene.index < t.stage.graph.size := hscene.inside.trans_le h.reshaped.size_le
  have hfurnished : u.stage.graph.Owns scene :=
    (hconverted.toSorted.furnishable hscene.linked hworked).owns hinside hpassed hconverted.replacements
  exact hfurnished.cut h.cut

/-- Whatever is in the file of a scene, in the settings and in the packaged scenes: a run that succeeds on the
scene leaves its tree in order. -/
theorem consistent_of_process (p : LevelProcessor R) {branch : Branch R} {start s s' : Session R} {scene : NodeId}
    (hstart : start.stage.graph.Linked) (hplant : (plantScene branch).runIn start = (.ok scene, s))
    (hrun : (p.process scene).runIn s = (.ok (), s')) : s'.stage.graph.Consistent scene := by
  have hopen := openScene_of_plantScene hstart hplant
  obtain ⟨howns, n, hn, hparent, howner⟩ := owns_of_plantScene hstart hplant
  rcases of_process hrun with ⟨journal, rfl⟩ | ⟨t, journal, hconvert, rfl⟩
  · -- a scene that is no level is as it was planted
    refine hopen.linked.consistent hn hparent howner howns fun x hx _ => ?_
    rcases exists_node?_iff.2 (hopen.linked.index_lt_of_within hx hopen.inside) with ⟨m, hm⟩
    simp [isQueued, hm, hopen.unqueued x m hx hm]
  · rcases exists_assembled hopen hconvert with ⟨shelf, catalog, sorted, worked, furnished, -, h⟩
    have hsame : t.stage.graph.node? scene = some n := h.node?_scene.trans hn
    exact h.linked.consistent hsame hparent howner (owns_of_convert hopen howns hconvert)
      fun x hx hne => h.cut.unqueued_of_within hx hne

theorem consistent_of_process_depotScene :
    ({ disk := depotDisk } : Session Float).stage.graph.Linked ∧
      (plantScene depotScene).runIn { disk := depotDisk } = (.ok ⟨0⟩, depotSession) ∧
      isLevel (.str "Level") depotProcessor.settings.levelIndicator = .ok true ∧
      ((depotProcessor.process ⟨0⟩).runIn depotSession).1.toOption = some () ∧
      ((depotProcessor.process ⟨0⟩).runIn depotSession).2.stage.graph.Consistent ⟨0⟩ := by
  have hplant : (plantScene depotScene).runIn { disk := depotDisk } = (.ok ⟨0⟩, depotSession) := rfl
  have hlevel : isLevel (.str "Level") depotProcessor.settings.levelIndicator = .ok true := by
    decide +kernel
  have hrun : ((depotProcessor.process ⟨0⟩).runIn depotSession).1.toOption = some () := by
    decide +kernel
  exact ⟨Linked.empty, hplant, hlevel, hrun,
    consistent_of_process depotProcessor Linked.empty hplant (runIn_eq_of_toOption hrun)⟩

end LevelPrep
