import LevelPrep.Proofs.Mesh.Sharing
import LevelPrep.Proofs.Scene.Views

/-!
# Planting branches

Planting a branch makes new nodes that show it and leaves all other nodes as they were (`plant_spec`);
planting branches below a node gives it children that show them (`plantBelow_spec`).  A tree that is planted
on a stage that has been enlarged before is new to the stage from which this began (`Enlarged.planted`).
-/

namespace LevelPrep.Stage

variable {R : Type}

theorem plant_node (name : Json) (transform : Matrix R) (payload : Payload Geometry Material)
    (children : List (Branch R)) (stage : Stage R) :
    plant (.node name transform payload children) stage =
      let inserted := insert name transform payload stage
      (inserted.1, (plantBelow inserted.1 children inserted.2).2) := by
  rw [plant]
  rfl

theorem plantBelow_cons (parent : NodeId) (branch : Branch R) (rest : List (Branch R))
    (stage : Stage R) :
    plantBelow parent (branch :: rest) stage =
      let planted := plant branch stage
      plantBelow parent rest
        { planted.2 with graph := planted.2.graph.link parent planted.1 } := by
  rw [plantBelow]
  rfl

/-- A node that was added to a stage is not to be taken out, has no owner that was there before, and refers to
geometry and materials that were added as well. -/
structure Added (stage stage' : Stage R) (n : Node R) : Prop where
  unqueued : n.queued = false
  owner : ∀ owner, n.owner = some owner → stage.graph.size ≤ owner.index ∧ owner.index < stage'.graph.size
  known : n.payload.Known stage'.resources
  fresh : n.payload.Fresh stage.resources

/-- A stage with more nodes and more resources. -/
structure Grown (stage stage' : Stage R) : Prop where
  linked : stage'.graph.Linked
  resources : stage.resources.Extends stage'.resources
  size_le : stage.graph.size ≤ stage'.graph.size
  new : ∀ x n, stage.graph.size ≤ x.index → stage'.graph.node? x = some n → stage.Added stage' n

/-- A stage with more nodes and more resources, on which the nodes that were there are as they were. -/
structure Enlarged (stage stage' : Stage R) : Prop extends stage.Grown stage' where
  old : ∀ x : NodeId, x.index < stage.graph.size → stage'.graph.node? x = stage.graph.node? x

/-- The stage after a branch was planted: a new node shows it, and the nodes that were there are as they
were. -/
structure Planted (branch : Branch R) (stage : Stage R) (id : NodeId) (stage' : Stage R) : Prop
    extends stage.Enlarged stage' where
  fresh : stage.graph.size ≤ id.index
  root : stage'.graph.parent? id = none
  shown : stage'.Shows branch id

/-- The stage after branches were planted below a node: behind its other children it has new ones that
show them. -/
structure PlantedBelow (branches : List (Branch R)) (parent : NodeId) (n : Node R) (stage stage' : Stage R) :
    Prop extends stage.Grown stage' where
  old : ∀ x : NodeId, x.index < stage.graph.size → x ≠ parent →
    stage'.graph.node? x = stage.graph.node? x
  below : ∃ ids, stage'.graph.node? parent = some { n with children := n.children ++ ids } ∧
    stage'.AllShow branches ids

namespace Added

variable {stage stage₁ stage' : Stage R} {n : Node R}

/-- What was added is still added when more has been added. -/
theorem grow (h : stage.Added stage₁ n) (hresources : stage₁.resources.Extends stage'.resources)
    (hsize : stage₁.graph.size ≤ stage'.graph.size) : stage.Added stage' n where
  unqueued := h.unqueued
  owner owner howner := ⟨(h.owner owner howner).1, (h.owner owner howner).2.trans_le hsize⟩
  known := (hresources.payload h.known).1
  fresh := h.fresh

/-- What is added to a stage that had grown is new to the stage before. -/
theorem of_grown (h : stage₁.Added stage' n) (hresources : stage.resources.Extends stage₁.resources)
    (hsize : stage.graph.size ≤ stage₁.graph.size) : stage.Added stage' n where
  unqueued := h.unqueued
  owner owner howner := ⟨hsize.trans (h.owner owner howner).1, (h.owner owner howner).2⟩
  known := h.known
  fresh := h.fresh.of_extends hresources

end Added

namespace Enlarged

variable {stage stage₁ stage' : Stage R} {branch : Branch R} {id : NodeId}

theorem refl (hstage : stage.graph.Linked) : stage.Enlarged stage where
  linked := hstage
  resources := .refl _
  size_le := Nat.le_refl _
  new _ _ hx hn := absurd (SceneGraph.index_lt_of_node? hn) (Nat.not_lt.2 hx)
  old _ _ := rfl

theorem trans (h : stage.Enlarged stage₁) (h' : stage₁.Enlarged stage') : stage.Enlarged stage' where
  linked := h'.linked
  resources := h.resources.trans h'.resources
  size_le := h.size_le.trans h'.size_le
  new x n hx hn := by
    by_cases hlate : stage₁.graph.size ≤ x.index
    · exact (h'.new x n hlate hn).of_grown h.resources h.size_le
    · rw [h'.old x (Nat.not_le.1 hlate)] at hn
      exact (h.new x n hx hn).grow h'.resources h'.size_le
  old x hx := (h'.old x (hx.trans_le h.size_le)).trans (h.old x hx)

/-- A tree that is planted on an enlarged stage is new to the stage that was enlarged. -/
theorem planted (h : stage.Enlarged stage₁) (h' : Planted branch stage₁ id stage') :
    Planted branch stage id stage' where
  toEnlarged := h.trans h'.toEnlarged
  fresh := h.size_le.trans h'.fresh
  root := h'.root
  shown := h'.shown

end Enlarged

/-- A node that was not there before has only such nodes below it, if the nodes that were there have kept
their parents. -/
theorem le_index_of_within {g g' : SceneGraph R} (hg : g.Linked) (hg' : g'.Linked)
    (hparent : ∀ x : NodeId, x.index < g.size → g'.parent? x = g.parent? x) {id x : NodeId}
    (hid : g.size ≤ id.index) (h : g'.Within id x) : g.size ≤ x.index := by
  refine Nat.le_of_not_lt fun hx => Nat.not_lt.2 hid (h.up (P := fun y => y.index < g.size) ?_ hx)
  intro parent child hmem hchild
  rw [hg'.mem_children_iff, hparent child hchild, ← hg.mem_children_iff] at hmem
  exact (hg.index_lt_of_mem_children hmem).1

/-- A planted tree is made of new nodes. -/
theorem Planted.le_index_of_within {branch : Branch R} {stage stage₁ : Stage R} {id x : NodeId}
    (h : Planted branch stage id stage₁) (hstage : stage.graph.Linked)
    (hx : stage₁.graph.Within id x) : stage.graph.size ≤ x.index := by
  refine Stage.le_index_of_within hstage h.linked ?_ h.fresh hx
  intro y hy
  rw [SceneGraph.parent?, h.old y hy, SceneGraph.parent?]

/-- The root is put down first, without any links, and then its children below it. -/
theorem planted_of_plantedBelow {name : Json} {transform : Matrix R}
    {payload : Payload Geometry Material} {children : List (Branch R)} {stage stage' : Stage R}
    {added : Payload GeometryId MaterialId × Resources}
    (hext : stage.resources.Extends added.2) (hknown : added.1.Known added.2)
    (hvalue : added.1.map added.2.geometry added.2.material = payload) (hfresh : added.1.Fresh stage.resources)
    (h : PlantedBelow children ⟨stage.graph.size⟩ { name, transform, payload := added.1 }
      { graph := (stage.graph.insert { name, transform, payload := added.1 }).2
        resources := added.2 } stage') :
    Planted (.node name transform payload children) stage ⟨stage.graph.size⟩ stage' := by
  rcases h.below with ⟨ids, hroot, hshown⟩
  rcases h.resources.payload hknown with ⟨hknown', hvalue'⟩
  have hsize : stage.graph.size + 1 ≤ stage'.graph.size := by simpa using h.size_le
  refine ⟨⟨⟨h.linked, hext.trans h.resources, by omega, ?_⟩, ?_⟩, Nat.le_refl _, ?_, ?_⟩
  · intro x m hx hm
    -- the root is the one new node that was there before the children were put down
    by_cases hxroot : x = ⟨stage.graph.size⟩
    · subst hxroot
      rw [hroot] at hm
      cases hm
      exact ⟨rfl, by rintro owner ⟨⟩, hknown', hfresh⟩
    · have hne : x.index ≠ stage.graph.size := fun hi => hxroot (by cases x; cases hi; rfl)
      exact (h.new x m (by simp; omega) hm).of_grown hext (by simp)
  · intro x hx
    have hne : x ≠ ⟨stage.graph.size⟩ := by
      rintro rfl
      exact absurd hx (Nat.lt_irrefl _)
    rw [h.old x (by simp; omega) hne, SceneGraph.node?_insert, if_neg (by omega)]
  · simp [SceneGraph.parent?, hroot]
  · exact ⟨_, hroot, rfl, rfl, hvalue'.trans hvalue, by simpa using hshown⟩

/-- A branch is planted and hung up, and what is planted later leaves it alone. -/
theorem plantedBelow_cons {branch : Branch R} {rest : List (Branch R)} {parent child : NodeId}
    {n : Node R} {stage stage₁ stage' : Stage R} (hstage : stage.graph.Linked)
    (hn : stage.graph.node? parent = some n) (hfirst : Planted branch stage child stage₁)
    (hlinked : (stage₁.graph.link parent child).Linked)
    (hrest : PlantedBelow rest parent { n with children := n.children ++ [child] }
      { stage₁ with graph := stage₁.graph.link parent child } stage') :
    PlantedBelow (branch :: rest) parent n stage stage' := by
  have hparent : parent.index < stage.graph.size := SceneGraph.index_lt_of_node? hn
  rcases hrest.below with ⟨ids, hids, hshown⟩
  have hsize₁ := hfirst.size_le
  have hsize : stage₁.graph.size ≤ stage'.graph.size := by simpa using hrest.size_le
  have hold : ∀ x : NodeId, x.index < stage₁.graph.size → x ≠ parent →
      stage'.graph.node? x = (stage₁.graph.link parent child).node? x := by
    intro x hx hne
    exact hrest.old x (by simpa using hx) hne
  refine ⟨⟨hrest.linked, hfirst.resources.trans hrest.resources, by omega, ?_⟩, ?_, ?_⟩
  · intro x m hx hm
    by_cases hlate : stage₁.graph.size ≤ x.index
    · exact (hrest.new x m (by simpa using hlate) hm).of_grown hfirst.resources (by simpa using hsize₁)
    · have hne : x ≠ parent := by
        rintro rfl
        omega
      rw [hold x (by omega) hne, SceneGraph.node?_link] at hm
      rcases Option.map_eq_some_iff.1 hm with ⟨m₁, hm₁, rfl⟩
      have hadded := (hfirst.new x m₁ hx hm₁).grow hrest.resources hsize
      exact ⟨hadded.unqueued, hadded.owner, hadded.known, hadded.fresh⟩
  · intro x hx hne
    have hchild : x ≠ child := by
      rintro rfl
      exact absurd hfirst.fresh (Nat.not_le.2 hx)
    rw [hold x (by omega) hne, SceneGraph.node?_link, ← hfirst.old x hx]
    cases stage₁.graph.node? x <;> simp [hchild, hne]
  · refine ⟨child :: ids, by simpa using hids, child, ids, rfl, ?_, hshown⟩
    -- the tree that was planted first is made of nodes that later steps leave alone
    refine hfirst.shown.of_same fun x hx m hm => ?_
    have hnew := hfirst.le_index_of_within hstage hx
    have hne : x ≠ parent := by
      rintro rfl
      omega
    rw [hold x (SceneGraph.index_lt_of_node? hm) hne, SceneGraph.node?_link, hm]
    exact ⟨_, rfl, rfl, rfl, (hrest.resources.payload (hfirst.new x m hnew hm).known).2, by simp [hne]⟩

/-- A planted tree can be hung under a node that was there before it. -/
theorem Planted.linked_link {branch : Branch R} {parent child : NodeId} {stage stage₁ : Stage R}
    (h : Planted branch stage child stage₁) (hstage : stage.graph.Linked)
    (hparent : parent.index < stage.graph.size) : (stage₁.graph.link parent child).Linked := by
  have hsize := h.size_le
  refine h.linked.link (by omega) ?_ h.root ?_
  · rcases h.shown.exists_node with ⟨m, hm⟩
    exact SceneGraph.index_lt_of_node? hm
  · intro hwithin
    exact absurd (h.le_index_of_within hstage hwithin) (by omega)

mutual

/-- Planting a branch makes new nodes that show it. -/
theorem plant_spec : ∀ (branch : Branch R) {stage : Stage R}, stage.graph.Linked →
    Planted branch stage (plant branch stage).1 (plant branch stage).2
  | .node name transform payload children, stage, hstage => by
      rcases Resources.addPayload_spec payload stage.resources with ⟨hext, ⟨hknown, hvalue⟩, hfresh⟩
      rw [plant_node]
      exact planted_of_plantedBelow hext hknown hvalue hfresh
        (plantBelow_spec children (hstage.insert rfl rfl) (by simp [SceneGraph.node?_insert]))

/-- Planting branches below a node gives it children that show them. -/
theorem plantBelow_spec : ∀ (branches : List (Branch R)) {parent : NodeId} {stage : Stage R} {n : Node R},
    stage.graph.Linked → stage.graph.node? parent = some n →
    PlantedBelow branches parent n stage (plantBelow parent branches stage).2
  | [], parent, stage, n, hstage, hn => by
      refine ⟨⟨hstage, .refl _, Nat.le_refl _, ?_⟩, fun x _ _ => rfl, [], ?_, rfl⟩
      · intro x m hx hm
        exact absurd (SceneGraph.index_lt_of_node? hm) (Nat.not_lt.2 hx)
      · rw [List.append_nil]
        exact hn
  | branch :: rest, parent, stage, n, hstage, hn => by
      have hparent := SceneGraph.index_lt_of_node? hn
      have hfirst := plant_spec branch hstage
      have hlinked := hfirst.linked_link hstage hparent
      rw [plantBelow_cons]
      refine plantedBelow_cons hstage hn hfirst hlinked (plantBelow_spec rest hlinked ?_)
      -- the new root is behind all nodes that were there, the parent among them
      have hne : parent ≠ (plant branch stage).1 := by
        rintro rfl
        exact absurd hfirst.fresh (Nat.not_le.2 hparent)
      rw [SceneGraph.node?_link, hfirst.old parent hparent, hn]
      simp [hne]

end

end LevelPrep.Stage
