import LevelPrep.Proofs.Mesh.References
import LevelPrep.Proofs.Scene.Dumps
import LevelPrep.Proofs.Scene.Planting
import LevelPrep.Proofs.Scene.Relabelling

/-!
# Scenes of their own

`OwnScene` says of a live tree that it is a scene of its own: no node in it has a link to the outside.  A tree that is
planted and given to its root is one (`Planted.ownScene`), and it is still one under another name (`OwnScene.rename`)
and when other things are added to the stage (`OwnScene.of_enlarged`).
-/

namespace LevelPrep

variable {R : Type}

/-- The tree under another name. -/
def Tree.rename {G : Type} (name : Json) : Tree G R → Tree G R
  | .node _ transform payload children => .node name transform payload children

namespace Stage

open SceneGraph

/-- A scene of its own looks like a branch, and nothing has a link to the outside: the root has neither a parent nor
an owner, and it owns what lies below it.  No node of it is to be taken out. -/
structure OwnScene (stage : Stage R) (branch : Branch R) (root : NodeId) : Prop where
  shown : stage.Shows branch root
  free : ∃ n, stage.graph.node? root = some n ∧ n.parent = none ∧ n.owner = none ∧ n.queued = false
  below : ∀ child ∈ stage.graph.children root, ∀ x, stage.graph.Within child x → stage.KeptBy root x
  known : ∀ x n, stage.graph.Within root x → stage.graph.node? x = some n → n.payload.Known stage.resources

namespace OwnScene

variable {stage stage' : Stage R} {branch : Branch R} {root x : NodeId} {n : Node R}

theorem index_lt (h : stage.OwnScene branch root) : root.index < stage.graph.size := by
  rcases h.free with ⟨n, hn, -⟩
  exact index_lt_of_node? hn

theorem parent?_eq (h : stage.OwnScene branch root) : stage.graph.parent? root = none := by
  rcases h.free with ⟨n, hn, hparent, -⟩
  rw [parent?_of_node? hn, hparent]

/-- No node of the scene is to be taken out, and an owner of a node is the root. -/
theorem kept (h : stage.OwnScene branch root) (hx : stage.graph.Within root x)
    (hn : stage.graph.node? x = some n) : n.queued = false ∧ ∀ owner, n.owner = some owner → owner = root := by
  rcases hx.eq_or_exists_child with rfl | ⟨child, hchild, hx⟩
  · rcases h.free with ⟨m, hm, -, howner, hqueued⟩
    cases hn.symm.trans hm
    refine ⟨hqueued, fun owner h => ?_⟩
    cases howner.symm.trans h
  · rcases h.below child hchild x hx with ⟨howner, hstays⟩
    simp only [owner?, SceneGraph.isQueued, hn, Option.bind_some, Option.any_some] at howner hstays
    exact ⟨hstays, fun owner h => Option.some.inj (h.symm.trans howner)⟩

/-- The parent of a node of the scene lies in the scene. -/
theorem within_parent (h : stage.OwnScene branch root) (hg : stage.graph.Linked) (hx : stage.graph.Within root x)
    (hn : stage.graph.node? x = some n) {parent : NodeId} (hparent : n.parent = some parent) :
    stage.graph.Within root parent := by
  have hlink : stage.graph.parent? x = some parent := by rw [parent?_of_node? hn, hparent]
  rcases hx.eq_or_exists_parent with rfl | ⟨other, hother, hchild⟩
  · cases h.parent?_eq.symm.trans hlink
  · rwa [Option.some.inj (hlink.symm.trans ((hg.mem_children_iff other x).1 hchild))]

/-- The scene is dumped as the branch that it looks like. -/
theorem snapshot?_eq (h : stage.OwnScene branch root) (hg : stage.graph.Linked) :
    stage.snapshot? root = some branch.asScene := by
  rcases h.free with ⟨n, hn, -, howner, hqueued⟩
  exact snapshot?_asScene hg h.shown hn howner hqueued h.below

/-- A scene whose nodes are left alone, with what they refer to, stays one. -/
theorem of_same (h : stage.OwnScene branch root)
    (hsame : ∀ x, stage.graph.Within root x → stage'.graph.node? x = stage.graph.node? x)
    (hvalue : ∀ x n, stage.graph.Within root x → stage.graph.node? x = some n →
      n.payload.Known stage'.resources ∧ stage'.payloadValue n = stage.payloadValue n) :
    stage'.OwnScene branch root := by
  have hfrom : ∀ top, stage.graph.Within root top → ∀ x, stage'.graph.Within top x ↔ stage.graph.Within top x :=
    fun top hin x => within_congr fun y hy => hsame y (hin.trans hy)
  refine ⟨h.shown.of_same fun x hx m hm => ?_, ?_, ?_, ?_⟩
  · exact ⟨m, (hsame x hx).trans hm, rfl, rfl, (hvalue x m hx hm).2, rfl⟩
  · rw [hsame root (Within.refl _ root)]
    exact h.free
  · intro child hchild x hx
    have hchild' : child ∈ stage.graph.children root := by
      unfold children at hchild ⊢
      rwa [hsame root (Within.refl _ root)] at hchild
    have hin := (Within.refl stage.graph root).child hchild'
    have hx' := (hfrom child hin x).1 hx
    rcases h.below child hchild' x hx' with ⟨howner, hstays⟩
    constructor
    · rw [owner?, hsame x (hin.trans hx'), ← owner?, howner]
    · rw [SceneGraph.isQueued, hsame x (hin.trans hx'), ← SceneGraph.isQueued, hstays]
  · intro x m hx hm
    rw [hfrom root (Within.refl _ root)] at hx
    rw [hsame x hx] at hm
    exact (hvalue x m hx hm).1

/-- A scene is still one on an enlarged stage. -/
theorem of_enlarged (h : stage.OwnScene branch root) (hg : stage.graph.Linked) (hlarger : stage.Enlarged stage') :
    stage'.OwnScene branch root :=
  h.of_same (fun x hx => hlarger.old x (hg.index_lt_of_within hx h.index_lt))
    fun x n hx hn => hlarger.resources.payload (h.known x n hx hn)

end OwnScene

namespace Planted

variable {stage stage' : Stage R} {branch : Branch R} {root : NodeId}

theorem shows_ownTree (h : stage.Planted branch root stage') :
    ({ stage' with graph := stage'.graph.ownTree root } : Stage R).Shows branch root :=
  h.shown.of_same fun _ _ _ hm => ⟨_, node?_ownTree hm, rfl, rfl, rfl, rfl⟩

/-- A tree that is planted and given to its root is as new as it was. -/
theorem ownTree (h : stage.Planted branch root stage') (hg : stage.graph.Linked) :
    stage.Planted branch root { stage' with graph := stage'.graph.ownTree root } := by
  have hown := relabelled_ownTree stage'.graph root
  rcases h.shown.exists_node with ⟨n, hn⟩
  refine ⟨⟨⟨hown.linked h.linked, h.resources, hown.size_eq.symm ▸ h.size_le, fun x m hx hm => ?_⟩,
    fun x hx => ?_⟩, h.fresh, (hown.parent?_same root).trans h.root, h.shows_ownTree⟩
  · rw [hown.node?_eq] at hm
    rcases Option.map_eq_some_iff.1 hm with ⟨k, hk, rfl⟩
    have hadded := h.new x k hx hk
    refine ⟨hadded.unqueued, fun owner howner => ?_, hadded.known, hadded.fresh⟩
    rw [hown.size_eq]
    change (if _ then none else if _ then some root else k.owner) = some owner at howner
    split_ifs at howner
    · exact Option.some.inj howner ▸ ⟨h.fresh, index_lt_of_node? hn⟩
    · exact hadded.owner owner howner
  · have hout : x ∉ stage'.graph.levelOrder root := fun hmem =>
      absurd (h.le_index_of_within hg ((mem_levelOrder_iff h.linked).1 hmem)) (Nat.not_le.2 hx)
    rw [node?_ownTree_of_notMem hout, h.old x hx]

/-- It is a scene of its own. -/
theorem ownScene (h : stage.Planted branch root stage') (hg : stage.graph.Linked) :
    ({ stage' with graph := stage'.graph.ownTree root } : Stage R).OwnScene branch root := by
  have hown := relabelled_ownTree stage'.graph root
  rcases h.shown.exists_node with ⟨n, hn⟩
  have hlt := index_lt_of_node? hn
  -- what is known of the nodes of the tree before they are given to the root
  have hadded : ∀ x, stage'.graph.Within root x → ∀ m, stage'.graph.node? x = some m → stage.Added stage' m :=
    fun x hx m hm => h.new x m (h.le_index_of_within hg hx) hm
  refine ⟨h.shows_ownTree, ?_, fun child hchild x hx => ?_, fun x m hx hm => ?_⟩
  · refine ⟨_, node?_ownTree hn, ?_, by simp, (hadded root (Within.refl _ root) n hn).unqueued⟩
    rw [← parent?_of_node? hn, h.root]
  · rw [hown.children_same] at hchild
    have hin := ((Within.refl stage'.graph root).child hchild).trans (hown.within_iff.1 hx)
    rcases exists_node?_iff.2 (h.linked.index_lt_of_within hin hlt) with ⟨m, hm⟩
    have hne : x ≠ root := by
      rintro rfl
      exact h.linked.not_within_parent hchild (hown.within_iff.1 hx)
    constructor
    · simp [owner?, node?_ownTree hm, hne, (mem_levelOrder_iff h.linked).2 hin]
    · simpa [SceneGraph.isQueued, node?_ownTree hm] using (hadded x hin m hm).unqueued
  · have hin := hown.within_iff.1 hx
    rcases exists_node?_iff.2 (h.linked.index_lt_of_within hin hlt) with ⟨k, hk⟩
    cases hm.symm.trans (node?_ownTree hk)
    exact (hadded x hin k hk).known

end Planted

/-! ## Names -/

/-- The stage with another name for a node. -/
def rename (id : NodeId) (name : Json) (stage : Stage R) : Stage R :=
  { stage with graph := stage.graph.modify id fun n => { n with name := name } }

variable {stage stage' : Stage R} {root : NodeId} {branch : Branch R}

theorem node?_rename (name : Json) (x : NodeId) : (stage.rename root name).graph.node? x =
    (stage.graph.node? x).map fun n => { n with name := if x = root then name else n.name } :=
  (relabelled_rename stage.graph root name).node?_eq x

theorem node?_rename_of_node? {x : NodeId} {n : Node R} (hn : stage.graph.node? x = some n) (name : Json) :
    (stage.rename root name).graph.node? x = some { n with name := if x = root then name else n.name } := by
  rw [node?_rename, hn, Option.map_some]

/-- Naming a root does not change what is seen of the nodes below it. -/
theorem Shows.rename (hg : stage.graph.Linked) (h : stage.Shows branch root) (name : Json) :
    (stage.rename root name).Shows (branch.rename name) root := by
  rcases branch with ⟨old, transform, payload, children⟩
  rcases h with ⟨n, hn, rfl, rfl, rfl, hall⟩
  refine ⟨_, node?_rename_of_node? hn name, if_pos rfl, rfl, rfl, ?_⟩
  refine hall.of_same fun child hchild x hx m hm => ?_
  -- no node is below its own child, so only the root is renamed
  have hne : x ≠ root := by
    rintro rfl
    exact hg.not_within_parent (by rwa [children_of_node? hn]) hx
  exact ⟨_, node?_rename_of_node? hm name, if_neg hne, rfl, rfl, rfl⟩

/-- A planted tree under another name is as new as it was. -/
theorem Planted.rename (h : stage.Planted branch root stage') (name : Json) :
    stage.Planted (branch.rename name) root (stage'.rename root name) := by
  have hrelabelled := relabelled_rename stage'.graph root name
  have hsize : (stage'.rename root name).graph.size = stage'.graph.size := hrelabelled.size_eq
  refine ⟨⟨⟨hrelabelled.linked h.linked, h.resources, hsize.symm ▸ h.size_le, fun x n hx hn => ?_⟩,
    fun x hx => ?_⟩, h.fresh, (hrelabelled.parent?_same root).trans h.root, h.shown.rename h.linked name⟩
  · rw [node?_rename] at hn
    rcases Option.map_eq_some_iff.1 hn with ⟨m, hm, rfl⟩
    have hadded := h.new x m hx hm
    exact ⟨hadded.unqueued, fun owner howner => hsize.symm ▸ hadded.owner owner howner, hadded.known, hadded.fresh⟩
  · have hne : x ≠ root := by
      rintro rfl
      exact absurd h.fresh (Nat.not_le.2 hx)
    rw [node?_rename, h.old x hx]
    cases stage.graph.node? x <;> simp [hne]

/-- A scene under another name is still a scene of its own. -/
theorem OwnScene.rename (hg : stage.graph.Linked) (h : stage.OwnScene branch root) (name : Json) :
    (stage.rename root name).OwnScene (branch.rename name) root := by
  have hrelabelled := relabelled_rename stage.graph root name
  refine ⟨h.shown.rename hg name, ?_, fun child hchild x hx => ?_, fun x n hx hn => ?_⟩
  · rcases h.free with ⟨n, hn, hfree⟩
    exact ⟨_, node?_rename_of_node? hn name, hfree⟩
  · rw [Stage.rename, hrelabelled.children_same] at hchild
    rcases h.below child hchild x (hrelabelled.within_iff.1 hx) with ⟨howner, hstays⟩
    rcases Option.bind_eq_some_iff.1 howner with ⟨m, hm, howned⟩
    rw [SceneGraph.isQueued, hm] at hstays
    constructor
    · rw [owner?, node?_rename_of_node? hm, Option.bind_some, howned]
    · rw [SceneGraph.isQueued, node?_rename_of_node? hm]
      exact hstays
  · rw [node?_rename] at hn
    rcases Option.map_eq_some_iff.1 hn with ⟨m, hm, rfl⟩
    exact h.known x m (hrelabelled.within_iff.1 hx) hm

end Stage

end LevelPrep
