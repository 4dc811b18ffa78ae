import LevelPrep.Proofs.Scene.Depths

/-!
# Walks through linked graphs

In a linked graph all that lies below a node is a tree, and the walk from the node lists it: every node of the tree
(`mem_levelOrder_iff`), each once (`nodup_levelOrder`).  The fuel of the walk does not matter once it covers the graph,
and nodes that are added to a tree do not change the order in which the others are met (`filter_levelOrder_of_grown`).
-/

namespace LevelPrep.SceneGraph

variable {R : Type} {g : SceneGraph R}

/-- Graphs with the same links are walked in the same way. -/
theorem levelOrder_congr {g' : SceneGraph R} (hsize : g'.size = g.size)
    (hchildren : ∀ x, g'.children x = g.children x) (root : NodeId) : g'.levelOrder root = g.levelOrder root := by
  have hlevels : ∀ fuel level, g'.levelsFrom fuel level = g.levelsFrom fuel level := by
    intro fuel
    induction fuel with
    | zero => exact fun _ => rfl
    | succ fuel ih =>
        intro level
        rw [levelsFrom_succ, levelsFrom_succ, ih, funext hchildren]
  unfold levelOrder descendants
  rw [hsize, hchildren, hlevels]

/-- The nodes of a level lie in the graph and have so large a rank that the fuel covers all that lies
below them. -/
structure Covered (g : SceneGraph R) (rank : NodeId → Nat) (fuel : Nat) (level : List NodeId) : Prop where
  grows : ∀ parent child, g.parent? child = some parent → rank parent < rank child
  bounded : ∀ x, x.index < g.size → rank x < g.size
  inside : ∀ x ∈ level, x.index < g.size
  enough : ∀ x ∈ level, g.size ≤ rank x + fuel

theorem Covered.next (hg : g.Linked) {rank : NodeId → Nat} {fuel : Nat} {level : List NodeId}
    (h : g.Covered rank (fuel + 1) level) : g.Covered rank fuel (level.flatMap g.children) where
  grows := h.grows
  bounded := h.bounded
  inside x hx := by
    rcases List.mem_flatMap.1 hx with ⟨parent, -, hmem⟩
    exact (hg.index_lt_of_mem_children hmem).2
  enough x hx := by
    rcases List.mem_flatMap.1 hx with ⟨parent, hparent, hmem⟩
    have hlt := h.grows parent x ((hg.mem_children_iff parent x).1 hmem)
    have hle := h.enough parent hparent
    omega

theorem Covered.eq_nil {rank : NodeId → Nat} {level : List NodeId} (h : g.Covered rank 0 level) :
    level = [] := by
  rw [List.eq_nil_iff_forall_not_mem]
  intro x hx
  have hlt := h.bounded x (h.inside x hx)
  have hle := h.enough x hx
  omega

/-- The children of a node are covered by as much fuel as the graph has nodes. -/
theorem Linked.exists_covered (hg : g.Linked) (root : NodeId) :
    ∃ rank, g.Covered rank g.size (g.children root) := by
  rcases hg.exists_rank with ⟨rank, hgrows, hbounded⟩
  refine ⟨rank, hgrows, hbounded, ?_, fun x _ => Nat.le_add_left _ _⟩
  intro x hx
  exact (hg.index_lt_of_mem_children hx).2

/-- More fuel than enough makes no difference. -/
theorem levelsFrom_add (hg : g.Linked) {rank : NodeId → Nat} {fuel : Nat} {level : List NodeId}
    (hcov : g.Covered rank fuel level) (more : Nat) :
    g.levelsFrom (fuel + more) level = g.levelsFrom fuel level := by
  induction fuel generalizing level with
  | zero => simp [hcov.eq_nil]
  | succ fuel ih =>
      rw [Nat.add_right_comm, levelsFrom_succ, levelsFrom_succ, ih (hcov.next hg)]

/-! ## The walk from a node -/

/-- The walk from a node meets exactly the nodes of its tree. -/
theorem mem_levelOrder_iff (hg : g.Linked) {root x : NodeId} :
    x ∈ g.levelOrder root ↔ g.Within root x :=
  (hg.treeBelow root).mem_levelOrder

/-- The walk from a node meets no node twice. -/
theorem nodup_levelOrder (hg : g.Linked) (root : NodeId) : (g.levelOrder root).Nodup :=
  (hg.treeBelow root).nodup_levelOrder

theorem mem_descendants_iff (hg : g.Linked) {root x : NodeId} :
    x ∈ g.descendants root ↔ ∃ child ∈ g.children root, g.Within child x := by
  have hroot : root ∉ g.descendants root := (List.nodup_cons.1 (nodup_levelOrder hg root)).1
  constructor
  · intro hx
    rcases ((mem_levelOrder_iff hg).1 (List.mem_cons_of_mem root hx)).eq_or_exists_child with rfl | hbelow
    · exact absurd hx hroot
    · exact hbelow
  · rintro ⟨child, hchild, hx⟩
    have hmet := (mem_levelOrder_iff hg).2 (((Within.refl g root).child hchild).trans hx)
    rcases List.mem_cons.1 hmet with rfl | hx'
    · exact absurd hx (hg.not_within_parent hchild)
    · exact hx'

/-- Behind a level come the children of what has been met so far, in their order. -/
theorem levelsFrom_eq_append_flatMap (hg : g.Linked) {rank : NodeId → Nat} {fuel : Nat} {level : List NodeId}
    (hcov : g.Covered rank fuel level) :
    g.levelsFrom fuel level = level ++ (g.levelsFrom fuel level).flatMap g.children := by
  induction fuel generalizing level with
  | zero =>
      rw [hcov.eq_nil]
      rfl
  | succ fuel ih =>
      have hnext := ih (hcov.next hg)
      rw [levelsFrom_succ, List.flatMap_append, ← hnext]

/-- The walk is breadth-first: behind the root come the children of the nodes in the order in which these are met. -/
theorem levelOrder_eq_cons_flatMap (hg : g.Linked) (root : NodeId) :
    g.levelOrder root = root :: (g.levelOrder root).flatMap g.children := by
  rcases hg.exists_covered root with ⟨rank, hcov⟩
  have hbelow : g.descendants root = g.children root ++ (g.descendants root).flatMap g.children :=
    levelsFrom_eq_append_flatMap hg hcov
  rw [levelOrder, List.flatMap_cons, ← hbelow]

/-! ## Walks through a graph that has grown -/

/-- A tree that has grown, seen on the nodes it had: among the children of each of these the ones it had
stand in their old order, and below a new node there are none of them. -/
structure GrownBy (g g' : SceneGraph R) (old : NodeId → Bool) : Prop where
  children_old : ∀ x, old x = true → (g'.children x).filter old = g.children x
  children_new : ∀ x, old x = false → (g'.children x).filter old = []

theorem filter_levelsFrom_of_grown {g' : SceneGraph R} {old : NodeId → Bool}
    (h : g.GrownBy g' old) (fuel : Nat) (level : List NodeId) :
    (g'.levelsFrom fuel level).filter old = g.levelsFrom fuel (level.filter old) := by
  induction fuel generalizing level with
  | zero => rfl
  | succ fuel ih =>
      -- the old nodes of the next level are the old children of the old nodes of this one
      have hnext : (level.flatMap g'.children).filter old =
          (level.filter old).flatMap g.children := by
        induction level with
        | nil => rfl
        | cons x level ihlevel =>
            rw [List.flatMap_cons, List.filter_append, ihlevel]
            cases hx : old x with
            | true => simp [hx, h.children_old x hx]
            | false => simp [hx, h.children_new x hx]
      rw [levelsFrom_succ, levelsFrom_succ, List.filter_append, ih, hnext]

/-- The walk through a tree that has grown meets the nodes it had in their old order. -/
theorem filter_levelOrder_of_grown (hg : g.Linked) {g' : SceneGraph R}
    {old : NodeId → Bool} (h : g.GrownBy g' old) (hsize : g.size ≤ g'.size) {root : NodeId}
    (hroot : old root = true) : (g'.levelOrder root).filter old = g.levelOrder root := by
  rcases hg.exists_covered root with ⟨rank, hcov⟩
  rcases Nat.exists_eq_add_of_le hsize with ⟨more, hmore⟩
  have hbelow : (g'.descendants root).filter old = g.descendants root := by
    unfold descendants
    rw [filter_levelsFrom_of_grown h, h.children_old root hroot, hmore, levelsFrom_add hg hcov]
  simp [levelOrder, hroot, hbelow]

end LevelPrep.SceneGraph
