import LevelPrep.Proofs.Scene.Links
import LevelPrep.Scene.Traversal
import Mathlib.Data.List.Flatten
import Mathlib.Data.List.Nodup

/-!
# Depths

What lies below a node may be a tree whatever the rest of the graph looks like (`TreeBelow`).  Its nodes lie at one depth
each (`Lies`), and the rounds of a walk go through them depth by depth: `level` lists the nodes of a depth, from left to
right, and `levelOrder_eq` puts the walk together from these lists.
-/

namespace LevelPrep.SceneGraph

variable {R : Type} {g : SceneGraph R} {root x y : NodeId}

/-! ## Levels -/

@[simp] theorem levelsFrom_nil (g : SceneGraph R) (fuel : Nat) : g.levelsFrom fuel [] = [] := by
  cases fuel <;> rfl

theorem levelsFrom_succ (g : SceneGraph R) (fuel : Nat) (level : List NodeId) :
    g.levelsFrom (fuel + 1) level = level ++ g.levelsFrom fuel (level.flatMap g.children) := by
  cases level with
  | nil => simp
  | cons x level => rfl

/-- The nodes so many links below a list of nodes, in the order in which the rounds of a walk come to them. -/
def level (g : SceneGraph R) : (depth : Nat) → List NodeId → List NodeId
  | 0, nodes => nodes
  | depth + 1, nodes => g.level depth (nodes.flatMap g.children)

@[simp] theorem level_nil (g : SceneGraph R) (depth : Nat) : g.level depth [] = [] := by
  induction depth with
  | zero => rfl
  | succ depth ih => exact ih

theorem level_append (g : SceneGraph R) (depth : Nat) (nodes more : List NodeId) :
    g.level depth (nodes ++ more) = g.level depth nodes ++ g.level depth more := by
  induction depth generalizing nodes more with
  | zero => rfl
  | succ depth ih => rw [level, List.flatMap_append, ih, level, level]

theorem level_cons (g : SceneGraph R) (depth : Nat) (node : NodeId) (rest : List NodeId) :
    g.level depth (node :: rest) = g.level depth [node] ++ g.level depth rest :=
  level_append g depth [node] rest

theorem level_succ_singleton (g : SceneGraph R) (depth : Nat) (node : NodeId) :
    g.level (depth + 1) [node] = g.level depth (g.children node) := by
  rw [level, List.flatMap_singleton]

/-- The nodes of a depth, seen from those of a smaller one. -/
theorem level_add (g : SceneGraph R) (depth more : Nat) (nodes : List NodeId) :
    g.level (depth + more) nodes = g.level more (g.level depth nodes) := by
  induction depth generalizing nodes with
  | zero => rw [Nat.zero_add, level]
  | succ depth ih => rw [Nat.add_right_comm, level, ih, level]

theorem level_succ (g : SceneGraph R) (depth : Nat) (nodes : List NodeId) :
    g.level (depth + 1) nodes = (g.level depth nodes).flatMap g.children := by
  rw [level_add, level, level]

/-- Nodes that are left out are missing in the levels below, with all that hangs below them, and nothing else changes. -/
theorem level_sublist {nodes more : List NodeId} (h : nodes.Sublist more) (depth : Nat) :
    (g.level depth nodes).Sublist (g.level depth more) := by
  induction depth generalizing nodes more with
  | zero => exact h
  | succ depth ih => exact ih (h.flatMap g.children)

/-- A walk of so many rounds goes through as many levels. -/
theorem levelsFrom_eq (g : SceneGraph R) (fuel : Nat) (nodes : List NodeId) :
    g.levelsFrom fuel nodes = (List.range fuel).flatMap fun depth => g.level depth nodes := by
  induction fuel generalizing nodes with
  | zero => rfl
  | succ fuel ih =>
      rw [levelsFrom_succ, ih, List.range_succ_eq_map, List.flatMap_cons, List.flatMap_map]
      rfl

/-- The walk from a node goes through one level more than the graph has nodes. -/
theorem levelOrder_eq (g : SceneGraph R) (root : NodeId) :
    g.levelOrder root = (List.range (g.size + 1)).flatMap fun depth => g.level depth [root] := by
  rw [List.range_succ_eq_map, List.flatMap_cons, List.flatMap_map, levelOrder, descendants, levelsFrom_eq]
  simp only [level_succ_singleton]
  rfl

/-! ## Depths -/

/-- A node lies so many links below a root. -/
inductive Lies (g : SceneGraph R) (root : NodeId) : NodeId → Nat → Prop
  | root : Lies g root root 0
  | child {parent child : NodeId} {depth : Nat} (h : Lies g root parent depth) (hchild : child ∈ g.children parent) :
      Lies g root child (depth + 1)

theorem mem_level_iff {depth : Nat} : x ∈ g.level depth [root] ↔ g.Lies root x depth := by
  induction depth generalizing x with
  | zero =>
      rw [level, List.mem_singleton]
      constructor
      · rintro rfl
        exact .root
      · intro h
        cases h
        rfl
  | succ depth ih =>
      rw [level_succ, List.mem_flatMap]
      constructor
      · rintro ⟨parent, hparent, hchild⟩
        exact (ih.1 hparent).child hchild
      · intro h
        cases h with
        | child hparent hchild => exact ⟨_, ih.2 hparent, hchild⟩

namespace Lies

theorem within {depth : Nat} (h : g.Lies root x depth) : g.Within root x := by
  induction h with
  | root => exact Within.refl g root
  | child _ hchild ih => exact ih.child hchild

theorem trans {depth more : Nat} (h : g.Lies root x depth) (h' : g.Lies x y more) : g.Lies root y (depth + more) := by
  induction h' with
  | root => exact h
  | child _ hchild ih => exact ih.child hchild

/-- At every smaller depth there is a node with children. -/
theorem exists_above {depth : Nat} (h : g.Lies root x depth) {less : Nat} (hless : less < depth) :
    ∃ y, g.Lies root y less ∧ y.index < g.size := by
  induction h with
  | root => exact absurd hless (Nat.not_lt_zero less)
  | @child parent child depth hparent hchild ih =>
      rcases Nat.lt_or_eq_of_le (Nat.le_of_lt_succ hless) with hlt | rfl
      · exact ih hlt
      · rcases exists_node?_of_mem_children hchild with ⟨n, hn, -⟩
        exact ⟨parent, hparent, index_lt_of_node? hn⟩

end Lies

theorem Within.exists_lies (h : g.Within root x) : ∃ depth, g.Lies root x depth := by
  induction h with
  | refl => exact ⟨0, .root⟩
  | tail _ hchild ih =>
      rcases ih with ⟨depth, hdepth⟩
      exact ⟨depth + 1, hdepth.child hchild⟩

/-! ## Trees -/

/-- What lies below a node is a tree: none of its nodes is a child twice, of one node or of two, and the root is a child
of none of them. -/
structure TreeBelow (g : SceneGraph R) (root : NodeId) : Prop where
  nodup : ∀ parent, g.Within root parent → (g.children parent).Nodup
  oneParent : ∀ parent other child, g.Within root parent → g.Within root other →
    child ∈ g.children parent → child ∈ g.children other → parent = other
  top : ∀ parent, g.Within root parent → root ∉ g.children parent

/-- Every tree of a linked graph is one. -/
theorem Linked.treeBelow (hg : g.Linked) (root : NodeId) : g.TreeBelow root where
  nodup parent _ := hg.nodup_children parent
  oneParent _ _ _ _ _ h h' := hg.parent_unique h h'
  top _ hwithin h := hg.not_within_parent h hwithin

namespace TreeBelow

/-- A node lies at one depth. -/
theorem depth_unique (h : g.TreeBelow root) {depth other : Nat} (hx : g.Lies root x depth)
    (hx' : g.Lies root x other) : depth = other := by
  induction hx generalizing other with
  | root =>
      cases hx' with
      | root => rfl
      | child hparent hchild => exact absurd hchild (h.top _ hparent.within)
  | child hparent hchild ih =>
      cases hx' with
      | root => exact absurd hchild (h.top _ hparent.within)
      | child hparent' hchild' =>
          have heq := h.oneParent _ _ _ hparent.within hparent'.within hchild hchild'
          rw [ih (heq ▸ hparent')]

/-- No node is met twice in a level. -/
theorem nodup_level (h : g.TreeBelow root) (depth : Nat) : (g.level depth [root]).Nodup := by
  induction depth with
  | zero => exact List.nodup_singleton root
  | succ depth ih =>
      rw [level_succ]
      refine List.nodup_flatMap.2 ⟨fun parent hparent => h.nodup parent (mem_level_iff.1 hparent).within, ?_⟩
      refine ih.imp_of_mem fun {parent other} hparent hother hne child hchild hchild' => ?_
      exact hne (h.oneParent _ _ child (mem_level_iff.1 hparent).within (mem_level_iff.1 hother).within hchild hchild')

/-- A tree is no deeper than the graph is large. -/
theorem depth_le (h : g.TreeBelow root) {depth : Nat} (hx : g.Lies root x depth) : depth ≤ g.size := by
  have habove : ∀ less, ∃ y, less < depth → g.Lies root y less ∧ y.index < g.size := by
    intro less
    by_cases hless : less < depth
    · rcases hx.exists_above hless with ⟨y, hy⟩
      exact ⟨y, fun _ => hy⟩
    · exact ⟨root, fun hlt => absurd hlt hless⟩
  rcases Classical.axiom_of_choice habove with ⟨above, habove⟩
  -- the nodes on the way down are different ones, as their depths are
  have hcard := Finset.card_le_card_of_injOn (s := Finset.range depth) (t := Finset.range g.size)
    (fun less => (above less).index)
    (fun less hless => Finset.mem_coe.2 (Finset.mem_range.2 (habove less (Finset.mem_range.1 hless)).2))
    (fun less hless other hother heq => by
      have hsame : above less = above other := congrArg NodeId.mk heq
      have hless := (habove less (Finset.mem_range.1 hless)).1
      exact h.depth_unique hless (hsame ▸ (habove other (Finset.mem_range.1 hother)).1))
  rwa [Finset.card_range, Finset.card_range] at hcard

theorem level_eq_nil (h : g.TreeBelow root) {depth : Nat} (hdepth : g.size < depth) : g.level depth [root] = [] := by
  rw [List.eq_nil_iff_forall_not_mem]
  intro x hx
  exact absurd (h.depth_le (mem_level_iff.1 hx)) (Nat.not_le_of_lt hdepth)

/-- The walk meets the nodes that lie at some depth. -/
theorem mem_levelOrder (h : g.TreeBelow root) : x ∈ g.levelOrder root ↔ g.Within root x := by
  rw [levelOrder_eq, List.mem_flatMap]
  constructor
  · rintro ⟨depth, -, hx⟩
    exact (mem_level_iff.1 hx).within
  · intro hx
    rcases hx.exists_lies with ⟨depth, hdepth⟩
    exact ⟨depth, List.mem_range.2 (Nat.lt_succ_of_le (h.depth_le hdepth)), mem_level_iff.2 hdepth⟩

/-- It goes from smaller depths to larger ones. -/
theorem pairwise_levelOrder (h : g.TreeBelow root) : (g.levelOrder root).Pairwise fun x y =>
    ∀ depth depth', g.Lies root x depth → g.Lies root y depth' → depth ≤ depth' := by
  rw [levelOrder_eq, List.pairwise_flatMap]
  constructor
  · intro depth _
    refine List.pairwise_of_forall_mem_list fun x hx y hy dx dy hdx hdy => ?_
    rw [h.depth_unique hdx (mem_level_iff.1 hx), h.depth_unique hdy (mem_level_iff.1 hy)]
  · refine List.pairwise_lt_range.imp fun {depth depth'} hlt x hx y hy dx dy hdx hdy => ?_
    rw [h.depth_unique hdx (mem_level_iff.1 hx), h.depth_unique hdy (mem_level_iff.1 hy)]
    exact Nat.le_of_lt hlt

theorem nodup_levelOrder (h : g.TreeBelow root) : (g.levelOrder root).Nodup := by
  rw [levelOrder_eq]
  refine List.nodup_flatMap.2 ⟨fun depth _ => h.nodup_level depth, ?_⟩
  refine List.pairwise_lt_range.imp fun {depth depth'} hlt x hx hx' => ?_
  exact absurd (h.depth_unique (mem_level_iff.1 hx) (mem_level_iff.1 hx')) (Nat.ne_of_lt hlt)

/-- The nodes of a depth stand in the walk in the order of their level. -/
theorem level_sublist_levelOrder (h : g.TreeBelow root) (depth : Nat) :
    (g.level depth [root]).Sublist (g.levelOrder root) := by
  rcases Nat.lt_or_ge g.size depth with hlt | hle
  · rw [h.level_eq_nil hlt]
    exact List.nil_sublist _
  · have hmem := List.singleton_sublist.2 (List.mem_range.2 (Nat.lt_succ_of_le hle))
    rw [levelOrder_eq]
    rw [← List.flatMap_singleton (fun depth => g.level depth [root]) depth]
    exact hmem.flatMap fun depth => g.level depth [root]

end TreeBelow

end LevelPrep.SceneGraph
