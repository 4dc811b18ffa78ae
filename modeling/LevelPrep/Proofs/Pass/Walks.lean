import LevelPrep.Proofs.Pass.Rules
import LevelPrep.Proofs.Scene.Dumps
import LevelPrep.Proofs.Scene.Levels

/-!
# Walks through trees and through their dumps

The walk through a live tree and the walk through its dump meet the same nodes in the same order
(`forall₂_levelOrder`): each live node with its own dump and with the transforms on the way down to it.  What a
climb multiplies are these transforms (`Descends.relativeTransform_eq`).
-/

namespace LevelPrep

variable {R : Type}

namespace SceneGraph

section

variable [Mul R] [Add R] {g : SceneGraph R} {ancestor x : NodeId}

theorem climb_self (fuel : Nat) (below : Matrix R) : g.climb ancestor fuel (some ancestor) below = some below := by
  cases fuel <;> simp [climb]

theorem climb_none (fuel : Nat) (below : Matrix R) : g.climb ancestor fuel none below = none := by
  cases fuel <;> rfl

theorem climb_up (hne : x ≠ ancestor) {n : Node R} (hn : g.node? x = some n) (fuel : Nat) (below : Matrix R) :
    g.climb ancestor (fuel + 1) (some x) below = g.climb ancestor fuel n.parent (n.transform * below) := by
  rw [climb, if_neg hne, hn]

end

/-- A node below a root, with the transforms of the nodes on the way down to it. -/
inductive Descends (g : SceneGraph R) (root : NodeId) : NodeId → List (Matrix R) → Prop
  | root : Descends g root root []
  | child {x child : NodeId} {n : Node R} {path : List (Matrix R)} (hx : Descends g root x path)
      (hchild : child ∈ g.children x) (hn : g.node? child = some n) :
      Descends g root child (path ++ [n.transform])

namespace Descends

variable {g : SceneGraph R} {root x : NodeId} {path : List (Matrix R)}

theorem within (h : g.Descends root x path) : g.Within root x := by
  induction h with
  | root => exact Within.refl g root
  | child _ hchild _ ih => exact ih.child hchild

/-- One way down after another. -/
theorem trans {y : NodeId} {rest : List (Matrix R)} (h : g.Descends root x path) (h' : g.Descends x y rest) :
    g.Descends root y (path ++ rest) := by
  induction h' with
  | root => rwa [List.append_nil]
  | child _ hchild hn ih =>
      rw [← List.append_assoc]
      exact ih.child hchild hn

/-- A way down is there as long as the nodes on it keep their transforms and do not lose children. -/
theorem of_kept {g' : SceneGraph R} (h : g.Descends root x path)
    (hkept : ∀ y n, g.Within root y → g.node? y = some n →
      ∃ n', g'.node? y = some n' ∧ n'.transform = n.transform ∧ n.children ⊆ n'.children) :
    g'.Descends root x path := by
  induction h with
  | root => exact .root
  | @child y child n path hy hchild hn ih =>
      rcases exists_node?_of_mem_children hchild with ⟨m, hm, hmem⟩
      rcases hkept y m hy.within hm with ⟨m', hm', -, hchildren⟩
      rcases hkept child n (hy.within.child hchild) hn with ⟨n', hn', htransform, -⟩
      rw [← htransform]
      exact ih.child (by rw [children_of_node? hm']; exact hchildren hmem) hn'

/-- No way down is as long as the graph is large. -/
theorem length_lt (h : g.Descends root x path) (hg : g.Linked) (hx : x.index < g.size) :
    path.length < g.size := by
  rcases hg.exists_rank with ⟨rank, hgrows, hbounded⟩
  have hle : path.length ≤ rank x := by
    clear hx
    induction h with
    | root => exact Nat.zero_le _
    | child _ hchild _ ih =>
        have hlt := hgrows _ _ ((hg.mem_children_iff _ _).1 hchild)
        rw [List.length_append, List.length_singleton]
        omega
  exact hle.trans_lt (hbounded x hx)

variable [Mul R] [Add R]

/-- A climb multiplies the transforms on the way. -/
theorem climb_eq (h : g.Descends root x path) (hg : g.Linked) (fuel : Nat) (below : Matrix R)
    (hfuel : path.length ≤ fuel) : g.climb root fuel (some x) below = some (path.foldr (· * ·) below) := by
  induction h generalizing fuel below with
  | root => rw [climb_self, List.foldr_nil]
  | @child x child n path hx hchild hn ih =>
      rw [List.length_append, List.length_singleton] at hfuel
      obtain ⟨fuel, rfl⟩ : ∃ less, fuel = less + 1 := ⟨fuel - 1, by omega⟩
      -- the root does not lie below itself
      have hne : child ≠ root := by
        rintro rfl
        exact hg.not_within_parent hchild hx.within
      have hparent : n.parent = some x := by
        rw [← parent?_of_node? hn]
        exact (hg.mem_children_iff x child).1 hchild
      rw [climb_up hne hn, hparent, ih fuel _ (by omega), List.foldr_append]
      rfl

theorem relativeTransform_eq [Zero R] [One R] (h : g.Descends root x path) (hg : g.Linked)
    (hx : x.index < g.size) :
    g.relativeTransform x root = .ok (path.foldr (· * ·) Matrix.identity) := by
  unfold relativeTransform
  rw [h.climb_eq hg g.size _ (h.length_lt hg hx).le]

end Descends

end SceneGraph

namespace Snapshot

theorem height_node (h : Head R) (cs : List (Snapshot Geometry R)) : (h.node cs).height = heights cs + 1 :=
  rfl

theorem height_le_heights {cs : List (Snapshot Geometry R)} {c : Snapshot Geometry R} (hc : c ∈ cs) :
    c.height ≤ heights cs := by
  induction cs with
  | nil => cases hc
  | cons d rest ih =>
      rw [heights]
      rcases List.mem_cons.1 hc with rfl | hc
      · exact Nat.le_max_left _ _
      · exact (ih hc).trans (Nat.le_max_right _ _)

theorem height_lt_of_mem_placedBelow {p q : Placed R} (hq : q ∈ placedBelow p) :
    q.2.height < p.2.height := by
  rcases List.mem_map.1 hq with ⟨c, hc, rfl⟩
  have hle := height_le_heights hc
  rw [← node_head p.2, height_node]
  exact Nat.lt_succ_of_le hle

theorem levelsFrom_nil (fuel : Nat) : levelsFrom (R := R) fuel [] = [] := by
  induction fuel with
  | zero => rfl
  | succ fuel ih => rw [levelsFrom, List.flatMap_nil, ih, List.append_nil]

/-- More fuel than a level is high makes no difference. -/
theorem levelsFrom_add {fuel : Nat} {level : List (Placed R)} (hfuel : ∀ p ∈ level, p.2.height ≤ fuel)
    (more : Nat) : levelsFrom (fuel + more) level = levelsFrom fuel level := by
  induction fuel generalizing level with
  | zero =>
      have hnil : level = [] := by
        rw [List.eq_nil_iff_forall_not_mem]
        intro p hp
        have hle := hfuel p hp
        rw [← node_head p.2, height_node] at hle
        omega
      rw [hnil, levelsFrom_nil, levelsFrom_nil]
  | succ fuel ih =>
      rw [Nat.add_right_comm, levelsFrom, levelsFrom, ih]
      intro q hq
      rcases List.mem_flatMap.1 hq with ⟨p, hp, hpq⟩
      have hlt := height_lt_of_mem_placedBelow hpq
      have hle := hfuel p hp
      omega

end Snapshot

namespace Stage

open SceneGraph Snapshot

variable {stage : Stage R} {root x : NodeId}

/-- A live node that is met together with its own dump. -/
structure Meets (stage : Stage R) (root x : NodeId) (p : Placed R) : Prop where
  descends : stage.graph.Descends root x p.1
  dump : stage.snapshot? x = some p.2

theorem Meets.below {p : Placed R} (h : stage.Meets root x p) (hg : stage.graph.Linked) :
    List.Forall₂ (stage.Meets root) (stage.graph.children x) (placedBelow p) := by
  rcases (snapshot?_eq_some_iff hg).1 h.dump with ⟨hd, ds, -, hds, hp⟩
  rw [placedBelow, hp, children_node, List.forall₂_map_right_iff]
  refine (List.forall₂_and_left (p := fun child => child ∈ stage.graph.children x) _ _).2
    ⟨fun _ hchild => hchild, hds⟩ |>.imp ?_
  rintro child d ⟨hchild, hd'⟩
  rcases (snapshot?_eq_some_iff hg).1 hd' with ⟨v, _, hv, -, rfl⟩
  rcases Option.map_eq_some_iff.1 hv with ⟨n, hn, rfl⟩
  exact ⟨h.descends.child hchild hn, hd'⟩

/-- Levels that correspond go on to correspond. -/
theorem forall₂_levelsFrom (hg : stage.graph.Linked) (fuel : Nat) {ids : List NodeId}
    {level : List (Placed R)} (h : List.Forall₂ (stage.Meets root) ids level) :
    List.Forall₂ (stage.Meets root) (stage.graph.levelsFrom fuel ids) (levelsFrom fuel level) := by
  induction fuel generalizing ids level with
  | zero => exact .nil
  | succ fuel ih =>
      rw [SceneGraph.levelsFrom_succ, Snapshot.levelsFrom]
      exact List.rel_append h (ih (List.rel_flatMap h fun x p hp => hp.below hg))

/-- The walk through a tree meets the nodes whose dumps the walk through its dump meets. -/
theorem forall₂_levelOrder (hg : stage.graph.Linked) {d : Snapshot Geometry R}
    (hd : stage.snapshot? root = some d) :
    List.Forall₂ (stage.Meets root) (stage.graph.levelOrder root) d.levelOrder := by
  have hroot : stage.Meets root root (([], d) : Placed R) := ⟨.root, hd⟩
  have hheight : ∀ p ∈ placedBelow (([], d) : Placed R), p.2.height ≤ heights d.children := by
    intro p hp
    rcases List.mem_map.1 hp with ⟨c, hc, rfl⟩
    exact height_le_heights hc
  rcases hg.exists_covered root with ⟨rank, hcov⟩
  -- both walks may be given as much fuel as the two of them have together
  have hlevels := forall₂_levelsFrom hg (stage.graph.size + heights d.children) (hroot.below hg)
  rw [SceneGraph.levelsFrom_add hg hcov, Nat.add_comm, Snapshot.levelsFrom_add hheight] at hlevels
  have hpure : d.levelOrder = ([], d) :: levelsFrom (heights d.children) (placedBelow ([], d)) := by
    unfold Snapshot.levelOrder
    rw [← node_head d, height_node, Snapshot.levelsFrom, List.flatMap_cons, List.flatMap_nil, List.append_nil]
    rfl
  rw [hpure]
  exact .cons hroot hlevels

end Stage

end LevelPrep
