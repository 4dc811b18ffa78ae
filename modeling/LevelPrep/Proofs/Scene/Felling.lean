import LevelPrep.Proofs.Scene.Flushing
import LevelPrep.Proofs.Scene.Planting
import LevelPrep.Proofs.Scene.Relabelling
import Mathlib.Algebra.GroupWithZero.Nat

/-!
# What a flush leaves and what it cuts off

The nodes that a flush cuts are told by the paths from the root: a node is `Severed` if it is queued and nothing on the
path above it, below the root, is.  These are the doomed nodes (`severed_iff_doomed`), and the nodes that are left are
those without a queued node on their path (`reaches_iff_unmarked`).

* `Felled`: what is left below the root, what is cut off, and how many trees that are;
* `flush_fells`: a flush does this, and a second one does nothing.
-/

namespace LevelPrep.SceneGraph

variable {R : Type} {g g' : SceneGraph R} {root x y : NodeId}

/-! ## Paths below a root -/

/-- A node lies below another: in its tree, but not at the root of it. -/
def Below (g : SceneGraph R) (root x : NodeId) : Prop :=
  g.Within root x ∧ x ≠ root

/-- No node on the path from the root to the node is queued; the node counts, and the root does not. -/
def Unmarked (g : SceneGraph R) (root x : NodeId) : Prop :=
  ∀ y, g.Below root y → g.Within y x → g.isQueued y = false

/-- A queued node below the root, with no other queued node on its path. -/
structure Severed (g : SceneGraph R) (root x : NodeId) : Prop where
  below : g.Below root x
  queued : g.isQueued x = true
  topmost : ∀ y, g.Below root y → g.Within y x → y ≠ x → g.isQueued y = false

/-- Children lie below the root of the tree that their parents are in. -/
theorem Linked.below_of_mem_children (hg : g.Linked) {parent child : NodeId} (hparent : g.Within root parent)
    (hchild : child ∈ g.children parent) : g.Below root child := by
  refine ⟨hparent.child hchild, ?_⟩
  rintro rfl
  exact hg.not_within_parent hchild hparent

/-- Above a child are its parent and what is above that. -/
theorem Linked.within_parent (hg : g.Linked) {parent child : NodeId} (hchild : child ∈ g.children parent)
    (hy : g.Within y child) (hne : y ≠ child) : g.Within y parent := by
  rcases hy.eq_or_exists_parent with heq | ⟨other, hother, hmem⟩
  · exact absurd heq.symm hne
  · exact hg.parent_unique hmem hchild ▸ hother

theorem Unmarked.parent {parent child : NodeId} (hchild : child ∈ g.children parent) (h : g.Unmarked root child) :
    g.Unmarked root parent := by
  intro y hbelow hy
  exact h y hbelow (hy.child hchild)

/-- The nodes that are reached are those of the tree without a queued node on their path. -/
theorem reaches_iff_unmarked (hg : g.Linked) : g.Reaches root x ↔ g.Within root x ∧ g.Unmarked root x := by
  constructor
  · intro h
    refine ⟨h.within, ?_⟩
    induction h with
    | refl =>
        -- a node that is both below the root and above it would close a cycle
        rintro y ⟨hrooty, hne⟩ hy
        rcases hy.eq_or_exists_parent with heq | ⟨parent, hparent, hmem⟩
        · exact absurd heq.symm hne
        · exact absurd (hrooty.trans hparent) (hg.not_within_parent hmem)
    | @tail parent child _ hedge ih =>
        intro y hbelow hy
        -- a node on the path to the child is the child, or lies on the path to its parent
        by_cases heq : y = child
        · rw [heq]
          exact hedge.2
        · exact ih y hbelow (hg.within_parent hedge.1 hy heq)
  · rintro ⟨hwithin, hunmarked⟩
    induction hwithin with
    | refl => exact .refl
    | @tail parent child hparent hchild ih =>
        have hkept : g.isQueued child = false :=
          hunmarked child (hg.below_of_mem_children hparent hchild) (Within.refl g child)
        exact (ih (hunmarked.parent hchild)).tail ⟨hchild, hkept⟩

/-- The doomed nodes, told by their paths. -/
theorem severed_iff_doomed (hg : g.Linked) : g.Severed root x ↔ g.Doomed root x := by
  constructor
  · intro h
    rcases h.below.1.eq_or_exists_parent with heq | ⟨parent, hparent, hmem⟩
    · exact absurd heq h.below.2
    · refine ⟨h.queued, parent, (reaches_iff_unmarked hg).2 ⟨hparent, ?_⟩, hmem⟩
      intro y hbelow hy
      refine h.topmost y hbelow (hy.child hmem) ?_
      rintro rfl
      exact hg.not_within_parent hmem hy
  · rintro ⟨hqueued, parent, hreaches, hmem⟩
    rcases (reaches_iff_unmarked hg).1 hreaches with ⟨hparent, hunmarked⟩
    refine ⟨hg.below_of_mem_children hparent hmem, hqueued, ?_⟩
    intro y hbelow hy hne
    exact hunmarked y hbelow (hg.within_parent hmem hy hne)

/-- No doomed node lies below another. -/
theorem Doomed.eq_of_within (hg : g.Linked) (hx : g.Doomed root x) (hy : g.Doomed root y) (h : g.Within x y) :
    y = x := by
  by_contra hne
  have hseveredX := (severed_iff_doomed hg).2 hx
  have hseveredY := (severed_iff_doomed hg).2 hy
  have hunqueued := hseveredY.topmost x hseveredX.below h (Ne.symm hne)
  rw [hseveredX.queued] at hunqueued
  cases hunqueued

/-! ## The graph after a flush -/

namespace Cut

variable {doomed : NodeId → Prop}

/-- Where there was nothing to be cut the graph is the same. -/
theorem eq_self (h : Cut doomed g g') (hnone : ∀ x, ¬ doomed x) : g' = g := by
  have hnode : ∀ x, g'.node? x = g.node? x := by
    intro x
    rw [h.node?_eq]
    cases g.node? x <;> simp [hnone]
  have hnodes : g'.nodes = g.nodes := Array.ext_getElem? fun i => hnode ⟨i⟩
  cases g
  cases g'
  exact congrArg SceneGraph.mk hnodes

/-- What is reached is still in the tree. -/
theorem within_iff_reaches (h : Cut (g.Doomed root) g g') : g'.Within root x ↔ g.Reaches root x := by
  refine ⟨h.reaches_of_within, fun hreaches => ?_⟩
  induction hreaches with
  | refl => exact Within.refl g' root
  | @tail parent child _ hedge ih =>
      refine ih.child ((h.children_eq parent child).2 ⟨hedge.1, fun hdoomed => ?_⟩)
      have hqueued := hdoomed.1
      rw [hedge.2] at hqueued
      cases hqueued

end Cut

/-- The graph after the queued trees were taken out of the tree of a node. -/
structure Felled (root : NodeId) (g : SceneGraph R) (flushed : Nat × SceneGraph R) : Prop where
  /-- Below the root exactly the nodes are left without a queued node on their path. -/
  below_iff : ∀ x, flushed.2.Below root x ↔ g.Below root x ∧ g.Unmarked root x
  /-- What is left keeps its parent, and those of its children that are left, in their order. -/
  left : ∀ x n, flushed.2.Within root x → g.node? x = some n →
    flushed.2.node? x = some { n with children := n.children.filter fun child => !g.isQueued child }
  /-- The number of trees that were cut off. -/
  count : {x | g.Severed root x}.encard = flushed.1
  /-- What is cut off loses its parent and nothing else. -/
  severed : ∀ x n, g.Severed root x → g.node? x = some n → flushed.2.node? x = some { n with parent := none }
  /-- The trees that are cut off stay whole, queued nodes in them included. -/
  severed_within : ∀ x, g.Severed root x → ∀ y, flushed.2.Within x y ↔ g.Within x y
  severed_below : ∀ x, g.Severed root x → ∀ y, g.Below x y → flushed.2.node? y = g.node? y
  /-- The root stays where it is, queued or not. -/
  root_mem : ∀ parent, root ∈ flushed.2.children parent ↔ root ∈ g.children parent
  /-- Nodes outside of the tree are left alone. -/
  outside : ∀ x, ¬ g.Within root x → flushed.2.node? x = g.node? x

section

variable {flushed : Nat × SceneGraph R} {n : Node R}

/-- A node that is left, and its children. -/
theorem Cut.node?_of_reached (h : Cut (g.Doomed root) g g') (hg : g.Linked) (hx : g.Reaches root x)
    (hn : g.node? x = some n) :
    g'.node? x = some { n with children := n.children.filter fun child => !g.isQueued child } := by
  classical
  have hspared : ¬ g.Doomed root x := by
    intro hdoomed
    have hunmarked := ((reaches_iff_unmarked hg).1 hx).2
    have hunqueued := hunmarked x ((severed_iff_doomed hg).2 hdoomed).below (Within.refl g x)
    rw [hdoomed.1] at hunqueued
    cases hunqueued
  rw [h.node?_eq, hn, Option.map_some, if_neg hspared, filter_doomed_of_reaches hx hn]

/-- In a tree that is cut off no child is cut. -/
theorem Doomed.not_doomed_child (hg : g.Linked) (hx : g.Doomed root x) (hy : g.Within x y) {child : NodeId}
    (hchild : child ∈ g.children y) : ¬ g.Doomed root child := by
  intro hdoomed
  have hsame := hx.eq_of_within hg hdoomed (hy.child hchild)
  subst hsame
  exact hg.not_within_parent hchild hy

/-- The nodes of a tree that is cut off, but for its root. -/
theorem Cut.node?_of_doomed_below (h : Cut (g.Doomed root) g g') (hg : g.Linked) (hx : g.Doomed root x)
    (hy : g.Below x y) : g'.node? y = g.node? y := by
  have hroot : x.index < g.size := by
    rcases hx with ⟨-, parent, -, hmem⟩
    exact (hg.index_lt_of_mem_children hmem).2
  rcases exists_node?_iff.2 (hg.index_lt_of_within hy.1 hroot) with ⟨n, hn⟩
  rw [hn]
  refine h.node?_of_spared hn (fun hdoomed => hy.2 (hx.eq_of_within hg hdoomed hy.1)) ?_
  intro child hchild
  exact hx.not_doomed_child hg hy.1 (by rwa [children_of_node? hn])

/-- The root of a tree that is cut off. -/
theorem Cut.node?_of_doomed (h : Cut (g.Doomed root) g g') (hg : g.Linked) (hx : g.Doomed root x)
    (hn : g.node? x = some n) : g'.node? x = some { n with parent := none } := by
  classical
  have hfilter : n.children.filter (fun child => decide (¬ g.Doomed root child)) = n.children := by
    refine List.filter_eq_self.2 fun child hchild => ?_
    have hmem : child ∈ g.children x := by rwa [children_of_node? hn]
    simp [hx.not_doomed_child hg (Within.refl g x) hmem]
  rw [h.node?_eq, hn, Option.map_some, if_pos hx, hfilter]

theorem Cut.within_iff_of_doomed (h : Cut (g.Doomed root) g g') (hg : g.Linked) (hx : g.Doomed root x) :
    g'.Within x y ↔ g.Within x y := by
  refine ⟨h.within, fun hy => ?_⟩
  refine hy.of_same_children fun z hz child hchild => (h.children_eq z child).2 ⟨hchild, ?_⟩
  exact hx.not_doomed_child hg hz hchild

/-- A node outside of the tree has no child that is cut, as its children lie outside as well or are the root. -/
theorem Cut.node?_of_outside (h : Cut (g.Doomed root) g g') (hg : g.Linked) (hx : ¬ g.Within root x) :
    g'.node? x = g.node? x := by
  cases hn : g.node? x with
  | none => rw [h.node?_eq, hn, Option.map_none]
  | some n =>
      refine h.node?_of_spared hn (fun hdoomed => hx hdoomed.within) ?_
      rintro child hchild ⟨-, parent, hreaches, hmem⟩
      rw [hg.parent_unique hmem (by rwa [children_of_node? hn])] at hreaches
      exact hx hreaches.within

theorem Counted.felled (h : Counted (g.Doomed root) g flushed) (hg : g.Linked) : Felled root g flushed where
  below_iff x := by
    unfold Below
    rw [h.cut.within_iff_reaches, reaches_iff_unmarked hg]
    constructor
    · rintro ⟨⟨hwithin, hunmarked⟩, hne⟩
      exact ⟨⟨hwithin, hne⟩, hunmarked⟩
    · rintro ⟨⟨hwithin, hne⟩, hunmarked⟩
      exact ⟨⟨hwithin, hunmarked⟩, hne⟩
  left x n hx hn := h.cut.node?_of_reached hg (h.cut.within_iff_reaches.1 hx) hn
  count := by
    simp only [severed_iff_doomed hg]
    exact h.count
  severed x n hx hn := h.cut.node?_of_doomed hg ((severed_iff_doomed hg).1 hx) hn
  severed_within x hx y := h.cut.within_iff_of_doomed hg ((severed_iff_doomed hg).1 hx)
  severed_below x hx y hy := h.cut.node?_of_doomed_below hg ((severed_iff_doomed hg).1 hx) hy
  root_mem parent := by
    rw [h.cut.children_eq]
    refine ⟨fun hmem => hmem.1, fun hmem => ⟨hmem, fun hdoomed => ?_⟩⟩
    exact ((severed_iff_doomed hg).2 hdoomed).below.2 rfl
  outside x hx := h.cut.node?_of_outside hg hx

end

/-- After a flush there is nothing left to be taken out. -/
theorem flush_flush (hg : g.Linked) (hroot : root.index < g.size) :
    (g.flush root).2.flush root = (0, (g.flush root).2) := by
  have hcut := flush_spec hg hroot
  have hnone : ∀ x, ¬ (g.flush root).2.Doomed root x := by
    intro x hx
    have hdoomed := (hcut.doomed_iff fun y hy => hy.1).1 hx
    exact hdoomed.2 hdoomed.1
  have hagain := counted_flush (hcut.linked hg) (hcut.size_eq ▸ hroot)
  have hgraph := hagain.cut.eq_self hnone
  have hcount := hagain.count
  rw [Set.eq_empty_of_forall_notMem (s := {x | (g.flush root).2.Doomed root x}) hnone, Set.encard_empty] at hcount
  exact Prod.ext (Nat.cast_eq_zero.1 hcount.symm) hgraph

/-- A flush of a tree leaves exactly the nodes without a queued node on their path below the root, where they were; it
cuts off the other nodes as whole trees and returns their number.  A second flush does nothing. -/
theorem flush_fells (hg : g.Linked) (hroot : root.index < g.size) :
    Felled root g (g.flush root) ∧ (g.flush root).2.flush root = (0, (g.flush root).2) :=
  ⟨(counted_flush hg hroot).felled hg, flush_flush hg hroot⟩

/-! ## An orchard -/

/-- An orchard with two trees side by side, of which one has a branch, and a hedge with a nest on a twig. -/
def orchardBranch : Branch Nat :=
  let plot (name : String) (children : List (Branch Nat)) : Branch Nat :=
    .node (.str name) .identity .plain children
  plot "Orchard" [plot "Apple" [plot "Branch" []], plot "Pear" [],
    plot "Hedge" [plot "Twig" [plot "Nest" []], plot "Leaf" []]]

/-- The orchard, in which the root, both trees, the branch and the twig are queued. -/
def orchard : SceneGraph Nat :=
  [⟨0⟩, ⟨1⟩, ⟨2⟩, ⟨3⟩, ⟨5⟩].foldl queueFree (Stage.plant orchardBranch {}).2.graph

theorem linked_orchard : orchard.Linked :=
  (relabelled_queueFree _ _).linked (Stage.plant_spec orchardBranch Linked.empty).linked

/-- Both trees and the twig are cut off, the apple tree together with its queued branch; the hedge keeps its leaf, and
the orchard stays although it is queued. -/
theorem flush_fells_orchard :
    orchard.Linked ∧ Felled ⟨0⟩ orchard (orchard.flush ⟨0⟩) ∧ (orchard.flush ⟨0⟩).1 = 3 ∧
      (orchard.flush ⟨0⟩).2.children ⟨0⟩ = [⟨4⟩] ∧ (orchard.flush ⟨0⟩).2.children ⟨4⟩ = [⟨7⟩] ∧
      (orchard.flush ⟨0⟩).2.children ⟨1⟩ = [⟨2⟩] ∧
      (orchard.flush ⟨0⟩).2.flush ⟨0⟩ = (0, (orchard.flush ⟨0⟩).2) := by
  have hroot : (⟨0⟩ : NodeId).index < orchard.size := by decide +kernel
  have hflush := flush_fells linked_orchard hroot
  exact ⟨linked_orchard, hflush.1, by decide +kernel, by decide +kernel, by decide +kernel, by decide +kernel, hflush.2⟩

end LevelPrep.SceneGraph
