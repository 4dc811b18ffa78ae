import LevelPrep.Proofs.Pass.Runs
import LevelPrep.Proofs.Pass.Walks
import Mathlib.Algebra.BigOperators.Group.List.Basic
import Mathlib.Algebra.Ring.Defs
import Mathlib.Tactic.Abel

/-!
# Where nodes stand

Transforms with entries of a semiring are a monoid, and what a climb multiplies is the product of the transforms on
the way down (`Descends.relativeTransform_eq_prod`), so ways may be put together (`Descends.trans`).  Passes move no
node that was there and give it no other name (`Reshaped.pose?_eq`), so a node keeps its transform relative to every
node above it (`Reshaped.relativeTransform_eq`).
-/

namespace LevelPrep

variable {R : Type}

/-! ## Products of transforms -/

namespace Matrix

section

variable [NonUnitalSemiring R]

/-- A row times a matrix, and then times a column, is the row times all that the matrix makes of the column. -/
theorem dot_rowMul (r : Row R) (m : Matrix R) (column : Row R) :
    (rowMul r m).dot column =
      r.dot ⟨m.r0.dot column, m.r1.dot column, m.r2.dot column, m.r3.dot column⟩ := by
  simp only [Row.dot, rowMul, transpose, add_mul, mul_add, mul_assoc]
  abel

theorem rowMul_mul (r : Row R) (m n : Matrix R) : rowMul r (m * n) = rowMul (rowMul r m) n := by
  have hcolumn : ∀ column : Row R, r.dot ⟨m.r0.dot column, m.r1.dot column, m.r2.dot column, m.r3.dot column⟩ =
      (rowMul r m).dot column := fun column => (dot_rowMul r m column).symm
  show (⟨_, _, _, _⟩ : Row R) = ⟨_, _, _, _⟩
  rw [← hcolumn, ← hcolumn, ← hcolumn, ← hcolumn]
  rfl

theorem mul_assoc (m n k : Matrix R) : m * n * k = m * (n * k) := by
  show (⟨_, _, _, _⟩ : Matrix R) = ⟨_, _, _, _⟩
  rw [rowMul_mul, rowMul_mul, rowMul_mul, rowMul_mul]
  rfl

end

variable [Semiring R]

theorem identity_mul (m : Matrix R) : identity * m = m := by
  show (⟨_, _, _, _⟩ : Matrix R) = m
  simp [rowMul, Row.dot, identity, transpose]

theorem mul_identity (m : Matrix R) : m * identity = m := by
  show (⟨_, _, _, _⟩ : Matrix R) = m
  simp [rowMul, Row.dot, identity, transpose]

/-- Transforms one after another. -/
instance : Monoid (Matrix R) where
  mul_assoc := mul_assoc
  one := identity
  one_mul := identity_mul
  mul_one := mul_identity

end Matrix

namespace SceneGraph

variable {g g' : SceneGraph R} {root x : NodeId} {path : List (Matrix R)}

/-- There is a way down to every node of a tree. -/
theorem Within.exists_descends (h : g.Within root x) (hg : g.Linked) : ∃ path, g.Descends root x path := by
  induction h with
  | refl => exact ⟨[], .root⟩
  | tail _ hchild ih =>
      rcases ih with ⟨path, hpath⟩
      rcases exists_node?_iff.2 (hg.index_lt_of_mem_children hchild).2 with ⟨n, hn⟩
      exact ⟨path ++ [n.transform], hpath.child hchild hn⟩

/-- A climb gives the product of the transforms on the way down. -/
theorem Descends.relativeTransform_eq_prod [Semiring R] (h : g.Descends root x path) (hg : g.Linked)
    (hx : x.index < g.size) : g.relativeTransform x root = .ok path.prod :=
  h.relativeTransform_eq hg hx

/-! ## Poses -/

/-- The name and the transform of a node. -/
def pose? (g : SceneGraph R) (id : NodeId) : Option (Json × Matrix R) :=
  (g.node? id).map fun n => (n.name, n.transform)

theorem pose?_of_node? {n : Node R} (h : g.node? x = some n) : g.pose? x = some (n.name, n.transform) := by
  rw [pose?, h]
  rfl

namespace Reshaped

variable [Zero R] [One R] {scene : NodeId} {roots : NodeId → Prop}

/-- Passes move no node and give it no other name. -/
theorem pose?_eq (h : Reshaped scene roots g g') (hx : x.index < g.size) : g'.pose? x = g.pose? x := by
  rcases exists_node?_iff.2 hx with ⟨n, hn⟩
  rcases h.old x n hn with ⟨change, bodies, hn', -⟩
  rw [pose?_of_node? hn, pose?_of_node? hn']

theorem pose?_kept (h : Reshaped scene roots g g') {pose : Json × Matrix R} (hpose : g.pose? x = some pose) :
    g'.pose? x = some pose := by
  rcases Option.map_eq_some_iff.1 hpose with ⟨n, hn, -⟩
  rw [h.pose?_eq (index_lt_of_node? hn), hpose]

theorem descends (h : Reshaped scene roots g g') (hx : g.Descends root x path) : g'.Descends root x path := by
  refine hx.of_kept fun y n _ hn => ?_
  rcases h.old y n hn with ⟨change, bodies, hn', -⟩
  exact ⟨_, hn', rfl, List.subset_append_left n.children bodies⟩

/-- A node keeps its transform relative to the nodes above it. -/
theorem relativeTransform_eq {R : Type} [Semiring R] {g g' : SceneGraph R} (h : Reshaped scene roots g g')
    (hg : g.Linked) (hroot : root.index < g.size) (hx : g.Within root x) :
    g'.relativeTransform x root = g.relativeTransform x root := by
  have hlt := hg.index_lt_of_within hx hroot
  rcases hx.exists_descends hg with ⟨path, hpath⟩
  rw [hpath.relativeTransform_eq_prod hg hlt,
    (h.descends hpath).relativeTransform_eq_prod h.linked (hlt.trans_le h.size_le)]

end Reshaped

end SceneGraph

end LevelPrep
