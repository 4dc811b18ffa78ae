import LevelPrep.Json.Coercion
import LevelPrep.Proofs.Outcome

/-!
# Rows of values

A list of rows of one size is read as the values in its rows, one row after another (`values_grid_rows`).
-/

namespace LevelPrep.Json

/-- Whether a value is no list. -/
def isLeaf : Json → Bool
  | .arr _ => false
  | _ => true

section

variable {value : Json}

theorem depth_of_isLeaf (h : value.isLeaf = true) : value.depth = 0 := by
  cases value <;> first | rfl | cases h

theorem leaves_of_isLeaf (h : value.isLeaf = true) : value.leaves = [value] := by
  cases value <;> first | rfl | cases h

theorem shape_of_isLeaf (h : value.isLeaf = true) : value.shape = { sizes := [], even := true } := by
  cases value <;> first | rfl | cases h

end

/-! ## Values of one kind -/

theorem depths_le {n : Nat} {items : List Json} (h : ∀ item ∈ items, item.depth ≤ n) :
    depths items ≤ n := by
  induction items with
  | nil => exact Nat.zero_le n
  | cons item rest ih =>
      have hitem := h item List.mem_cons_self
      have hrest := ih fun other hother => h other (List.mem_cons_of_mem item hother)
      exact Nat.max_le.2 ⟨hitem, hrest⟩

theorem commonSizes_self (sizes : List Nat) : commonSizes sizes sizes = sizes := by
  induction sizes with
  | nil => rfl
  | cons n rest ih => simp [commonSizes, ih]

theorem Shape.meet_self (s : Shape) (h : s.even = true) : s.meet s = s := by
  rcases s with ⟨sizes, even⟩
  simp_all [Shape.meet, commonSizes_self]

/-- Values of one even shape have that shape in common. -/
theorem shapes?_of_same {s : Shape} (hs : s.even = true) {items : List Json}
    (h : ∀ item ∈ items, item.shape = s) : shapes? items = if items = [] then none else some s := by
  induction items with
  | nil => rfl
  | cons item rest ih =>
      have hitem := h item List.mem_cons_self
      have hrest := ih fun other hother => h other (List.mem_cons_of_mem item hother)
      rw [shapes?, hrest, hitem]
      split_ifs <;> simp_all [Shape.meet_self]

theorem even_shape_of_same (s : Shape) (hs : s.even = true) {items : List Json}
    (h : ∀ item ∈ items, item.shape = s) : (shape (.arr items)).even = true := by
  rw [shape, shapes?_of_same hs h]
  split_ifs
  · rfl
  · exact hs

theorem leavesOf_eq_flatMap (items : List Json) : leavesOf items = items.flatMap leaves := by
  induction items with
  | nil => rfl
  | cons item rest ih => rw [leavesOf, ih, List.flatMap_cons]

/-- A grid has a value for every leaf. -/
theorem length_values_grid {α : Type} {read : Json → Except Fault α} {value : Json} {grid : Grid α}
    (h : value.grid read = .ok grid) : grid.values.length = value.leaves.length := by
  unfold Json.grid at h
  split_ifs at h
  rcases bind_eq_ok_iff.1 h with ⟨values, hvalues, hlast⟩
  cases hlast
  exact (forall₂_of_mapM hvalues).length_eq.symm

/-! ## Rows -/

section

variable {α : Type} {encode : α → Json}

/-- A row of values. -/
def row (encode : α → Json) (values : List α) : Json :=
  .arr (values.map encode)

theorem depth_row (hleaf : ∀ a, (encode a).isLeaf = true) (values : List α) :
    (row encode values).depth ≤ 1 := by
  have hdepths : depths (values.map encode) ≤ 0 := by
    refine depths_le fun item hitem => ?_
    rcases List.mem_map.1 hitem with ⟨a, -, rfl⟩
    exact Nat.le_of_eq (depth_of_isLeaf (hleaf a))
  rw [row, depth]
  omega

theorem shape_row (hleaf : ∀ a, (encode a).isLeaf = true) (values : List α) :
    (row encode values).shape = { sizes := [values.length], even := true } := by
  have hshape : ∀ item ∈ values.map encode, item.shape = { sizes := [], even := true } := by
    intro item hitem
    rcases List.mem_map.1 hitem with ⟨a, -, rfl⟩
    exact shape_of_isLeaf (hleaf a)
  rw [row, shape, shapes?_of_same rfl hshape]
  cases values <;> simp

theorem leaves_row (hleaf : ∀ a, (encode a).isLeaf = true) (values : List α) :
    (row encode values).leaves = values.map encode := by
  rw [row, leaves, leavesOf_eq_flatMap, List.flatMap_map]
  induction values with
  | nil => rfl
  | cons a rest ih => rw [List.flatMap_cons, ih, leaves_of_isLeaf (hleaf a), List.map_cons]; rfl

/-- Rows of one size are read as the values in them, if every value is read as itself. -/
theorem values_grid_rows {read : Json → Except Fault α} {size : Nat} {rows : List (List α)}
    (hleaf : ∀ a, (encode a).isLeaf = true) (hread : ∀ a ∈ rows.flatten, read (encode a) = .ok a)
    (hsize : ∀ values ∈ rows, values.length = size) :
    ((Json.arr (rows.map (row encode))).grid read).map Grid.values = .ok rows.flatten := by
  have hdepth : (Json.arr (rows.map (row encode))).depth ≤ maxDepth := by
    have hdepths : depths (rows.map (row encode)) ≤ 1 := by
      refine depths_le fun item hitem => ?_
      rcases List.mem_map.1 hitem with ⟨values, -, rfl⟩
      exact depth_row hleaf values
    rw [depth]
    exact Nat.le_trans (Nat.add_le_add_right hdepths 1) (by decide)
  have heven : (Json.arr (rows.map (row encode))).shape.even = true := by
    refine even_shape_of_same { sizes := [size], even := true } rfl fun item hitem => ?_
    rcases List.mem_map.1 hitem with ⟨values, hvalues, rfl⟩
    rw [shape_row hleaf, hsize values hvalues]
  have hleaves : (Json.arr (rows.map (row encode))).leaves = rows.flatten.map encode := by
    rw [leaves, leavesOf_eq_flatMap, List.flatMap_map, List.map_flatten, List.flatMap_def]
    congr 1
    exact List.map_congr_left fun values _ => leaves_row hleaf values
  have hvalues : (rows.flatten.map encode).mapM read = .ok rows.flatten := by
    refine mapM_of_forall₂ ?_
    rw [List.forall₂_map_left_iff]
    exact List.forall₂_same.2 hread
  unfold grid
  rw [if_neg (Nat.not_lt.2 hdepth), if_pos heven, hleaves, hvalues]
  rfl

end

end LevelPrep.Json
