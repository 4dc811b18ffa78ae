import LevelPrep.Mesh.Cleaning
import LevelPrep.Proofs.Scene.Writable

/-!
# Vertices in other numbers

Geometry whose faces refer to its vertices, of which there are not too many, can be written
(`Geometry.Refers.writable`), and cleaning it does not change that (`Geometry.Writable.cleaned`).
-/

namespace LevelPrep

/-- The most vertices that can be numbered. -/
def maxVertices : Nat :=
  Number.twoPow 63

theorem isIndex_of_lt {n : Nat} (h : n < maxVertices) : IsIndex n := by
  unfold maxVertices at h
  constructor <;> omega

theorem isIndex_of_place? {size : Nat} {index : Int} (h : (place? size index).isSome = true)
    (hsize : size ≤ maxVertices) : IsIndex index := by
  unfold maxVertices at hsize
  unfold place? at h
  split_ifs at h
  · constructor <;> omega
  · cases h
  · constructor <;> omega
  · cases h

/-- All corners are among the vertices. -/
def Geometry.Refers (g : Geometry) : Prop :=
  ∀ face ∈ g.faces, (place? g.vertices.length face.a).isSome = true ∧
    (place? g.vertices.length face.b).isSome = true ∧ (place? g.vertices.length face.c).isSome = true

instance (g : Geometry) : Decidable g.Refers :=
  inferInstanceAs (Decidable (∀ face ∈ g.faces, (place? g.vertices.length face.a).isSome = true ∧
    (place? g.vertices.length face.b).isSome = true ∧ (place? g.vertices.length face.c).isSome = true))

theorem Geometry.Refers.writable {g : Geometry} (h : g.Refers) (hsize : g.vertices.length ≤ maxVertices) :
    g.Writable := by
  intro face hface
  rcases h face hface with ⟨ha, hb, hc⟩
  exact ⟨isIndex_of_place? ha hsize, isIndex_of_place? hb hsize, isIndex_of_place? hc hsize⟩

namespace Geometry.Writable

variable {g : Geometry}

/-- Corners that are moved stay in range, and all others stay as they are. -/
theorem renumber (h : g.Writable) {f : Nat → Nat} (hf : ∀ n, n < g.vertices.length → f n < maxVertices) :
    ∀ face ∈ g.renumber f, face.Writable := by
  intro face hface
  rcases List.mem_map.1 hface with ⟨old, hold, rfl⟩
  rcases h old hold with ⟨ha, hb, hc⟩
  constructor
  all_goals
    dsimp only
    split
    · next n hn => exact isIndex_of_lt (hf n (lt_of_place? hn))
    · assumption

theorem dropInfinite (h : g.Writable) (hsize : g.vertices.length ≤ maxVertices) : g.dropInfinite.Writable := by
  unfold Geometry.dropInfinite
  split_ifs
  · exact h
  · refine h.renumber fun n hn => ?_
    have hstays := List.length_filter_le Point.isFinite (g.vertices.take n)
    rw [List.length_take] at hstays
    split_ifs <;> omega

end Geometry.Writable

theorem Geometry.length_dropInfinite_le (g : Geometry) : g.dropInfinite.vertices.length ≤ g.vertices.length := by
  unfold dropInfinite
  split_ifs
  · exact Nat.le_refl _
  · exact List.length_filter_le _ _

/-- Of those in one place only the first is kept. -/
theorem length_firsts_le (same : Nat → Nat → Bool) (numbers kept : List Nat) :
    (numbers.foldl (fun kept n => if kept.any (same n) then kept else kept ++ [n]) kept).length ≤
      kept.length + numbers.length := by
  induction numbers generalizing kept with
  | nil => exact Nat.le_refl _
  | cons n rest ih =>
      rw [List.foldl_cons, List.length_cons]
      split_ifs
      · have hrest := ih kept
        omega
      · have hrest := ih (kept ++ [n])
        rw [List.length_append, List.length_singleton] at hrest
        omega

theorem Geometry.length_used_le (g : Geometry) : g.used.length ≤ g.vertices.length := by
  unfold used
  exact Nat.le_trans (List.length_filter_le _ _) (Nat.le_of_eq List.length_range)

namespace Geometry.Writable

variable {g : Geometry}

theorem mergeVertices (h : g.Writable) (hsize : g.vertices.length ≤ maxVertices) : g.mergeVertices.Writable := by
  refine h.renumber fun n hn => ?_
  have hkept := length_firsts_le
    (fun m n => ((g.vertices.map Point.onGrid).getD m default).same
      ((g.vertices.map Point.onGrid).getD n default)) g.used []
  have hused := g.length_used_le
  simp only [List.length_nil, Nat.zero_add] at hkept
  cases hfound : List.findIdx? _ _ with
  | none => exact Nat.lt_of_lt_of_le (Nat.zero_lt_of_lt hn) hsize
  | some place =>
      have hplace := (List.findIdx?_eq_some_iff_findIdx_eq.1 hfound).1
      exact Nat.lt_of_lt_of_le hplace (Nat.le_trans hkept (Nat.le_trans hused hsize))

/-- What can be written can be written after it was cleaned. -/
theorem cleaned (h : g.Writable) (hsize : g.vertices.length ≤ maxVertices) : g.cleaned.Writable :=
  (h.dropInfinite hsize).mergeVertices (Nat.le_trans g.length_dropInfinite_le hsize)

end Geometry.Writable

end LevelPrep
