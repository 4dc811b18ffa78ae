import LevelPrep.Proofs.Mesh.Numbering
import LevelPrep.Proofs.Mesh.Sharing

/-!
# The corners of a mesh

The corners of a mesh whose faces refer to its vertices are three rows for each face, surface by surface and face by
face in order, and each row is the vertex that the index names (`LiveMesh.exists_corners`).
-/

namespace LevelPrep

/-! ## Named vertices -/

/-- The index of each of the three corners. -/
def Face.index (face : Face) : Fin 3 → Int
  | 0 => face.a
  | 1 => face.b
  | 2 => face.c

/-- The index names the vertex: it is its number, or its number counted back from the end. -/
def Geometry.Names (g : Geometry) (index : Int) (p : Point) : Prop :=
  ∃ n : Nat, g.vertices[n]? = some p ∧ (index = n ∨ index = n - (g.vertices.length : Int))

/-- An index names one vertex. -/
theorem Geometry.Names.unique {g : Geometry} {index : Int} {p q : Point} (h : g.Names index p)
    (h' : g.Names index q) : p = q := by
  rcases h with ⟨n, hn, hindex⟩
  rcases h' with ⟨k, hk, hindex'⟩
  have hlt := (List.getElem?_eq_some_iff.1 hn).1
  have hlt' := (List.getElem?_eq_some_iff.1 hk).1
  have hsame : n = k := by omega
  rw [hsame, hk] at hn
  exact (Option.some.inj hn).symm

theorem place?_eq_some_iff {size : Nat} {index : Int} {n : Nat} :
    place? size index = some n ↔ n < size ∧ (index = n ∨ index = n - (size : Int)) := by
  unfold place?
  split_ifs <;> simp <;> omega

/-- An index that is in range names a vertex, and that is the one which is found. -/
theorem Geometry.exists_vertex {g : Geometry} {index : Int} (h : (place? g.vertices.length index).isSome = true) :
    ∃ p, g.vertex index = .ok p ∧ g.Names index p := by
  rcases Option.isSome_iff_exists.1 h with ⟨n, hn⟩
  rcases place?_eq_some_iff.1 hn with ⟨hlt, hindex⟩
  refine ⟨g.vertices[n], ?_, n, List.getElem?_eq_getElem hlt, hindex⟩
  simp [vertex, itemAt, hn, hlt, Except.mapError]

/-! ## Rows for faces -/

/-- Three rows for each face, in order: the vertices that its indices name. -/
structure Draws (faces : List (Geometry × Face)) (rows : List Point) : Prop where
  length_eq : rows.length = 3 * faces.length
  names : ∀ (k : Nat) (g : Geometry) (face : Face), faces[k]? = some (g, face) → ∀ j : Fin 3,
    ∃ p, rows[3 * k + j]? = some p ∧ g.Names (face.index j) p

namespace Draws

theorem nil : Draws [] [] where
  length_eq := rfl
  names := by simp

theorem single {g : Geometry} {face : Face} {a b c : Point} (ha : g.Names face.a a) (hb : g.Names face.b b)
    (hc : g.Names face.c c) : Draws [(g, face)] [a, b, c] where
  length_eq := rfl
  names := by
    intro k g' face' hface j
    obtain ⟨rfl, hsame⟩ : k = 0 ∧ (g, face) = (g', face') := by simpa [List.getElem?_singleton] using hface
    cases hsame
    match j with
    | 0 => exact ⟨a, rfl, ha⟩
    | 1 => exact ⟨b, rfl, hb⟩
    | 2 => exact ⟨c, rfl, hc⟩

theorem append {faces faces' : List (Geometry × Face)} {rows rows' : List Point} (h : Draws faces rows)
    (h' : Draws faces' rows') : Draws (faces ++ faces') (rows ++ rows') where
  length_eq := by
    have hlength := h.length_eq
    have hlength' := h'.length_eq
    rw [List.length_append, List.length_append]
    omega
  names := by
    intro k g face hface j
    have hlength := h.length_eq
    have hj := j.isLt
    -- a face is in the first list or in the second, and so is its row
    by_cases hk : k < faces.length
    · rw [List.getElem?_append_left hk] at hface
      rw [List.getElem?_append_left (by omega)]
      exact h.names k g face hface j
    · rw [List.getElem?_append_right (by omega)] at hface
      rw [List.getElem?_append_right (by omega)]
      have hplace : 3 * k + j - rows.length = 3 * (k - faces.length) + j := by omega
      rw [hplace]
      exact h'.names (k - faces.length) g face hface j

/-- Rows part by part are rows for the whole. -/
theorem flatten {α : Type} {faces : α → List (Geometry × Face)} {parts : List α} {rows : List (List Point)}
    (h : List.Forall₂ (fun part rows => Draws (faces part) rows) parts rows) :
    Draws (parts.flatMap faces) rows.flatten := by
  induction h with
  | nil => exact nil
  | cons hhead _ ih =>
      rw [List.flatMap_cons, List.flatten_cons]
      exact hhead.append ih

end Draws

/-! ## Meshes -/

/-- The faces of geometry, each with what it refers to. -/
def Geometry.facesInOrder (g : Geometry) : List (Geometry × Face) :=
  g.faces.map fun face => (g, face)

/-- The faces of a mesh, surface by surface. -/
def LiveMesh.facesInOrder (mesh : LiveMesh) (r : Resources) : List (Geometry × Face) :=
  mesh.surfaces.flatMap fun s => (r.geometry s.geometry).facesInOrder

/-- The rows for one face. -/
def Geometry.rows (g : Geometry) (face : Face) : Except Fault (List Point) := do
  let a ← g.vertex (face.index 0)
  let b ← g.vertex (face.index 1)
  let c ← g.vertex (face.index 2)
  return [a, b, c]

theorem Geometry.corners_eq (g : Geometry) : g.corners = (g.faces.mapM g.rows).map List.flatten := by
  show (g.faces.mapM g.rows >>= fun rows => pure rows.flatten) = (g.faces.mapM g.rows).map List.flatten
  cases g.faces.mapM g.rows <;> rfl

theorem Geometry.Refers.exists_corners {g : Geometry} (h : g.Refers) :
    ∃ rows, g.corners = .ok rows ∧ Draws g.facesInOrder rows := by
  have hrows : ∀ face ∈ g.faces, ∃ rows, g.rows face = .ok rows ∧ Draws [(g, face)] rows := by
    intro face hface
    rcases h face hface with ⟨ha, hb, hc⟩
    rcases g.exists_vertex ha with ⟨a, hread, hname⟩
    rcases g.exists_vertex hb with ⟨b, hread', hname'⟩
    rcases g.exists_vertex hc with ⟨c, hread'', hname''⟩
    refine ⟨[a, b, c], ?_, Draws.single hname hname' hname''⟩
    rw [rows, Face.index, Face.index, Face.index, hread, hread', hread'']
    rfl
  rcases exists_mapM_ok hrows with ⟨rows, hrows, hdraws⟩
  refine ⟨rows.flatten, ?_, ?_⟩
  · rw [corners_eq, hrows]
    rfl
  · rw [facesInOrder, List.map_eq_flatMap]
    exact Draws.flatten hdraws

theorem Resources.map_geometry_meshValue (r : Resources) (mesh : LiveMesh) :
    (r.meshValue mesh).surfaces.map (·.geometry) = mesh.surfaces.map fun s => r.geometry s.geometry := by
  simp [meshValue, Mesh.map, Surface.map]

/-- The corners of a mesh are told by its value. -/
theorem LiveMesh.corners_eq (mesh : LiveMesh) (r : Resources) :
    mesh.corners r =
      (((r.meshValue mesh).surfaces.map (·.geometry)).mapM Geometry.corners).map List.flatten := by
  unfold corners
  rw [r.map_geometry_meshValue, List.mapM_map]
  show ((mesh.surfaces.mapM fun s => (r.geometry s.geometry).corners) >>= fun rows => pure rows.flatten) =
    (mesh.surfaces.mapM fun s => (r.geometry s.geometry).corners).map List.flatten
  cases mesh.surfaces.mapM fun s => (r.geometry s.geometry).corners <;> rfl

/-- A mesh whose faces refer to vertices has corners: three for each face, in order. -/
theorem LiveMesh.exists_corners {mesh : LiveMesh} {r : Resources}
    (h : ∀ s ∈ mesh.surfaces, (r.geometry s.geometry).Refers) :
    ∃ rows, mesh.corners r = .ok rows ∧ Draws (mesh.facesInOrder r) rows := by
  have hsurfaces : ∃ rows, (mesh.surfaces.mapM fun s => (r.geometry s.geometry).corners) = .ok rows ∧
      List.Forall₂ (fun s rows => Draws (r.geometry s.geometry).facesInOrder rows) mesh.surfaces rows :=
    exists_mapM_ok fun s hs => (h s hs).exists_corners
  rcases hsurfaces with ⟨rows, hrows, hdraws⟩
  exact ⟨rows.flatten, bind_eq_ok_iff.2 ⟨rows, hrows, rfl⟩, Draws.flatten hdraws⟩

end LevelPrep
