import LevelPrep.Proofs.Mesh.Corners
import LevelPrep.Proofs.Pass.Growing

/-!
# Charts and triangles

A packer may split vertices and number them anew.  As long as every new index leads back to the old one
(`Lightmap.Chart.Splits`), the new geometry has the corners of the old one (`Lightmap.Chart.Splits.corners_eq`), so
unwrapping a mesh changes nothing about what is rendered: it gives each vertex a place in the atlas, and that is all
(`Lightmap.unwrap_keeps_triangles`).  Where the vertices were moved to for the packer is of no account.
-/

namespace LevelPrep

/-! ## Indices without sign -/

/-- All faces are made of vertices that are there, none of them counted from the end. -/
def Geometry.Numbered (g : Geometry) : Prop :=
  ∀ face ∈ g.faces, ∀ j : Fin 3, ∃ n : Nat, face.index j = n ∧ n < g.vertices.length

instance (g : Geometry) : Decidable g.Numbered :=
  decidable_of_iff (∀ face ∈ g.faces, ∀ j : Fin 3,
      face.index j = (face.index j).toNat ∧ (face.index j).toNat < g.vertices.length) (by
    constructor
    · intro h face hface j
      exact ⟨_, h face hface j⟩
    · intro h face hface j
      rcases h face hface j with ⟨n, hn, hlt⟩
      rw [hn, Int.toNat_natCast]
      exact ⟨rfl, hlt⟩)

theorem Geometry.vertex_of_getElem? {g : Geometry} {n : Nat} {p : Point} (h : g.vertices[n]? = some p) :
    g.vertex n = .ok p := by
  have hplace : place? g.vertices.length (n : Int) = some n :=
    place?_eq_some_iff.2 ⟨(List.getElem?_eq_some_iff.1 h).1, Or.inl rfl⟩
  simp [vertex, itemAt, hplace, h, Except.mapError]

theorem Geometry.Numbered.refers {g : Geometry} (h : g.Numbered) : g.Refers := by
  have hplace : ∀ face ∈ g.faces, ∀ j, (place? g.vertices.length (face.index j)).isSome = true := by
    intro face hface j
    rcases h face hface j with ⟨n, hn, hlt⟩
    rw [place?_eq_some_iff.2 ⟨hlt, Or.inl hn⟩]
    rfl
  exact fun face hface => ⟨hplace face hface 0, hplace face hface 1, hplace face hface 2⟩

namespace Lightmap

/-! ## Charts -/

/-- The chart has a place for each of its vertices and as many faces as the geometry, and every index of a face leads
back to the index that it had. -/
structure Chart.Splits (chart : Chart) (g : Geometry) : Prop where
  uv : chart.uv.length = chart.mapping.length
  faces : List.Forall₂ (fun new old : Face => ∀ j : Fin 3, ∃ n k : Nat,
    new.index j = n ∧ chart.mapping[n]? = some k ∧ old.index j = k) chart.faces g.faces

/-- A packer that gives every surface a chart which splits its vertices. -/
def Packer.SplitsAll (pack : Packer) : Prop :=
  ∀ options geometries, (∀ g ∈ geometries, g.Numbered) →
    List.Forall₂ Chart.Splits (pack options geometries).charts geometries

/-- The corners of a chart are those of the geometry that it was made for. -/
theorem Chart.Splits.corners_eq {chart : Chart} {g : Geometry} (h : chart.Splits g) (hg : g.Numbered) :
    (chart.geometry g).corners = g.corners := by
  have hrows : List.Forall₂ (fun new old => (chart.geometry g).rows new = g.rows old) chart.faces g.faces := by
    refine forall₂_imp_of_mem h.faces fun new _ old hold hback => ?_
    have hvertex : ∀ j, (chart.geometry g).vertex (new.index j) = g.vertex (old.index j) := by
      intro j
      rcases hback j with ⟨n, k, hnew, hmapping, hk⟩
      rcases hg old hold j with ⟨k', hk', hlt⟩
      obtain rfl : k = k' := by omega
      have hold' : g.vertices[k]? = some g.vertices[k] := List.getElem?_eq_getElem hlt
      have hnew' : (chart.geometry g).vertices[n]? = some g.vertices[k] := by
        simp [Chart.geometry, hmapping, hlt]
      rw [hnew, hk, Geometry.vertex_of_getElem? hnew', Geometry.vertex_of_getElem? hold']
    rw [Geometry.rows, Geometry.rows, hvertex, hvertex, hvertex]
  rw [Geometry.corners_eq, Geometry.corners_eq, ← mapM_eq_of_forall₂ hrows]
  rfl

/-! ## Unwrapping -/

/-- What unwrapping leaves as it was, and what it adds. -/
structure Unwrapped (r : Resources) (mesh : LiveMesh) (width height : Nat) (unwrapped : LiveMesh) (r' : Resources) :
    Prop where
  resources : r.Extends r'
  name : unwrapped.name = mesh.name
  count : unwrapped.surfaces.length = mesh.surfaces.length
  materials : unwrapped.surfaces.map (·.material) = mesh.surfaces.map (·.material)
  corners : ∃ rows, mesh.corners r = .ok rows ∧ unwrapped.corners r' = .ok rows
  places : ∀ s ∈ unwrapped.surfaces, ∃ uv, s.lightmapUv = some uv ∧ uv.length = (r'.geometry s.geometry).vertices.length
  sizeHint : unwrapped.sizeHint = some [.int width, .int height]

/-- The atlas that a packer is asked for. -/
def atlasFor (pack : Packer) (options : PackOptions) (mesh : LiveMesh) (transform : Matrix Float) (size : Float)
    (r : Resources) : Atlas :=
  pack { options with texelsPerUnit := 1.0 / size } (mesh.surfaces.map fun s =>
    { r.geometry s.geometry with vertices := (r.geometry s.geometry).vertices.map (movePoint transform) })

/-- The charts that were made for moved vertices fit the vertices where they are. -/
theorem splits_atlasFor {pack : Packer} (hpack : pack.SplitsAll) (options : PackOptions) {mesh : LiveMesh}
    {r : Resources} (hnumbered : ∀ s ∈ mesh.surfaces, (r.geometry s.geometry).Numbered) (transform : Matrix Float)
    (size : Float) :
    List.Forall₂ (fun s chart => Chart.Splits chart (r.geometry s.geometry)) mesh.surfaces
      (atlasFor pack options mesh transform size r).charts := by
  have hmoved : ∀ g ∈ mesh.surfaces.map (fun s => { r.geometry s.geometry with
      vertices := (r.geometry s.geometry).vertices.map (movePoint transform) }), g.Numbered := by
    intro g hg
    rcases List.mem_map.1 hg with ⟨s, hs, rfl⟩
    intro face hface j
    rcases hnumbered s hs face hface j with ⟨n, hn, hlt⟩
    exact ⟨n, hn, by simpa using hlt⟩
  have hcharts := hpack { options with texelsPerUnit := 1.0 / size } _ hmoved
  exact (List.forall₂_map_right_iff.1 hcharts).flip.imp fun s chart h => ⟨h.uv, h.faces⟩

/-- A mesh whose surfaces are given charts that split their vertices. -/
theorem unwrapped_applyAtlas {mesh : LiveMesh} {r : Resources} (hknown : Mesh.Known r mesh)
    (hnumbered : ∀ s ∈ mesh.surfaces, (r.geometry s.geometry).Numbered) {atlas : Atlas}
    (hsplits : List.Forall₂ (fun s chart => Chart.Splits chart (r.geometry s.geometry)) mesh.surfaces atlas.charts) :
    Unwrapped r mesh atlas.width atlas.height (applyAtlas mesh atlas r).1 (applyAtlas mesh atlas r).2 := by
  have hrenewed := forall₂_of_zip (Q := fun s (chart : Chart) s' =>
    Surface.Renewed r (applyAtlas mesh atlas r).2 chart.geometry (some chart.uv) s s') hsplits
    (renewed_applyAtlas hknown atlas).2
  -- a chart that splits a surface draws the same corners, under other numbers
  have hcorners : List.Forall₂ (fun (s s' : Surface GeometryId MaterialId) =>
      ((applyAtlas mesh atlas r).2.geometry s'.geometry).corners = (r.geometry s.geometry).corners)
      mesh.surfaces (applyAtlas mesh atlas r).1.surfaces := by
    refine forall₂_imp_of_mem hrenewed fun s hs s' _ => ?_
    rintro ⟨chart, hchart, hnew⟩
    rw [hnew.geometry]
    exact hchart.corners_eq (hnumbered s hs)
  constructor
  case resources => exact extends_applyAtlas mesh atlas r
  case name => rfl
  case count => exact hrenewed.length_eq.symm
  case materials =>
    refine eq_map_of_forall₂ (List.forall₂_map_right_iff.2 (hrenewed.imp ?_))
    rintro s s' ⟨chart, -, hnew⟩
    exact hnew.material
  case corners =>
    rcases LiveMesh.exists_corners fun s hs => (hnumbered s hs).refers with ⟨rows, hrows, -⟩
    refine ⟨rows, hrows, ?_⟩
    rw [← hrows, LiveMesh.corners, LiveMesh.corners, ← mapM_eq_of_forall₂ (hcorners.imp fun _ _ h => h.symm)]
  case places =>
    intro s' hs'
    rcases exists_of_mem_results hrenewed hs' with ⟨s, -, chart, hchart, hnew⟩
    refine ⟨chart.uv, hnew.lightmapUv, ?_⟩
    rw [hnew.geometry, hchart.uv]
    exact (List.length_map _).symm
  case sizeHint => rfl

/-- Unwrapping for a texel of positive size keeps the surfaces with their materials and all corners; it gives every
vertex a place of its own in the atlas, whose size is that of the lightmap.  A texel that is not larger than zero is
refused, and a mesh without surfaces stays as it is. -/
theorem unwrap_keeps_triangles {pack : Packer} (hpack : pack.SplitsAll) (options : PackOptions) {mesh : LiveMesh}
    {r : Resources} (hknown : Mesh.Known r mesh)
    (hnumbered : ∀ s ∈ mesh.surfaces, (r.geometry s.geometry).Numbered) (transform : Matrix Float) (texel : Json) :
    (∀ size, texel.notPositive? = some false → texel.asNumber = .ok size → mesh.surfaces ≠ [] →
      ∃ unwrapped r', unwrap pack options mesh transform texel r = (.ok unwrapped, r') ∧
        Unwrapped r mesh (atlasFor pack options mesh transform size r).width
          (atlasFor pack options mesh transform size r).height unwrapped r') ∧
    (texel.notPositive? = some false → mesh.surfaces = [] →
      unwrap pack options mesh transform texel r = (.ok mesh, r)) ∧
    (texel.notPositive? = some true →
      unwrap pack options mesh transform texel r = (.error (.texelSize texel.display), r)) := by
  refine ⟨?_, ?_, ?_⟩
  · intro size hpositive hsize hsurfaces
    refine ⟨_, _, ?_, unwrapped_applyAtlas hknown hnumbered (splits_atlasFor hpack options hnumbered transform size)⟩
    have hsome : mesh.surfaces.isEmpty = false := by simpa using hsurfaces
    simp only [unwrap, checkTexel, hpositive, hsize, hsome]
    rfl
  · intro hpositive hsurfaces
    simp [unwrap, checkTexel, hpositive, hsurfaces]
  · intro hnot
    simp [unwrap, checkTexel, hnot]

/-- The packer of this library splits no vertex and leaves every index as it is. -/
theorem splitsAll_gridPacker : gridPacker.SplitsAll := by
  intro options geometries hnumbered
  show List.Forall₂ Chart.Splits (geometries.map gridChart) geometries
  rw [List.forall₂_map_left_iff, List.forall₂_same]
  intro g hg
  constructor
  · simp [gridChart]
  · refine List.forall₂_same.2 fun face hface j => ?_
    rcases hnumbered g hg face hface j with ⟨n, hn, hlt⟩
    exact ⟨n, n, hn, List.getElem?_range hlt, hn⟩

/-- A floor of two tiles, one of them without a material. -/
def floorResources : Resources where
  geometries := #[{ vertices := [⟨0, 0, 0⟩, ⟨1, 0, 0⟩, ⟨0, 1, 0⟩], faces := [⟨0, 1, 2⟩] },
    { vertices := [⟨1, 0, 0⟩, ⟨1, 1, 0⟩, ⟨0, 1, 0⟩], faces := [⟨2, 0, 1⟩] }]
  materials := #[{ name := .str "Clay" }]

def floorMesh : LiveMesh where
  name := .str "Floor"
  surfaces := [{ geometry := ⟨0⟩, material := some ⟨0⟩ }, { geometry := ⟨1⟩ }]

theorem unwrap_keeps_triangles_floor :
    gridPacker.SplitsAll ∧
      (∃ unwrapped r', unwrap gridPacker {} floorMesh .identity (.int 2) floorResources = (.ok unwrapped, r') ∧
        Unwrapped floorResources floorMesh 2 2 unwrapped r') ∧
      unwrap gridPacker {} floorMesh .identity (.int 0) floorResources =
        (.error (.texelSize (Json.int 0).display), floorResources) := by
  have hknown : Mesh.Known floorResources floorMesh := by decide
  have hnumbered : ∀ s ∈ floorMesh.surfaces, (floorResources.geometry s.geometry).Numbered := by decide
  have hunwrap := unwrap_keeps_triangles splitsAll_gridPacker {} hknown hnumbered .identity
  refine ⟨splitsAll_gridPacker, (hunwrap (.int 2)).1 (Number.ofInt 2) rfl rfl ?_, (hunwrap (.int 0)).2.2 rfl⟩
  exact List.cons_ne_nil _ _

end Lightmap

end LevelPrep
