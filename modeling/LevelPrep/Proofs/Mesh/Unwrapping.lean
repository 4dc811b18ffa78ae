import LevelPrep.Lightmap
import LevelPrep.Proofs.Pass.Looks

/-!
# Unwrappers as functions

An unwrapper works on references and adds resources; what it makes of a mesh is told by what the mesh refers to
(`Lightmap.Computes`).  Both unwrappers of this library are of this kind: the one that packs an atlas
(`computes_unwrap`) and the one that only marks meshes (`computes_placeholder`).
-/

namespace LevelPrep.Lightmap

variable {R : Type}

/-- An unwrapper makes of a mesh what a function makes of its value.  It only adds resources, and fails
exactly if there is nothing to be made. -/
structure Computes (unwrap : LiveMesh → Matrix R → Float → Resources → Except Fault LiveMesh × Resources)
    (bake : MeshValue → Matrix R → Float → Option MeshValue) : Prop where
  made : ∀ {mesh : LiveMesh} {transform : Matrix R} {texel : Float} {r : Resources} {baked : MeshValue},
    Mesh.Known r mesh → bake (r.meshValue mesh) transform texel = some baked →
    ∃ unwrapped, (unwrap mesh transform texel r).1 = .ok unwrapped ∧
      r.Extends (unwrap mesh transform texel r).2 ∧
      Mesh.Known (unwrap mesh transform texel r).2 unwrapped ∧
      (unwrap mesh transform texel r).2.meshValue unwrapped = baked
  refused : ∀ {mesh : LiveMesh} {transform : Matrix R} {texel : Float} {r : Resources},
    Mesh.Known r mesh → bake (r.meshValue mesh) transform texel = none →
    ∃ fault, (unwrap mesh transform texel r).1 = .error fault

/-- A copy of a mesh is the mesh without lightmap coordinates. -/
theorem meshValue_rebuild {mesh : LiveMesh} {r : Resources} (hmesh : Mesh.Known r mesh) :
    (mesh.rebuild r).2.meshValue (mesh.rebuild r).1 = (r.meshValue mesh).bare := by
  rw [(Resources.rebuild_spec hmesh).2.2]
  simp [Mesh.bare, Surface.bare, Resources.meshValue, Mesh.map, Resources.surfaceValue]

/-! ## Marking meshes -/

/-- The mesh with all vertices at one place of a small lightmap. -/
def marked (mesh : MeshValue) : MeshValue where
  name := mesh.name
  surfaces := mesh.surfaces.map fun s =>
    { s with lightmapUv := some (s.geometry.vertices.map fun _ => (0.0, 0.0)) }
  sizeHint := some [.int 16, .int 16]

theorem computes_placeholder :
    Computes (R := R) (fun mesh _ _ r => (.ok (placeholder mesh r), r)) fun mesh _ _ => some (marked mesh) where
  made := by
    rintro mesh transform texel r _ hmesh ⟨⟩
    refine ⟨_, rfl, .refl r, ?_, ?_⟩
    · intro s hs
      rcases List.mem_map.1 hs with ⟨old, hold, rfl⟩
      exact ⟨(hmesh old hold).geometry, (hmesh old hold).material⟩
    · simp [placeholder, marked, Resources.meshValue, Mesh.map, Surface.map]
  refused := by
    rintro mesh transform texel r - ⟨⟩

/-! ## Packing an atlas -/

/-- The surface with the geometry and the coordinates of its chart. -/
def chartSurface (surface : Surface Geometry Material) (chart : Chart) : Surface Geometry Material where
  geometry := chart.geometry surface.geometry
  material := surface.material
  lightmapUv := some chart.uv

/-- The mesh with the charts of an atlas. -/
def withAtlas (mesh : MeshValue) (atlas : Atlas) : MeshValue :=
  { mesh with
    surfaces := (mesh.surfaces.zip atlas.charts).map fun (surface, chart) => chartSurface surface chart
    sizeHint := some [.int atlas.width, .int atlas.height] }

/-- What unwrapping makes of a mesh, for the size of a texel. -/
def packed (pack : Packer) (options : PackOptions) (mesh : MeshValue) (transform : Matrix Float)
    (texel : Json) : Option MeshValue :=
  (checkTexel texel).toOption.bind fun _ =>
    if mesh.surfaces.isEmpty then some mesh
    else texel.asNumber.toOption.map fun size =>
      withAtlas mesh (pack { options with texelsPerUnit := 1.0 / size } (mesh.surfaces.map fun s =>
        { s.geometry with vertices := s.geometry.vertices.map (movePoint transform) }))

/-- An atlas gives every surface the geometry and the coordinates of its own chart. -/
theorem renewed_applyAtlas {mesh : LiveMesh} {r : Resources} (hmesh : Mesh.Known r mesh) (atlas : Atlas) :
    r.Extends (applyAtlas mesh atlas r).2 ∧
      List.Forall₂ (fun p s' => Surface.Renewed r (applyAtlas mesh atlas r).2 (Chart.geometry p.2) (some p.2.uv) p.1 s')
        (mesh.surfaces.zip atlas.charts) (applyAtlas mesh atlas r).1.surfaces :=
  Resources.renewed_mapM (s := Prod.fst) (fun _ _ => rfl) fun p hp => hmesh p.1 (List.of_mem_zip hp).1

/-- Giving a mesh the charts of an atlas. -/
theorem applyAtlas_spec {mesh : LiveMesh} {r : Resources} (hmesh : Mesh.Known r mesh) (atlas : Atlas) :
    let given := applyAtlas mesh atlas r
    r.Extends given.2 ∧ Mesh.Known given.2 given.1 ∧
      given.2.meshValue given.1 = withAtlas (r.meshValue mesh) atlas := by
  obtain ⟨hext, hnew⟩ := renewed_applyAtlas hmesh atlas
  rcases hext.renewed_values (fun p hp => hmesh p.1 (List.of_mem_zip hp).1) hnew with ⟨hknown, hvalues⟩
  refine ⟨hext, hknown, ?_⟩
  have hzip : (mesh.surfaces.zip atlas.charts).map (fun p => chartSurface (r.surfaceValue p.1) p.2) =
      (((mesh.surfaces.map r.surfaceValue).zip atlas.charts).map fun (s, chart) => chartSurface s chart) := by
    rw [List.zip_map_left, List.map_map]
    rfl
  exact congrArg (fun surfaces => Mesh.mk mesh.name surfaces (some [.int atlas.width, .int atlas.height]))
    (hvalues.trans hzip)

theorem computes_unwrap (pack : Packer) (options : PackOptions) :
    Computes (fun mesh transform texel => unwrap pack options mesh transform (.float texel))
      fun mesh transform texel => packed pack options mesh transform (.float texel) where
  made := by
    intro mesh transform texel r baked hmesh hbaked
    have hempty : (r.meshValue mesh).surfaces.isEmpty = mesh.surfaces.isEmpty := by
      simp [Resources.meshValue, Mesh.map]
    unfold packed at hbaked
    unfold unwrap
    rcases hcheck : checkTexel (.float texel) with fault | ⟨⟨⟩⟩
    · rw [hcheck] at hbaked
      cases hbaked
    · rw [hcheck, hempty] at hbaked
      by_cases hsurfaces : mesh.surfaces.isEmpty = true
      · simp only [hsurfaces, if_true] at hbaked ⊢
        cases hbaked
        exact ⟨mesh, rfl, .refl r, hmesh, rfl⟩
      · simp only [hsurfaces] at hbaked ⊢
        -- the vertices that are moved are the same, read off the mesh or off its value
        have hmoved : (r.meshValue mesh).surfaces.map (fun s =>
            { s.geometry with vertices := s.geometry.vertices.map (movePoint transform) }) =
            mesh.surfaces.map fun s => { r.geometry s.geometry with
              vertices := (r.geometry s.geometry).vertices.map (movePoint transform) } := by
          simp [Resources.meshValue, Mesh.map, Surface.map]
        rw [hmoved] at hbaked
        cases hbaked
        exact ⟨_, rfl, applyAtlas_spec hmesh _⟩
  refused := by
    intro mesh transform texel r hmesh hbaked
    unfold packed at hbaked
    unfold unwrap
    rcases hcheck : checkTexel (.float texel) with fault | ⟨⟨⟩⟩
    · exact ⟨fault, rfl⟩
    · rw [hcheck] at hbaked
      by_cases hsurfaces : (r.meshValue mesh).surfaces.isEmpty = true
      · simp [hsurfaces, Except.toOption] at hbaked
      · simp only [hsurfaces] at hbaked
        cases hbaked

end LevelPrep.Lightmap
