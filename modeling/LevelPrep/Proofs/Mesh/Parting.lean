import LevelPrep.Proofs.Mesh.Objects

/-!
# Rebuilt meshes

A mesh is rebuilt from copies of its surfaces, so it shows the same corners and has the same materials, but no surface
and no geometry in common with the mesh that it was made from.  From then on each of the two can be edited without a
change of the other (`rebuild_parts`).
-/

namespace LevelPrep

namespace MeshStore

variable {t : MeshStore} {m m' : MeshRef}

/-- Puts a copy of a surface on a mesh: its geometry is copied, its material is not. -/
def copySurface (t : MeshStore) (m : MeshRef) (s : SurfaceRef) : MeshStore :=
  let (copy, resources) := t.resources.addGeometry (t.resources.geometry (t.surface s).geometry)
  ({ t with resources } : MeshStore).addSurface m copy (t.surface s).material

/-- The store with one more mesh, which has no surfaces. -/
def newMesh (t : MeshStore) (name : Json) : MeshStore :=
  { t with meshes := t.meshes.push { name } }

/-- Makes a new mesh and copies the surfaces of another mesh to it. -/
def rebuild (t : MeshStore) (m : MeshRef) : MeshRef × MeshStore :=
  let rebuilt : MeshRef := { index := t.meshes.size }
  (rebuilt, (t.object m).surfaces.foldl (fun t s => t.copySurface rebuilt s) (t.newMesh (t.object m).name))

theorem rebuild_fst (t : MeshStore) (m : MeshRef) : (t.rebuild m).1 = { index := t.meshes.size } :=
  rfl

/-! ## Rebuilding objects -/

theorem touches_copySurface (h : m.index < t.meshes.size) (s : SurfaceRef) : Touches t (t.copySurface m s) m :=
  (Touches.of_resources (.addGeometry t.resources _)).trans (touches_addSurface h)

theorem mesh_copySurface (h : t.Has m) (s : SurfaceRef) : (t.copySurface m s).mesh m =
    (t.mesh m).addSurface (LiveMesh.copySurface (t.surface s) t.resources).1 := by
  have hhas : Has { t with
      resources := (t.resources.addGeometry (t.resources.geometry (t.surface s).geometry)).2 } m :=
    ⟨h.here, h.surfaces⟩
  exact mesh_addSurface hhas

theorem touches_copySurfaces (h : t.Has m) (refs : List SurfaceRef) :
    Touches t (refs.foldl (fun t s => t.copySurface m s) t) m := by
  induction refs generalizing t with
  | nil => exact .refl t m
  | cons s rest ih =>
      have hcopy := touches_copySurface h.here s
      exact hcopy.trans (ih (hcopy.has h))

/-- Copying surfaces of other meshes to an object copies them to its value. -/
theorem mesh_copySurfaces (h : t.Has m) {refs : List SurfaceRef}
    (hrefs : ∀ s ∈ refs, s.index < t.surfaces.size ∧ s ∉ (t.object m).surfaces) :
    let t' := refs.foldl (fun t s => t.copySurface m s) t
    let copied := (refs.map t.surface).mapM LiveMesh.copySurface t.resources
    t'.mesh m = { t.mesh m with surfaces := (t.mesh m).surfaces ++ copied.1 } ∧ t'.resources = copied.2 := by
  induction refs generalizing t with
  | nil =>
      refine ⟨?_, rfl⟩
      show t.mesh m = { t.mesh m with surfaces := (t.mesh m).surfaces ++ [] }
      rw [List.append_nil]
  | cons s rest ih =>
      have hcopy := touches_copySurface h.here s
      -- what is still to be copied is not among the copies
      have hrefs' : ∀ x ∈ rest, x.index < (t.copySurface m s).surfaces.size ∧
          x ∉ ((t.copySurface m s).object m).surfaces := by
        intro x hx
        rcases hrefs x (List.mem_cons_of_mem s hx) with ⟨hlt, hnot⟩
        refine ⟨Nat.lt_of_lt_of_le hlt hcopy.size_le, fun hin => ?_⟩
        rcases hcopy.grown x hin with hold | hnew
        · exact hnot hold
        · exact Nat.not_le_of_lt hlt hnew.1
      have hsurfaces : rest.map (t.copySurface m s).surface = rest.map t.surface := by
        refine List.map_congr_left fun x hx => ?_
        rcases hrefs x (List.mem_cons_of_mem s hx) with ⟨hlt, hnot⟩
        exact hcopy.surface_eq x hlt hnot
      obtain ⟨hmesh, hresources⟩ := ih (hcopy.has h) hrefs'
      rw [hsurfaces] at hmesh hresources
      dsimp only
      rw [List.map_cons, List.mapM_cons, List.foldl_cons]
      refine ⟨?_, hresources⟩
      rw [hmesh, mesh_copySurface h]
      dsimp only [LiveMesh.addSurface]
      rw [List.append_assoc]
      rfl

theorem object_newMesh_self (name : Json) : (t.newMesh name).object { index := t.meshes.size } = { name } := by
  simp [newMesh, object]

theorem object_newMesh_of_lt (name : Json) (h : m.index < t.meshes.size) :
    (t.newMesh name).object m = t.object m := by
  simp [newMesh, object, Array.getD_eq_getD_getElem?, Array.getElem?_push, Nat.ne_of_lt h]

theorem owns_newMesh (name : Json) : (t.newMesh name).Owns { index := t.meshes.size } where
  here := by simp [newMesh]
  surfaces := by simp [object_newMesh_self]
  nodup := by simp [object_newMesh_self]

theorem Owns.copySurface (h : t.Owns m) (s : SurfaceRef) : (t.copySurface m s).Owns m := by
  have howns : Owns { t with
      resources := (t.resources.addGeometry (t.resources.geometry (t.surface s).geometry)).2 } m :=
    ⟨⟨h.here, h.surfaces⟩, h.nodup⟩
  exact howns.addSurface

/-- The surfaces of a rebuilt mesh are different objects. -/
theorem owns_rebuild (t : MeshStore) (m : MeshRef) : (t.rebuild m).2.Owns (t.rebuild m).1 := by
  suffices hcopies : ∀ {t : MeshStore} {m : MeshRef} (refs : List SurfaceRef), t.Owns m →
      (refs.foldl (fun t s => t.copySurface m s) t).Owns m from
    hcopies _ (owns_newMesh _)
  intro t m refs howns
  induction refs generalizing t with
  | nil => exact howns
  | cons s rest ih => exact ih (howns.copySurface s)

/-- Rebuilding touches nothing but the mesh that is made. -/
theorem touches_rebuild (t : MeshStore) (m : MeshRef) :
    Touches (t.newMesh (t.object m).name) (t.rebuild m).2 (t.rebuild m).1 :=
  touches_copySurfaces (owns_newMesh _).toHas _

/-- An object is rebuilt as its value is. -/
theorem mesh_rebuild (h : t.Has m) :
    ((t.rebuild m).2.mesh (t.rebuild m).1, (t.rebuild m).2.resources) = (t.mesh m).rebuild t.resources := by
  have hrefs : ∀ s ∈ (t.object m).surfaces, s.index < (t.newMesh (t.object m).name).surfaces.size ∧
      s ∉ ((t.newMesh (t.object m).name).object { index := t.meshes.size }).surfaces := by
    intro s hs
    rw [object_newMesh_self]
    exact ⟨h.surfaces s hs, List.not_mem_nil⟩
  obtain ⟨hmesh, hresources⟩ := mesh_copySurfaces (owns_newMesh _).toHas hrefs
  refine Prod.ext (hmesh.trans ?_) hresources
  rw [mesh, object_newMesh_self]
  rfl

section

variable (hm : t.Has m')
include hm

theorem ne_rebuild (m : MeshRef) : (t.rebuild m).1 ≠ m' := by
  rintro rfl
  exact Nat.lt_irrefl _ hm.here

theorem has_newMesh (name : Json) : (t.newMesh name).Has m' where
  here := by
    simp only [newMesh, Array.size_push]
    exact Nat.lt_succ_of_lt hm.here
  surfaces := by
    rw [object_newMesh_of_lt name hm.here]
    exact hm.surfaces

/-- A mesh that is there before has no surface in common with one that is rebuilt. -/
theorem apart_rebuild (m : MeshRef) : (t.rebuild m).2.Apart (t.rebuild m).1 m' where
  ne := ne_rebuild hm m
  surfaces := by
    intro s hs hin
    have htouches := touches_rebuild t m
    rw [htouches.object_eq m' (Ne.symm (ne_rebuild hm m)), object_newMesh_of_lt _ hm.here] at hin
    -- the rebuilt mesh has no surface at first, so all of its surfaces were made later than those of the other
    rcases htouches.grown s hs with hold | hnew
    · rw [rebuild_fst, object_newMesh_self] at hold
      cases hold
    · exact Nat.not_le_of_lt (hm.surfaces s hin) hnew.1

theorem has_of_rebuild (m : MeshRef) : (t.rebuild m).2.Has m' :=
  (touches_rebuild t m).has_of_ne (Ne.symm (ne_rebuild hm m)) (has_newMesh hm _)

/-- A mesh that is there stays as it is when another one is rebuilt. -/
theorem mesh_of_rebuild (m : MeshRef) : (t.rebuild m).2.mesh m' = t.mesh m' := by
  have hapart : (t.newMesh (t.object m).name).Apart (t.rebuild m).1 m' := by
    refine ⟨ne_rebuild hm m, fun s hs => ?_⟩
    rw [rebuild_fst, object_newMesh_self] at hs
    cases hs
  rw [(touches_rebuild t m).mesh_eq hapart (has_newMesh hm _), mesh, mesh, object_newMesh_of_lt _ hm.here]
  rfl

end

/-! ## Two meshes from then on -/

/-- A mesh is as it was: its surfaces with their materials and coordinates, what they refer to, and its corners. -/
structure Stays (t t' : MeshStore) (m : MeshRef) : Prop where
  mesh : t'.mesh m = t.mesh m
  value : t'.resources.meshValue (t.mesh m) = t.resources.meshValue (t.mesh m)
  corners : (t.mesh m).corners t'.resources = (t.mesh m).corners t.resources

/-- Resources that are added change nothing about a mesh. -/
theorem stays_of_extends {t t' : MeshStore} (hmesh : t'.mesh m = t.mesh m) (h : t.resources.Extends t'.resources)
    (hknown : Mesh.Known t.resources (t.mesh m)) : Stays t t' m := by
  have hvalue := (h.mesh hknown).2
  refine ⟨hmesh, hvalue, ?_⟩
  rw [LiveMesh.corners_eq, LiveMesh.corners_eq, hvalue]

/-- A mesh stays as it is while another one without a common surface is edited. -/
theorem stays_of_run (hm : t.Has m) (hm' : t.Has m') (hapart : t.Apart m m')
    (hknown : Mesh.Known t.resources (t.mesh m')) (edits : List MeshEdit) : Stays t (t.run m edits) m' := by
  have htouches := touches_run hm edits
  exact stays_of_extends (htouches.mesh_eq hapart hm') htouches.resources hknown

/-- What a mesh and the one rebuilt from it have in common, and what they have not. -/
structure Rebuilt (t : MeshStore) (m m' : MeshRef) (t' : MeshStore) : Prop where
  value : (t'.mesh m', t'.resources) = (t.mesh m).rebuild t.resources
  name : (t'.mesh m').name = (t.mesh m).name
  count : (t'.mesh m').surfaces.length = (t.mesh m).surfaces.length
  copies : List.Forall₂ (Surface.Renewed t.resources t'.resources id none) (t.mesh m).surfaces (t'.mesh m').surfaces
  materials : (t'.mesh m').surfaces.map (·.material) = (t.mesh m).surfaces.map (·.material)
  bare : ∀ s ∈ (t'.mesh m').surfaces, s.lightmapUv = none
  sizeHint : (t'.mesh m').sizeHint = none
  corners : (t'.mesh m').corners t'.resources = (t.mesh m).corners t.resources
  original : Stays t t' m

theorem rebuilt_rebuild (hm : t.Has m) (hknown : Mesh.Known t.resources (t.mesh m)) :
    Rebuilt t m (t.rebuild m).1 (t.rebuild m).2 := by
  have hvalue := mesh_rebuild hm
  have hmesh : (t.rebuild m).2.mesh (t.rebuild m).1 = ((t.mesh m).rebuild t.resources).1 := congrArg Prod.fst hvalue
  have hresources : (t.rebuild m).2.resources = ((t.mesh m).rebuild t.resources).2 := congrArg Prod.snd hvalue
  obtain ⟨hext, hcopies⟩ := Resources.renewed_rebuild hknown
  rw [← hmesh, ← hresources] at hcopies
  rw [← hresources] at hext
  have hgeometry : ((t.rebuild m).2.mesh (t.rebuild m).1).surfaces.map
      (fun s => (t.rebuild m).2.resources.geometry s.geometry) =
      (t.mesh m).surfaces.map fun s => t.resources.geometry s.geometry :=
    eq_map_of_forall₂ (List.forall₂_map_right_iff.2 (hcopies.imp fun _ _ h => h.geometry))
  constructor
  case value => exact hvalue
  case name =>
    rw [hmesh]
    rfl
  case count => exact hcopies.length_eq.symm
  case copies => exact hcopies
  case materials => exact eq_map_of_forall₂ (List.forall₂_map_right_iff.2 (hcopies.imp fun _ _ h => h.material))
  case bare =>
    intro s hs
    rcases exists_of_mem_results hcopies hs with ⟨old, -, h⟩
    exact h.lightmapUv
  case sizeHint =>
    rw [hmesh]
    rfl
  case corners =>
    -- corners are told by the geometry, and the copies are the same
    rw [LiveMesh.corners_eq, LiveMesh.corners_eq, Resources.map_geometry_meshValue, Resources.map_geometry_meshValue,
      hgeometry]
  case original => exact stays_of_extends (mesh_of_rebuild hm m) hext hknown

/-- A mesh whose faces refer to its vertices has three corners for each face.  Rebuilding it gives a mesh with the same
corners and the same materials, without lightmap coordinates, and leaves it as it is; whatever is done to one of the
two from then on, the other one stays as it is, and the one that is edited becomes what its value becomes. -/
theorem rebuild_parts (hm : t.Has m) (hknown : Mesh.Known t.resources (t.mesh m))
    (hrefers : ∀ s ∈ (t.mesh m).surfaces, (t.resources.geometry s.geometry).Refers) :
    (∃ rows, (t.mesh m).corners t.resources = .ok rows ∧ Draws ((t.mesh m).facesInOrder t.resources) rows) ∧
      Rebuilt t m (t.rebuild m).1 (t.rebuild m).2 ∧
      ∀ edits : List MeshEdit,
        Stays (t.rebuild m).2 ((t.rebuild m).2.run m edits) (t.rebuild m).1 ∧
          Stays (t.rebuild m).2 ((t.rebuild m).2.run (t.rebuild m).1 edits) m ∧
          (((t.rebuild m).2.run (t.rebuild m).1 edits).mesh (t.rebuild m).1,
            ((t.rebuild m).2.run (t.rebuild m).1 edits).resources) =
            edits.foldl MeshEdit.onValue ((t.mesh m).rebuild t.resources) := by
  have hrebuilt := rebuilt_rebuild hm hknown
  obtain ⟨hext, hknown', -⟩ := Resources.rebuild_spec hknown
  have hmesh : (t.rebuild m).2.mesh (t.rebuild m).1 = ((t.mesh m).rebuild t.resources).1 :=
    congrArg Prod.fst hrebuilt.value
  have hresources : (t.rebuild m).2.resources = ((t.mesh m).rebuild t.resources).2 :=
    congrArg Prod.snd hrebuilt.value
  have howns := owns_rebuild t m
  have happart := apart_rebuild hm m
  have hm' := has_of_rebuild hm m
  refine ⟨LiveMesh.exists_corners hrefers, hrebuilt, fun edits => ⟨?_, ?_, ?_⟩⟩
  · refine stays_of_run hm' howns.toHas happart.symm ?_ edits
    rw [hmesh, hresources]
    exact hknown'
  · refine stays_of_run howns.toHas hm' happart ?_ edits
    rw [hrebuilt.original.mesh, hresources]
    exact (hext.mesh hknown).1
  · rw [mesh_run howns, hrebuilt.value]

/-- A roof of three surfaces: tiles that were unwrapped, an empty one, and the same tiles once more.  The second face
of the tiles counts some of its vertices from the end. -/
def roofStore : MeshStore where
  resources :=
    { geometries := #[{ vertices := [⟨0, 0, 0⟩, ⟨1, 0, 0⟩, ⟨0, 1, 0⟩], faces := [⟨0, 1, 2⟩, ⟨-1, 0, -2⟩] }, {}]
      materials := #[{ name := .str "Slate" }, { name := .str "Straw" }] }
  surfaces := #[
    { geometry := ⟨0⟩, material := some ⟨0⟩, lightmapUv := some [(0.1, 0.1), (0.2, 0.1), (0.1, 0.2)] },
    { geometry := ⟨1⟩ }, { geometry := ⟨0⟩, material := some ⟨1⟩ }]
  meshes := #[{ name := .str "Roof", surfaces := [⟨0⟩, ⟨1⟩, ⟨2⟩], sizeHint := some [.int 8, .int 8] }]

theorem rebuild_parts_roof :
    roofStore.Has ⟨0⟩ ∧ Mesh.Known roofStore.resources (roofStore.mesh ⟨0⟩) ∧
      (∃ rows, (roofStore.mesh ⟨0⟩).corners roofStore.resources = .ok rows ∧ rows.length = 12) ∧
      Rebuilt roofStore ⟨0⟩ ⟨1⟩ (roofStore.rebuild ⟨0⟩).2 ∧
      Stays (roofStore.rebuild ⟨0⟩).2
        ((roofStore.rebuild ⟨0⟩).2.run ⟨0⟩ [.setSurfaceMaterial (-1) none, .mark, .addSurface ⟨1⟩ none]) ⟨1⟩ := by
  have hhas : roofStore.Has ⟨0⟩ := by
    constructor
    · decide
    · decide
  have hknown : Mesh.Known roofStore.resources (roofStore.mesh ⟨0⟩) := by decide
  have hrefers : ∀ s ∈ (roofStore.mesh ⟨0⟩).surfaces, (roofStore.resources.geometry s.geometry).Refers := by decide
  rcases rebuild_parts hhas hknown hrefers with ⟨⟨rows, hrows, hdraws⟩, hrebuilt, hedits⟩
  exact ⟨hhas, hknown, ⟨rows, hrows, hdraws.length_eq⟩, hrebuilt, (hedits _).1⟩

end MeshStore

end LevelPrep
