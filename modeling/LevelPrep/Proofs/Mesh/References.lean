import LevelPrep.Proofs.Mesh.Sharing

/-!
# What a payload refers to

A payload refers to the geometry and to the materials of the surfaces that it shows, and to nothing else: what is
done to these references is what is done to the payload (`map_congr`), and a payload is known or fresh if its
references are (`known_iff`, `fresh_iff`).
-/

namespace LevelPrep

namespace Payload

variable {G M G' M' G'' M'' : Type}

theorem mem_geometries_iff {payload : Payload G M} {id : G} : id ∈ payload.geometries ↔
    ∃ i mesh s, payload.meshInstance? = some i ∧ i.mesh = some mesh ∧ s ∈ mesh.surfaces ∧ s.geometry = id := by
  unfold geometries
  cases payload.meshInstance? with
  | none => simp
  | some i => cases hmesh : i.mesh <;> simp [hmesh]

theorem mem_materials_iff {payload : Payload G M} {id : M} : id ∈ payload.materials ↔
    ∃ i mesh s, payload.meshInstance? = some i ∧ i.mesh = some mesh ∧ s ∈ mesh.surfaces ∧ s.material = some id := by
  unfold materials
  cases payload.meshInstance? with
  | none => simp
  | some i => cases hmesh : i.mesh <;> simp [hmesh]

/-- Replacing references one after another is replacing them once. -/
theorem map_map (payload : Payload G M) (geometry : G → G') (material : M → M') (geometry' : G' → G'')
    (material' : M' → M'') : (payload.map geometry material).map geometry' material' =
      payload.map (fun id => geometry' (geometry id)) (fun id => material' (material id)) := by
  cases payload with
  | plain | staticBody | collisionShape => rfl
  | meshInstance i =>
      rcases i with ⟨_ | mesh, castShadow, giMode, layers, ignoreOcclusionCulling⟩
      · rfl
      · simp [map, Mesh.map, Surface.map, Function.comp_def]

/-- What is done to a payload depends on what is done to its references. -/
theorem map_congr {payload : Payload G M} {geometry geometry' : G → G'} {material material' : M → M'}
    (hgeometry : ∀ id ∈ payload.geometries, geometry id = geometry' id)
    (hmaterial : ∀ id ∈ payload.materials, material id = material' id) :
    payload.map geometry material = payload.map geometry' material' := by
  cases payload with
  | plain | staticBody | collisionShape => rfl
  | meshInstance i =>
      rcases i with ⟨_ | mesh, castShadow, giMode, layers, ignoreOcclusionCulling⟩
      · rfl
      · have hsurfaces : mesh.surfaces.map (Surface.map geometry material) =
            mesh.surfaces.map (Surface.map geometry' material') := by
          refine List.map_congr_left fun s hs => ?_
          have hmap : s.material.map material = s.material.map material' :=
            Option.map_congr fun id hid => hmaterial id (mem_materials_iff.2 ⟨_, mesh, s, rfl, rfl, hs, hid⟩)
          rw [Surface.map, Surface.map, hgeometry _ (mem_geometries_iff.2 ⟨_, mesh, s, rfl, rfl, hs, rfl⟩), hmap]
        simp [map, Mesh.map, hsurfaces]

theorem geometries_map (payload : Payload G M) (geometry : G → G') (material : M → M') :
    (payload.map geometry material).geometries = payload.geometries.map geometry := by
  cases payload with
  | plain | staticBody | collisionShape => rfl
  | meshInstance i =>
      rcases i with ⟨_ | mesh, castShadow, giMode, layers, ignoreOcclusionCulling⟩
      · rfl
      · simp [map, geometries, meshInstance?, Mesh.map, Surface.map, Function.comp_def]

theorem materials_map (payload : Payload G M) (geometry : G → G') (material : M → M') :
    (payload.map geometry material).materials = payload.materials.map material := by
  cases payload with
  | plain | staticBody | collisionShape => rfl
  | meshInstance i =>
      rcases i with ⟨_ | mesh, castShadow, giMode, layers, ignoreOcclusionCulling⟩
      · rfl
      · simp [map, materials, meshInstance?, Mesh.map, Surface.map, List.filterMap_map, List.map_filterMap,
          Function.comp_def]

/-- What holds of the references of all surfaces holds of those of the payload. -/
theorem forall_surfaces_iff {payload : Payload G M} {P : G → Prop} {Q : M → Prop} :
    (∀ i mesh, payload.meshInstance? = some i → i.mesh = some mesh → ∀ s ∈ mesh.surfaces,
      P s.geometry ∧ ∀ id, s.material = some id → Q id) ↔
    (∀ id ∈ payload.geometries, P id) ∧ ∀ id ∈ payload.materials, Q id := by
  simp only [mem_geometries_iff, mem_materials_iff]
  constructor
  · intro h
    refine ⟨?_, ?_⟩
    · rintro id ⟨i, mesh, s, hi, hmesh, hs, rfl⟩
      exact (h i mesh hi hmesh s hs).1
    · rintro id ⟨i, mesh, s, hi, hmesh, hs, hid⟩
      exact (h i mesh hi hmesh s hs).2 id hid
  · rintro ⟨hgeometry, hmaterial⟩ i mesh hi hmesh s hs
    exact ⟨hgeometry _ ⟨i, mesh, s, hi, hmesh, hs, rfl⟩, fun id hid => hmaterial id ⟨i, mesh, s, hi, hmesh, hs, hid⟩⟩

variable {r : Resources} {payload : Payload GeometryId MaterialId}

theorem known_iff : payload.Known r ↔
    (∀ id ∈ payload.geometries, r.HasGeometry id) ∧ ∀ id ∈ payload.materials, r.HasMaterial id := by
  rw [← forall_surfaces_iff]
  constructor
  · intro h i mesh hi hmesh s hs
    exact ⟨(h i mesh hi hmesh s hs).geometry, (h i mesh hi hmesh s hs).material⟩
  · intro h i mesh hi hmesh s hs
    exact ⟨(h i mesh hi hmesh s hs).1, (h i mesh hi hmesh s hs).2⟩

theorem fresh_iff : payload.Fresh r ↔ (∀ id ∈ payload.geometries, r.geometries.size ≤ id.index) ∧
    ∀ id ∈ payload.materials, r.materials.size ≤ id.index := by
  rw [← forall_surfaces_iff]
  constructor
  · intro h i mesh hi hmesh s hs
    exact ⟨(h i mesh hi hmesh s hs).geometry, (h i mesh hi hmesh s hs).material⟩
  · intro h i mesh hi hmesh s hs
    exact ⟨(h i mesh hi hmesh s hs).1, (h i mesh hi hmesh s hs).2⟩

end Payload

end LevelPrep
