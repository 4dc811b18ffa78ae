import LevelPrep.Mesh.Resources
import LevelPrep.Scene.Node
import LevelPrep.Proofs.Outcome

/-!
# Shared resources

Resources only grow: what a reference stands for never changes (`Resources.Extends`).  Meshes are `Known` if
all their references are good, and such meshes keep their values while resources are added.

* `addPayload_spec`: what is put among the resources is what is found there;
* `rebuild_spec`: a copied mesh has the geometry and the materials of the mesh that it was made from.
-/

namespace LevelPrep

namespace Resources

/-- Everything is still there, under the same references. -/
structure Extends (r r' : Resources) : Prop where
  geometry : ∀ (i : Nat) (g : Geometry), r.geometries[i]? = some g → r'.geometries[i]? = some g
  material : ∀ (i : Nat) (m : Material), r.materials[i]? = some m → r'.materials[i]? = some m

namespace Extends

variable {r r' r'' : Resources}

theorem refl (r : Resources) : r.Extends r :=
  ⟨fun _ _ h => h, fun _ _ h => h⟩

theorem trans (h : r.Extends r') (h' : r'.Extends r'') : r.Extends r'' :=
  ⟨fun i g hg => h'.geometry i g (h.geometry i g hg), fun i m hm => h'.material i m (h.material i m hm)⟩

theorem addGeometry (r : Resources) (g : Geometry) : r.Extends (r.addGeometry g).2 where
  geometry i old h := by
    have hlt : i < r.geometries.size := (Array.getElem?_eq_some_iff.1 h).1
    simpa [Resources.addGeometry, Array.getElem?_push, Nat.ne_of_lt hlt] using h
  material _ _ h := h

theorem addMaterial (r : Resources) (m : Material) : r.Extends (r.addMaterial m).2 where
  geometry _ _ h := h
  material i old h := by
    have hlt : i < r.materials.size := (Array.getElem?_eq_some_iff.1 h).1
    simpa [Resources.addMaterial, Array.getElem?_push, Nat.ne_of_lt hlt] using h

end Extends

/-- A reference to geometry that is there. -/
def HasGeometry (r : Resources) (id : GeometryId) : Prop :=
  id.index < r.geometries.size

/-- A reference to a material that is there. -/
def HasMaterial (r : Resources) (id : MaterialId) : Prop :=
  id.index < r.materials.size

theorem Extends.hasGeometry {r r' : Resources} (h : r.Extends r') {id : GeometryId}
    (hid : r.HasGeometry id) : r'.HasGeometry id ∧ r'.geometry id = r.geometry id := by
  have hold : r.geometries[id.index]? = some r.geometries[id.index] := Array.getElem?_eq_getElem hid
  have hnew := h.geometry _ _ hold
  refine ⟨(Array.getElem?_eq_some_iff.1 hnew).1, ?_⟩
  simp [Resources.geometry, Array.getD_eq_getD_getElem?, hold, hnew]

theorem Extends.hasMaterial {r r' : Resources} (h : r.Extends r') {id : MaterialId}
    (hid : r.HasMaterial id) : r'.HasMaterial id ∧ r'.material id = r.material id := by
  have hold : r.materials[id.index]? = some r.materials[id.index] := Array.getElem?_eq_getElem hid
  have hnew := h.material _ _ hold
  refine ⟨(Array.getElem?_eq_some_iff.1 hnew).1, ?_⟩
  simp [Resources.material, Array.getD_eq_getD_getElem?, hold, hnew]

/-- There is no less geometry than before. -/
theorem Extends.size_le {r r' : Resources} (h : r.Extends r') : r.geometries.size ≤ r'.geometries.size := by
  by_contra hless
  have hlast : r.HasGeometry { index := r'.geometries.size } := Nat.lt_of_not_le hless
  exact Nat.lt_irrefl _ (h.hasGeometry hlast).1

/-- There are no fewer materials than before. -/
theorem Extends.materials_size_le {r r' : Resources} (h : r.Extends r') : r.materials.size ≤ r'.materials.size := by
  by_contra hless
  have hlast : r.HasMaterial { index := r'.materials.size } := Nat.lt_of_not_le hless
  exact Nat.lt_irrefl _ (h.hasMaterial hlast).1

theorem hasGeometry_addGeometry (r : Resources) (g : Geometry) :
    (r.addGeometry g).2.HasGeometry (r.addGeometry g).1 := by
  simp [HasGeometry, addGeometry]

theorem hasMaterial_addMaterial (r : Resources) (m : Material) :
    (r.addMaterial m).2.HasMaterial (r.addMaterial m).1 := by
  simp [HasMaterial, addMaterial]

/-- A surface with everything that it refers to. -/
def surfaceValue (r : Resources) (s : Surface GeometryId MaterialId) : Surface Geometry Material :=
  s.map r.geometry r.material

end Resources

/-- All references of the surface are good. -/
structure Surface.Known (r : Resources) (s : Surface GeometryId MaterialId) : Prop where
  geometry : r.HasGeometry s.geometry
  material : ∀ id, s.material = some id → r.HasMaterial id

/-- All references of the mesh are good. -/
def Mesh.Known (r : Resources) (mesh : LiveMesh) : Prop :=
  ∀ s ∈ mesh.surfaces, Surface.Known r s

/-- The surface refers to nothing that is there. -/
structure Surface.Fresh (r : Resources) (s : Surface GeometryId MaterialId) : Prop where
  geometry : r.geometries.size ≤ s.geometry.index
  material : ∀ id, s.material = some id → r.materials.size ≤ id.index

instance (r : Resources) (id : GeometryId) : Decidable (r.HasGeometry id) :=
  inferInstanceAs (Decidable (_ < _))

instance (r : Resources) (id : MaterialId) : Decidable (r.HasMaterial id) :=
  inferInstanceAs (Decidable (_ < _))

instance (r : Resources) (s : Surface GeometryId MaterialId) : Decidable (Surface.Known r s) :=
  decidable_of_iff (r.HasGeometry s.geometry ∧ ∀ id ∈ s.material, r.HasMaterial id)
    ⟨fun h => ⟨h.1, h.2⟩, fun h => ⟨h.geometry, h.material⟩⟩

instance (r : Resources) (mesh : LiveMesh) : Decidable (Mesh.Known r mesh) :=
  inferInstanceAs (Decidable (∀ s ∈ mesh.surfaces, Surface.Known r s))

/-- All references of the payload are good. -/
def Payload.Known (r : Resources) (payload : Payload GeometryId MaterialId) : Prop :=
  ∀ i mesh, payload.meshInstance? = some i → i.mesh = some mesh → Mesh.Known r mesh

/-- The payload refers to nothing that is there. -/
def Payload.Fresh (r : Resources) (payload : Payload GeometryId MaterialId) : Prop :=
  ∀ i mesh, payload.meshInstance? = some i → i.mesh = some mesh → ∀ s ∈ mesh.surfaces, Surface.Fresh r s

theorem Surface.Fresh.of_extends {r r' : Resources} {s : Surface GeometryId MaterialId} (hext : r.Extends r')
    (h : Surface.Fresh r' s) : Surface.Fresh r s :=
  ⟨Nat.le_trans hext.size_le h.geometry, fun id hid => Nat.le_trans hext.materials_size_le (h.material id hid)⟩

/-- What refers to nothing of all that is there refers to nothing of what was there before. -/
theorem Payload.Fresh.of_extends {r r' : Resources} {payload : Payload GeometryId MaterialId} (hext : r.Extends r')
    (h : payload.Fresh r') : payload.Fresh r :=
  fun i mesh hi hmesh s hs => (h i mesh hi hmesh s hs).of_extends hext

namespace Resources

variable {r r' : Resources}

theorem Extends.surface (h : r.Extends r') {s : Surface GeometryId MaterialId}
    (hs : Surface.Known r s) : Surface.Known r' s ∧ r'.surfaceValue s = r.surfaceValue s := by
  rcases h.hasGeometry hs.geometry with ⟨hgeometry, hvalue⟩
  refine ⟨⟨hgeometry, fun id hid => (h.hasMaterial (hs.material id hid)).1⟩, ?_⟩
  unfold surfaceValue Surface.map
  rw [hvalue]
  cases hid : s.material with
  | none => rfl
  | some id => simp [(h.hasMaterial (hs.material id hid)).2]

theorem Extends.mesh (h : r.Extends r') {mesh : LiveMesh} (hmesh : Mesh.Known r mesh) :
    Mesh.Known r' mesh ∧ r'.meshValue mesh = r.meshValue mesh := by
  refine ⟨fun s hs => (h.surface (hmesh s hs)).1, ?_⟩
  have hsurfaces : mesh.surfaces.map r'.surfaceValue = mesh.surfaces.map r.surfaceValue :=
    List.map_congr_left fun s hs => (h.surface (hmesh s hs)).2
  show Mesh.mk _ (mesh.surfaces.map r'.surfaceValue) _ = Mesh.mk _ (mesh.surfaces.map r.surfaceValue) _
  rw [hsurfaces]

theorem Extends.payload (h : r.Extends r') {payload : Payload GeometryId MaterialId}
    (hknown : payload.Known r) :
    payload.Known r' ∧ payload.map r'.geometry r'.material = payload.map r.geometry r.material := by
  refine ⟨fun i mesh hi hmesh => (h.mesh (hknown i mesh hi hmesh)).1, ?_⟩
  cases payload with
  | plain => rfl
  | staticBody layer mask => rfl
  | collisionShape shape => rfl
  | meshInstance i =>
      cases hmesh : i.mesh with
      | none => simp [Payload.map, hmesh]
      | some mesh =>
          have hvalue := (h.mesh (hknown i mesh rfl hmesh)).2
          unfold meshValue at hvalue
          simp [Payload.map, hmesh, hvalue]

/-! ## Adding resources -/

/-- A loop that adds resources for item after item: what holds of an item and its result when the result is
made holds of them in the end. -/
theorem mapM_spec {α β : Type} {f : α → StateM Resources β} {P : Resources → α → β → Prop}
    {l : List α}
    (hmono : ∀ r r' : Resources, r.Extends r' → ∀ a b, P r a b → P r' a b)
    (hstep : ∀ a ∈ l, ∀ t, r.Extends t → t.Extends (f a t).2 ∧ P (f a t).2 a (f a t).1) :
    r.Extends (l.mapM f r).2 ∧ List.Forall₂ (P (l.mapM f r).2) l (l.mapM f r).1 := by
  suffices hloop : ∀ rest t, (∀ a ∈ rest, a ∈ l) → r.Extends t →
      t.Extends (rest.mapM f t).2 ∧ List.Forall₂ (P (rest.mapM f t).2) rest (rest.mapM f t).1 by
    exact hloop l r (fun _ h => h) (.refl r)
  intro rest
  induction rest with
  | nil => exact fun t _ _ => ⟨.refl t, .nil⟩
  | cons a rest ih =>
      intro t hrest ht
      rcases hstep a (hrest a List.mem_cons_self) t ht with ⟨hext, hP⟩
      obtain ⟨hext', hall⟩ :=
        ih (f a t).2 (fun b hb => hrest b (List.mem_cons_of_mem a hb)) (ht.trans hext)
      rw [List.mapM_cons]
      exact ⟨hext.trans hext', .cons (hmono _ _ hext' a _ hP) hall⟩

/-- A surface that is put among the resources is found there, behind everything that was there. -/
theorem addSurface_spec (s : Surface Geometry Material) (r : Resources) :
    let added := (s.mapM (m := StateM Resources) addGeometry addMaterial) r
    r.Extends added.2 ∧ (Surface.Known added.2 added.1 ∧ added.2.surfaceValue added.1 = s) ∧
      Surface.Fresh r added.1 := by
  have hgeometry := Extends.addGeometry r s.geometry
  have hhas := hasGeometry_addGeometry r s.geometry
  rcases s with ⟨geometry, _ | m, uv⟩
  · refine ⟨hgeometry, ⟨⟨hhas, by rintro id ⟨⟩⟩, ?_⟩, Nat.le_refl _, by rintro id ⟨⟩⟩
    show Surface.mk ((r.addGeometry geometry).2.geometry (r.addGeometry geometry).1) none uv = _
    rw [geometry_addGeometry_self]
  · let r₁ := (r.addGeometry geometry).2
    have hmaterial := Extends.addMaterial r₁ m
    rcases hmaterial.hasGeometry hhas with ⟨hhas', hvalue⟩
    refine ⟨hgeometry.trans hmaterial, ⟨⟨hhas', ?_⟩, ?_⟩, Nat.le_refl _, ?_⟩
    · rintro id ⟨⟩
      exact hasMaterial_addMaterial r₁ m
    · show Surface.mk ((r₁.addMaterial m).2.geometry (r.addGeometry geometry).1)
        (some ((r₁.addMaterial m).2.material (r₁.addMaterial m).1)) uv = _
      rw [hvalue, geometry_addGeometry_self, material_addMaterial_self]
    · rintro id ⟨⟩
      exact Nat.le_refl _

/-- Results whose values are given by their items have these values in order. -/
theorem map_surfaceValue_eq {α : Type} {r : Resources} {items : List α}
    {results : List (Surface GeometryId MaterialId)} {value : α → Surface Geometry Material}
    (h : List.Forall₂ (fun a s => Surface.Known r s ∧ r.surfaceValue s = value a) items results) :
    (∀ s ∈ results, Surface.Known r s) ∧ results.map r.surfaceValue = items.map value := by
  constructor
  · intro s hs
    rcases exists_of_mem_results h hs with ⟨a, -, ha⟩
    exact ha.1
  · induction h with
    | nil => rfl
    | cons hhead _ ih => rw [List.map_cons, List.map_cons, hhead.2, ih]

/-- A mesh that is put among the resources is found there, behind everything that was there. -/
theorem addMesh_spec (mesh : MeshValue) (r : Resources) :
    let added := addMesh mesh r
    r.Extends added.2 ∧ (Mesh.Known added.2 added.1 ∧ added.2.meshValue added.1 = mesh) ∧
      ∀ s ∈ added.1.surfaces, Surface.Fresh r s := by
  obtain ⟨hext, hall⟩ := mapM_spec (r := r) (l := mesh.surfaces)
    (f := Surface.mapM (m := StateM Resources) addGeometry addMaterial)
    (P := fun t s s' => (Surface.Known t s' ∧ t.surfaceValue s' = s) ∧ Surface.Fresh r s')
    (fun t t' h s s' hs => ⟨⟨(h.surface hs.1.1).1, (h.surface hs.1.1).2.trans hs.1.2⟩, hs.2⟩)
    (fun s _ t ht => by
      rcases addSurface_spec s t with ⟨hext, hfound, hfresh⟩
      exact ⟨hext, hfound, hfresh.of_extends ht⟩)
  rcases map_surfaceValue_eq (hall.imp fun _ _ h => h.1) with ⟨hknown, hvalues⟩
  refine ⟨hext, ⟨hknown, ?_⟩, fun s hs => ?_⟩
  · exact congrArg (fun surfaces => Mesh.mk mesh.name surfaces mesh.sizeHint)
      (hvalues.trans (List.map_id' _))
  · rcases exists_of_mem_results hall hs with ⟨_, -, -, hfresh⟩
    exact hfresh

/-- A payload that is put among the resources is found there, behind everything that was there. -/
theorem addPayload_spec (payload : Payload Geometry Material) (r : Resources) :
    let added := (payload.mapM (m := StateM Resources) addGeometry addMaterial) r
    r.Extends added.2 ∧ (added.1.Known added.2 ∧ added.1.map added.2.geometry added.2.material = payload) ∧
      added.1.Fresh r := by
  cases payload with
  | plain => exact ⟨.refl r, ⟨fun i mesh hi => (by cases hi), rfl⟩, fun i mesh hi => (by cases hi)⟩
  | staticBody layer mask =>
      exact ⟨.refl r, ⟨fun i mesh hi => (by cases hi), rfl⟩, fun i mesh hi => (by cases hi)⟩
  | collisionShape shape =>
      exact ⟨.refl r, ⟨fun i mesh hi => (by cases hi), rfl⟩, fun i mesh hi => (by cases hi)⟩
  | meshInstance i =>
      rcases i with ⟨_ | mesh, castShadow, giMode, layers, ignoreOcclusionCulling⟩
      · refine ⟨.refl r, ⟨?_, rfl⟩, ?_⟩ <;> rintro _ mesh ⟨⟩ ⟨⟩
      · rcases addMesh_spec mesh r with ⟨hext, ⟨hknown, hvalue⟩, hfresh⟩
        refine ⟨hext, ⟨?_, ?_⟩, ?_⟩
        · rintro _ _ ⟨⟩ ⟨⟩
          exact hknown
        · show Payload.meshInstance { mesh := some ((addMesh mesh r).2.meshValue (addMesh mesh r).1)
                                      castShadow, giMode, layers, ignoreOcclusionCulling } = _
          rw [hvalue]
        · rintro _ _ ⟨⟩ ⟨⟩
          exact hfresh

end Resources

/-! ## Renewing surfaces -/

/-- The surface has geometry of its own, which was made from that of the old one, the same material, and the given
lightmap coordinates. -/
structure Surface.Renewed (r r' : Resources) (shape : Geometry → Geometry) (uv : Option (List (Float × Float)))
    (s s' : Surface GeometryId MaterialId) : Prop where
  geometry : r'.geometry s'.geometry = shape (r.geometry s.geometry)
  fresh : r.geometries.size ≤ s'.geometry.index
  known : r'.HasGeometry s'.geometry
  material : s'.material = s.material
  lightmapUv : s'.lightmapUv = uv

namespace Resources

variable {r r' : Resources}

/-- A renewed surface has the value of the old one, but for its geometry and its lightmap coordinates. -/
theorem Extends.renewed (h : r.Extends r') {shape : Geometry → Geometry} {uv : Option (List (Float × Float))}
    {s s' : Surface GeometryId MaterialId} (hs : Surface.Known r s) (hnew : Surface.Renewed r r' shape uv s s') :
    Surface.Known r' s' ∧ r'.surfaceValue s' =
      { r.surfaceValue s with geometry := shape (r.surfaceValue s).geometry, lightmapUv := uv } := by
  rcases h.surface hs with ⟨hknown, hvalue⟩
  constructor
  · exact ⟨hnew.known, fun id hid => hknown.material id (hnew.material ▸ hid)⟩
  · have hmaterial : s.material.map r'.material = s.material.map r.material := congrArg Surface.material hvalue
    rw [surfaceValue, Surface.map, hnew.geometry, hnew.material, hnew.lightmapUv, hmaterial]
    rfl

/-- A loop that renews surface after surface. -/
theorem renewed_mapM {α : Type} {f : α → StateM Resources (Surface GeometryId MaterialId)}
    {s : α → Surface GeometryId MaterialId} {shape : α → Geometry → Geometry}
    {uv : α → Option (List (Float × Float))} {items : List α}
    (hf : ∀ a t, f a t =
      let added := addGeometry (shape a (t.geometry (s a).geometry)) t
      ({ geometry := added.1, material := (s a).material, lightmapUv := uv a }, added.2))
    (hknown : ∀ a ∈ items, Surface.Known r (s a)) :
    r.Extends (items.mapM f r).2 ∧
      List.Forall₂ (fun a s' => Surface.Renewed r (items.mapM f r).2 (shape a) (uv a) (s a) s') items
        (items.mapM f r).1 := by
  refine mapM_spec (P := fun t a s' => Surface.Renewed r t (shape a) (uv a) (s a) s') ?_ ?_
  · intro t t' hext a s' hnew
    rcases hext.hasGeometry hnew.known with ⟨hstill, hsame⟩
    exact ⟨hsame.trans hnew.geometry, hnew.fresh, hstill, hnew.material, hnew.lightmapUv⟩
  · intro a ha t hext
    rw [hf]
    refine ⟨.addGeometry t _, ?_, hext.size_le, hasGeometry_addGeometry t _, rfl, rfl⟩
    -- the geometry that is read is the one that was there at first
    rw [← (hext.hasGeometry (hknown a ha).geometry).2]
    exact geometry_addGeometry_self _ t

/-- The values of surfaces that were renewed. -/
theorem Extends.renewed_values (h : r.Extends r') {α : Type} {surface : α → Surface GeometryId MaterialId}
    {shape : α → Geometry → Geometry} {uv : α → Option (List (Float × Float))} {items : List α}
    {results : List (Surface GeometryId MaterialId)} (hknown : ∀ a ∈ items, Surface.Known r (surface a))
    (hnew : List.Forall₂ (fun a s' => Surface.Renewed r r' (shape a) (uv a) (surface a) s') items results) :
    (∀ s' ∈ results, Surface.Known r' s') ∧ results.map r'.surfaceValue = items.map fun a =>
      { r.surfaceValue (surface a) with
        geometry := shape a (r.surfaceValue (surface a)).geometry, lightmapUv := uv a } :=
  map_surfaceValue_eq (forall₂_imp_of_mem hnew fun a ha _ _ hs => h.renewed (hknown a ha) hs)

/-! ## Copying -/

/-- Rebuilding copies surface after surface. -/
theorem renewed_rebuild {mesh : LiveMesh} (hmesh : Mesh.Known r mesh) :
    r.Extends (mesh.rebuild r).2 ∧
      List.Forall₂ (Surface.Renewed r (mesh.rebuild r).2 id none) mesh.surfaces (mesh.rebuild r).1.surfaces :=
  renewed_mapM (s := id) (fun _ _ => rfl) hmesh

/-- A copied mesh has the geometry and the materials of the one it was made from, and no lightmap
coordinates. -/
theorem rebuild_spec {mesh : LiveMesh} {r : Resources} (hmesh : Mesh.Known r mesh) :
    let rebuilt := mesh.rebuild r
    r.Extends rebuilt.2 ∧ Mesh.Known rebuilt.2 rebuilt.1 ∧
      rebuilt.2.meshValue rebuilt.1 =
        { name := mesh.name
          surfaces := mesh.surfaces.map fun s => { r.surfaceValue s with lightmapUv := none } } := by
  obtain ⟨hext, hnew⟩ := renewed_rebuild hmesh
  rcases hext.renewed_values hmesh hnew with ⟨hknown, hvalues⟩
  exact ⟨hext, hknown, congrArg (fun surfaces => Mesh.mk mesh.name surfaces none) hvalues⟩

end Resources

end LevelPrep
