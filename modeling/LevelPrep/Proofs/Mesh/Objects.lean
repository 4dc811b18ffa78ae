import LevelPrep.Lightmap
import LevelPrep.Proofs.Mesh.Corners
import Mathlib.Data.List.Nodup

/-!
# Meshes as objects

Meshes and their surfaces are objects that are changed in place, and what refers to an object sees the change.  In a
`MeshStore` both have references, as geometry and materials have, so that two meshes could share a surface.  What
happens to an object is what the functions on mesh values say (`mesh_run`), and edits of one mesh touch nothing but
the mesh and its surfaces (`touches_run`).
-/

namespace LevelPrep

/-! ## Objects -/

/-- A reference to a surface. -/
structure SurfaceRef where
  index : Nat
deriving DecidableEq, Repr

/-- A reference to a mesh. -/
structure MeshRef where
  index : Nat
deriving DecidableEq, Repr

/-- A mesh that refers to its surfaces. -/
structure MeshObject where
  name : Json := .str ""
  surfaces : List SurfaceRef := []
  sizeHint : Option (List Json) := none

structure MeshStore where
  resources : Resources := {}
  surfaces : Array (Surface GeometryId MaterialId) := #[]
  meshes : Array MeshObject := #[]

/-- What can be done to a mesh and to what is put on it. -/
inductive MeshEdit where
  | newGeometry (g : Geometry)
  | newMaterial (m : Material)
  | addSurface (geometry : GeometryId) (material : Option MaterialId)
  | setSurfaceMaterial (index : Int) (material : Option MaterialId)
  | mark

namespace MeshStore

def object (t : MeshStore) (m : MeshRef) : MeshObject :=
  t.meshes.getD m.index {}

def surface (t : MeshStore) (s : SurfaceRef) : Surface GeometryId MaterialId :=
  t.surfaces.getD s.index { geometry := ⟨0⟩ }

/-- The mesh that an object stands for. -/
def mesh (t : MeshStore) (m : MeshRef) : LiveMesh where
  name := (t.object m).name
  surfaces := (t.object m).surfaces.map t.surface
  sizeHint := (t.object m).sizeHint

/-- Changes a surface, for every mesh that refers to it. -/
def changeSurface (t : MeshStore) (s : SurfaceRef)
    (f : Surface GeometryId MaterialId → Surface GeometryId MaterialId) : MeshStore :=
  { t with surfaces := t.surfaces.modify s.index f }

/-- Changes a mesh, for everything that refers to it. -/
def changeMesh (t : MeshStore) (m : MeshRef) (f : MeshObject → MeshObject) : MeshStore :=
  { t with meshes := t.meshes.modify m.index f }

/-- Puts a new surface on a mesh. -/
def addSurface (t : MeshStore) (m : MeshRef) (geometry : GeometryId) (material : Option MaterialId) : MeshStore :=
  ({ t with surfaces := t.surfaces.push { geometry, material } } : MeshStore).changeMesh m fun o =>
    { o with surfaces := o.surfaces ++ [{ index := t.surfaces.size }] }

/-- Gives a surface of a mesh another material. -/
def setSurfaceMaterial (t : MeshStore) (m : MeshRef) (index : Int) (material : Option MaterialId) :
    Except Fault MeshStore := do
  let s ← itemAt (t.object m).surfaces index
  return t.changeSurface s fun surface => { surface with material }

/-- The surface with all vertices at one place of the lightmap. -/
def marked (r : Resources) (surface : Surface GeometryId MaterialId) : Surface GeometryId MaterialId :=
  { surface with lightmapUv := some ((r.geometry surface.geometry).vertices.map fun _ => (0.0, 0.0)) }

/-- Marks a mesh as unwrapped, surface after surface. -/
def mark (t : MeshStore) (m : MeshRef) : MeshStore :=
  ((t.object m).surfaces.foldl (fun t s => t.changeSurface s (marked t.resources)) t).changeMesh m fun o =>
    { o with sizeHint := some [.int 16, .int 16] }

/-- Does an edit to a mesh.  An edit that is refused changes nothing. -/
def edit (t : MeshStore) (m : MeshRef) : MeshEdit → MeshStore
  | .newGeometry g => { t with resources := (t.resources.addGeometry g).2 }
  | .newMaterial x => { t with resources := (t.resources.addMaterial x).2 }
  | .addSurface geometry material => t.addSurface m geometry material
  | .setSurfaceMaterial index material =>
    match t.setSurfaceMaterial m index material with
    | .ok t => t
    | .error _ => t
  | .mark => t.mark m

/-- Does edits to a mesh, one after another. -/
def run (t : MeshStore) (m : MeshRef) (edits : List MeshEdit) : MeshStore :=
  edits.foldl (fun t e => t.edit m e) t

end MeshStore

/-- What an edit makes of a mesh value. -/
def MeshEdit.onValue (state : LiveMesh × Resources) : MeshEdit → LiveMesh × Resources
  | .newGeometry g => (state.1, (state.2.addGeometry g).2)
  | .newMaterial x => (state.1, (state.2.addMaterial x).2)
  | .addSurface geometry material => (state.1.addSurface { geometry, material }, state.2)
  | .setSurfaceMaterial index material =>
    match state.1.setSurfaceMaterial index material with
    | .ok mesh => (mesh, state.2)
    | .error _ => state
  | .mark => (Lightmap.placeholder state.1 state.2, state.2)

theorem mem_of_itemAt {α : Type} {items : List α} {index : Int} {item : α} (h : itemAt items index = .ok item) :
    item ∈ items := by
  unfold itemAt at h
  split at h
  · next found hfound =>
      cases h
      rcases Option.bind_eq_some_iff.1 hfound with ⟨n, -, hn⟩
      exact List.mem_of_getElem? hn
  · cases h

namespace MeshStore

variable {t t' t'' : MeshStore} {m m' : MeshRef} {s x : SurfaceRef}

/-! ## Looking up -/

theorem surface_changeSurface_self (f) (h : s.index < t.surfaces.size) :
    (t.changeSurface s f).surface s = f (t.surface s) := by
  simp [changeSurface, surface, Array.getD_eq_getD_getElem?, Array.getElem_modify_self, h]

theorem surface_changeSurface_of_ne (f) (h : x ≠ s) : (t.changeSurface s f).surface x = t.surface x := by
  have hne : s.index ≠ x.index := fun heq => h (congrArg SurfaceRef.mk heq.symm)
  simp [changeSurface, surface, Array.getD_eq_getD_getElem?, Array.getElem?_modify, hne]

theorem object_changeMesh_self (f) (h : m.index < t.meshes.size) :
    (t.changeMesh m f).object m = f (t.object m) := by
  simp [changeMesh, object, Array.getD_eq_getD_getElem?, Array.getElem_modify_self, h]

theorem object_changeMesh_of_ne (f) (h : m' ≠ m) : (t.changeMesh m f).object m' = t.object m' := by
  have hne : m.index ≠ m'.index := fun heq => h (congrArg MeshRef.mk heq.symm)
  simp [changeMesh, object, Array.getD_eq_getD_getElem?, Array.getElem?_modify, hne]

section

variable {geometry : GeometryId} {material : Option MaterialId}

theorem object_addSurface_self (h : m.index < t.meshes.size) : (t.addSurface m geometry material).object m =
    { t.object m with surfaces := (t.object m).surfaces ++ [⟨t.surfaces.size⟩] } :=
  object_changeMesh_self _ h

theorem object_addSurface_of_ne (h : m' ≠ m) : (t.addSurface m geometry material).object m' = t.object m' :=
  object_changeMesh_of_ne _ h

theorem surface_addSurface_self :
    (t.addSurface m geometry material).surface ⟨t.surfaces.size⟩ = { geometry, material } := by
  simp [addSurface, changeMesh, surface]

theorem surface_addSurface_of_lt (h : s.index < t.surfaces.size) :
    (t.addSurface m geometry material).surface s = t.surface s := by
  simp [addSurface, changeMesh, surface, Array.getD_eq_getD_getElem?, Array.getElem?_push, Nat.ne_of_lt h]

theorem size_addSurface : (t.addSurface m geometry material).surfaces.size = t.surfaces.size + 1 := by
  simp [addSurface, changeMesh]

end

/-- The mesh is there, and so are its surfaces. -/
structure Has (t : MeshStore) (m : MeshRef) : Prop where
  here : m.index < t.meshes.size
  surfaces : ∀ s ∈ (t.object m).surfaces, s.index < t.surfaces.size

/-- The surfaces are the same in the end, up to the marks. -/
theorem surface_foldl_mark (refs : List SurfaceRef) (h : ∀ s ∈ refs, s.index < t.surfaces.size) :
    let t' := refs.foldl (fun t s => t.changeSurface s (marked t.resources)) t
    t'.resources = t.resources ∧ t'.meshes = t.meshes ∧ t'.surfaces.size = t.surfaces.size ∧
      ∀ x, t'.surface x = if x ∈ refs then marked t.resources (t.surface x) else t.surface x := by
  induction refs generalizing t with
  | nil => simp
  | cons s rest ih =>
      have hs := h s List.mem_cons_self
      have hsize : (t.changeSurface s (marked t.resources)).surfaces.size = t.surfaces.size := by
        simp [changeSurface]
      obtain ⟨hresources, hmeshes, hsize', hsurface⟩ := @ih (t.changeSurface s (marked t.resources))
        (fun x hx => hsize ▸ h x (List.mem_cons_of_mem s hx))
      refine ⟨hresources, hmeshes, hsize'.trans hsize, fun x => ?_⟩
      rw [List.foldl_cons, hsurface x]
      by_cases hx : x = s
      · subst hx
        rw [surface_changeSurface_self _ hs]
        -- marking again changes nothing
        have htwice : marked t.resources (marked t.resources (t.surface x)) = marked t.resources (t.surface x) := rfl
        show (if x ∈ rest then marked t.resources (marked t.resources (t.surface x)) else _) = _
        rw [htwice, ite_self, if_pos List.mem_cons_self]
      · rw [surface_changeSurface_of_ne _ hx]
        show (if x ∈ rest then marked t.resources (t.surface x) else _) = _
        simp [hx]

/-! ## What an edit touches -/

/-- Nothing is touched but one mesh and its surfaces, and what is new on the mesh was not there before. -/
structure Touches (t t' : MeshStore) (m : MeshRef) : Prop where
  resources : t.resources.Extends t'.resources
  meshes : t'.meshes.size = t.meshes.size
  object_eq : ∀ m', m' ≠ m → t'.object m' = t.object m'
  surface_eq : ∀ s, s.index < t.surfaces.size → s ∉ (t.object m).surfaces → t'.surface s = t.surface s
  grown : ∀ s ∈ (t'.object m).surfaces, s ∈ (t.object m).surfaces ∨
    (t.surfaces.size ≤ s.index ∧ s.index < t'.surfaces.size)
  size_le : t.surfaces.size ≤ t'.surfaces.size

namespace Touches

theorem refl (t : MeshStore) (m : MeshRef) : Touches t t m where
  resources := .refl t.resources
  meshes := rfl
  object_eq _ _ := rfl
  surface_eq _ _ _ := rfl
  grown _ hs := Or.inl hs
  size_le := Nat.le_refl _

theorem trans (h : Touches t t' m) (h' : Touches t' t'' m) : Touches t t'' m where
  resources := h.resources.trans h'.resources
  meshes := h'.meshes.trans h.meshes
  object_eq m' hne := (h'.object_eq m' hne).trans (h.object_eq m' hne)
  surface_eq := by
    intro s hs hnot
    -- a surface that is there from the start cannot have been added on the way
    have hnot' : s ∉ (t'.object m).surfaces := by
      intro hin
      rcases h.grown s hin with hold | hnew
      · exact hnot hold
      · exact Nat.not_le_of_lt hs hnew.1
    exact (h'.surface_eq s (Nat.lt_of_lt_of_le hs h.size_le) hnot').trans (h.surface_eq s hs hnot)
  grown := by
    intro s hs
    rcases h'.grown s hs with hold | ⟨hle, hlt⟩
    · rcases h.grown s hold with hold | ⟨hle, hlt⟩
      · exact Or.inl hold
      · exact Or.inr ⟨hle, Nat.lt_of_lt_of_le hlt h'.size_le⟩
    · exact Or.inr ⟨Nat.le_trans h.size_le hle, hlt⟩
  size_le := Nat.le_trans h.size_le h'.size_le

/-- A change of resources touches no mesh. -/
theorem of_resources {resources : Resources} (h : t.resources.Extends resources) :
    Touches t { t with resources } m where
  resources := h
  meshes := rfl
  object_eq _ _ := rfl
  surface_eq _ _ _ := rfl
  grown _ hs := Or.inl hs
  size_le := Nat.le_refl _

/-- A mesh that is edited stays there. -/
theorem has (h : Touches t t' m) (hm : t.Has m) : t'.Has m where
  here := h.meshes ▸ hm.here
  surfaces := by
    intro s hs
    rcases h.grown s hs with hold | hnew
    · exact Nat.lt_of_lt_of_le (hm.surfaces s hold) h.size_le
    · exact hnew.2

/-- A mesh that is not edited stays there. -/
theorem has_of_ne (h : Touches t t' m) (hne : m' ≠ m) (hm' : t.Has m') : t'.Has m' where
  here := h.meshes ▸ hm'.here
  surfaces := by
    intro s hs
    rw [h.object_eq m' hne] at hs
    exact Nat.lt_of_lt_of_le (hm'.surfaces s hs) h.size_le

end Touches

theorem touches_addSurface {geometry : GeometryId} {material : Option MaterialId} (h : m.index < t.meshes.size) :
    Touches t (t.addSurface m geometry material) m where
  resources := .refl t.resources
  meshes := by simp [addSurface, changeMesh]
  object_eq _ hne := object_addSurface_of_ne hne
  surface_eq _ hs _ := surface_addSurface_of_lt hs
  grown := by
    intro s hs
    rw [object_addSurface_self h] at hs
    rcases List.mem_append.1 hs with hold | hnew
    · exact Or.inl hold
    · rw [List.mem_singleton.1 hnew, size_addSurface]
      exact Or.inr ⟨Nat.le_refl _, Nat.lt_succ_self _⟩
  size_le := by
    rw [size_addSurface]
    exact Nat.le_succ _

theorem touches_changeSurface (f) (h : s ∈ (t.object m).surfaces) : Touches t (t.changeSurface s f) m where
  resources := .refl t.resources
  meshes := rfl
  object_eq _ _ := rfl
  surface_eq x _ hnot := surface_changeSurface_of_ne f fun heq => hnot (heq ▸ h)
  grown _ hs := Or.inl hs
  size_le := by simp [changeSurface]

theorem touches_mark (h : t.Has m) : Touches t (t.mark m) m := by
  obtain ⟨hresources, hmeshes, hsize, hsurface⟩ := surface_foldl_mark (t.object m).surfaces h.surfaces
  -- marking surfaces changes no mesh
  have hobject : ∀ m', ((t.object m).surfaces.foldl (fun t s => t.changeSurface s (marked t.resources)) t).object m' =
      t.object m' := by
    intro m'
    rw [object, hmeshes]
    rfl
  constructor
  case resources => exact hresources ▸ .refl t.resources
  case meshes => simp [mark, changeMesh, hmeshes]
  case object_eq =>
    intro m' hne
    rw [mark, object_changeMesh_of_ne _ hne, hobject]
  case surface_eq =>
    intro x _ hnot
    exact (hsurface x).trans (if_neg hnot)
  case grown =>
    intro s hs
    rw [mark, object_changeMesh_self _ (by rw [hmeshes]; exact h.here), hobject] at hs
    exact Or.inl hs
  case size_le => exact Nat.le_of_eq hsize.symm

/-- An edit touches nothing but the mesh and its surfaces. -/
theorem touches_edit (h : t.Has m) (e : MeshEdit) : Touches t (t.edit m e) m := by
  cases e with
  | newGeometry g => exact .of_resources (.addGeometry t.resources g)
  | newMaterial x => exact .of_resources (.addMaterial t.resources x)
  | addSurface geometry material => exact touches_addSurface h.here
  | setSurfaceMaterial index material =>
      cases hset : t.setSurfaceMaterial m index material with
      | error fault =>
          simp only [edit, hset]
          exact .refl t m
      | ok t' =>
          simp only [edit, hset]
          rcases bind_eq_ok_iff.1 hset with ⟨s, hs, hlast⟩
          cases hlast
          exact touches_changeSurface _ (mem_of_itemAt hs)
  | mark => exact touches_mark h

/-- Edits touch nothing but the mesh and its surfaces. -/
theorem touches_run (h : t.Has m) (edits : List MeshEdit) : Touches t (t.run m edits) m := by
  induction edits generalizing t with
  | nil => exact .refl t m
  | cons e rest ih =>
      have hedit := touches_edit h e
      exact hedit.trans (ih (hedit.has h))

/-- Two meshes without a common surface. -/
structure Apart (t : MeshStore) (m m' : MeshRef) : Prop where
  ne : m ≠ m'
  surfaces : ∀ s ∈ (t.object m).surfaces, s ∉ (t.object m').surfaces

theorem Apart.symm (h : t.Apart m m') : t.Apart m' m :=
  ⟨Ne.symm h.ne, fun s hs hin => h.surfaces s hin hs⟩

/-- What has no common surface with a mesh is not touched together with it. -/
theorem Touches.mesh_eq (h : Touches t t' m) (hapart : t.Apart m m') (hm' : t.Has m') : t'.mesh m' = t.mesh m' := by
  have hsurfaces : (t.object m').surfaces.map t'.surface = (t.object m').surfaces.map t.surface := by
    refine List.map_congr_left fun s hs => h.surface_eq s (hm'.surfaces s hs) ?_
    intro hin
    exact hapart.surfaces s hin hs
  rw [mesh, mesh, h.object_eq m' (Ne.symm hapart.ne), hsurfaces]

/-! ## Edits of values -/

/-- A mesh whose surfaces are different objects. -/
structure Owns (t : MeshStore) (m : MeshRef) : Prop extends t.Has m where
  nodup : (t.object m).surfaces.Nodup

/-- A new surface on an object is a new surface of the value. -/
theorem mesh_addSurface {geometry : GeometryId} {material : Option MaterialId} (h : t.Has m) :
    (t.addSurface m geometry material).mesh m = (t.mesh m).addSurface { geometry, material } := by
  have hold : (t.object m).surfaces.map (t.addSurface m geometry material).surface =
      (t.object m).surfaces.map t.surface :=
    List.map_congr_left fun s hs => surface_addSurface_of_lt (h.surfaces s hs)
  rw [mesh, object_addSurface_self h.here, List.map_append, hold, List.map_singleton, surface_addSurface_self]
  rfl

/-- A surface that is put on a mesh is a new one. -/
theorem Owns.addSurface (h : t.Owns m) {geometry : GeometryId} {material : Option MaterialId} :
    (t.addSurface m geometry material).Owns m := by
  refine ⟨(touches_addSurface h.here).has h.toHas, ?_⟩
  rw [object_addSurface_self h.here]
  refine List.nodup_append.2 ⟨h.nodup, List.nodup_singleton _, ?_⟩
  rintro s hs x hx rfl
  rw [List.mem_singleton.1 hx] at hs
  exact Nat.lt_irrefl _ (h.surfaces _ hs)

/-- A surface of an object gets the material that the surface of the value gets. -/
theorem mesh_setSurfaceMaterial (h : t.Owns m) (index : Int) (material : Option MaterialId) :
    (t.setSurfaceMaterial m index material).map (fun t' => t'.mesh m) =
      (t.mesh m).setSurfaceMaterial index material := by
  unfold setSurfaceMaterial LiveMesh.setSurfaceMaterial itemAt
  have hlength : (t.mesh m).surfaces.length = (t.object m).surfaces.length := List.length_map t.surface
  rw [hlength]
  cases hplace : place? (t.object m).surfaces.length index with
  | none => rfl
  | some place =>
      have hlt := lt_of_place? hplace
      have hs : (t.object m).surfaces[place]? = some (t.object m).surfaces[place] := List.getElem?_eq_getElem hlt
      rw [Option.bind_some, hs]
      have hsurfaces : (t.object m).surfaces.map (t.changeSurface (t.object m).surfaces[place] fun surface =>
          { surface with material }).surface =
          ((t.object m).surfaces.map t.surface).modify place fun surface => { surface with material } := by
        refine List.ext_getElem (by simp) fun k hk _ => ?_
        rw [List.length_map] at hk
        rw [List.getElem_map, List.getElem_modify, List.getElem_map]
        by_cases hsame : place = k
        · subst hsame
          rw [if_pos rfl, surface_changeSurface_self _ (h.surfaces _ (List.getElem_mem hlt))]
        · -- no surface is listed twice, so the others are not changed along with it
          have hne : (t.object m).surfaces[k] ≠ (t.object m).surfaces[place] := fun heq =>
            hsame ((List.Nodup.getElem_inj_iff h.nodup).1 heq).symm
          rw [if_neg hsame, surface_changeSurface_of_ne _ hne]
      exact congrArg (fun surfaces => Except.ok { t.mesh m with surfaces }) hsurfaces

/-- Marking an object marks the value. -/
theorem mesh_mark (h : t.Has m) : (t.mark m).mesh m = Lightmap.placeholder (t.mesh m) t.resources := by
  obtain ⟨-, hmeshes, -, hsurface⟩ := surface_foldl_mark (t.object m).surfaces h.surfaces
  have hobject : (t.mark m).object m = { t.object m with sizeHint := some [.int 16, .int 16] } := by
    rw [mark, object_changeMesh_self _ (by rw [hmeshes]; exact h.here), object, hmeshes]
    rfl
  have hsurfaces : (t.object m).surfaces.map (t.mark m).surface =
      (t.object m).surfaces.map fun s => marked t.resources (t.surface s) :=
    List.map_congr_left fun s hs => (hsurface s).trans (if_pos hs)
  rw [mesh, hobject, hsurfaces, Lightmap.placeholder, mesh, List.map_map]
  rfl

/-- An edit of an object is the edit of its value. -/
theorem mesh_edit (h : t.Owns m) (e : MeshEdit) :
    ((t.edit m e).mesh m, (t.edit m e).resources) = e.onValue (t.mesh m, t.resources) ∧ (t.edit m e).Owns m := by
  have hhas := (touches_edit h.toHas e).has h.toHas
  cases e with
  | newGeometry g => exact ⟨rfl, hhas, h.nodup⟩
  | newMaterial x => exact ⟨rfl, hhas, h.nodup⟩
  | addSurface geometry material =>
      exact ⟨congrArg (·, t.resources) (mesh_addSurface h.toHas), h.addSurface⟩
  -- an edit that is refused changes neither
  | setSurfaceMaterial index material =>
      have hvalue := mesh_setSurfaceMaterial h index material
      cases hset : t.setSurfaceMaterial m index material with
      | error fault =>
          rw [hset] at hvalue
          simp only [edit, hset, MeshEdit.onValue, ← hvalue]
          exact ⟨rfl, h⟩
      | ok t' =>
          rw [hset] at hvalue
          simp only [edit, hset, MeshEdit.onValue, ← hvalue] at hhas ⊢
          rcases bind_eq_ok_iff.1 hset with ⟨s, -, hlast⟩
          cases hlast
          exact ⟨rfl, hhas, h.nodup⟩
  | mark =>
      obtain ⟨hresources, hmeshes, -, -⟩ := surface_foldl_mark (t.object m).surfaces h.surfaces
      refine ⟨Prod.ext (mesh_mark h.toHas) hresources, hhas, ?_⟩
      show ((t.mark m).object m).surfaces.Nodup
      rw [mark, object_changeMesh_self _ (by rw [hmeshes]; exact h.here), object, hmeshes]
      exact h.nodup

/-- Edits of an object are the edits of its value, one after another. -/
theorem mesh_run (h : t.Owns m) (edits : List MeshEdit) :
    ((t.run m edits).mesh m, (t.run m edits).resources) = edits.foldl MeshEdit.onValue (t.mesh m, t.resources) := by
  induction edits generalizing t with
  | nil => rfl
  | cons e rest ih =>
      rcases mesh_edit h e with ⟨hvalue, howns⟩
      rw [List.foldl_cons, ← hvalue]
      exact ih howns

end MeshStore

end LevelPrep
