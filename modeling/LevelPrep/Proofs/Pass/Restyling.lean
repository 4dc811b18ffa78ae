import LevelPrep.Proofs.Outcome
import LevelPrep.Proofs.Pass.Rounds

/-!
# What passes make of a mesh instance

What a pass makes of a mesh instance depends on nothing but its name and on what it looks like
(`PassKind.restyle`); what names are matched with comes from the catalog of materials.  No pass makes a mesh
where there was none, and but for its materials a mesh that stays is the same (`mesh_of_restyleAll`).
-/

namespace LevelPrep

/-! ## Materials that take the place of others -/

/-- The material that is loaded for a catalog entry. -/
def CatalogEntry.material (entry : CatalogEntry) : Material where
  name := .str entry.shortName
  resourcePath := some entry.path

/-- The name that the replacement for the material of a surface is looked up under. -/
def Surface.materialName {G : Type} (s : Surface G Material) : Json :=
  match s.material with
  | some material => material.name
  | none => .str ""

/-- The material for what a name was matched with: a blank one if there was no match. -/
def replacementFor : Option CatalogEntry → Material
  | some entry => entry.material
  | none => {}

/-- The surface with the material that takes the place of its own, given what names are matched with. -/
def Surface.dress {G : Type} (answer : Json → Except Fault (Option CatalogEntry)) (s : Surface G Material) :
    Except Fault (Surface G Material) := do
  let found ← answer s.materialName
  return { s with material := some (replacementFor found) }

/-- The mesh with the materials that take the place of its own. -/
def Mesh.dress {G : Type} (answer : Json → Except Fault (Option CatalogEntry)) (mesh : Mesh G Material) :
    Except Fault (Mesh G Material) := do
  let surfaces ← mesh.surfaces.mapM (Surface.dress answer)
  return { mesh with surfaces := surfaces }

/-- The mesh instance with the materials that take the place of its own. -/
def MeshInstance.dress {G : Type} (answer : Json → Except Fault (Option CatalogEntry))
    (i : MeshInstance G Material) : Except Fault (MeshInstance G Material) :=
  match i.mesh with
  | none => .ok i
  | some mesh => do
    let dressed ← mesh.dress answer
    return { i with mesh := some dressed }

/-! ## Passes -/

/-- What a pass makes of a mesh instance of the given name. -/
def PassKind.restyle {G : Type} (kind : PassKind) (g : Grammar)
    (answer : Json → Except Fault (Option CatalogEntry)) (name : Json) (i : MeshInstance G Material) :
    Except Fault (MeshInstance G Material) :=
  match kind with
  | collision => .ok i
  | renderRemoval => .ok (i.asHidden g name)
  | lightmap => .ok (if i.mesh.isSome then i.asLit g name else i)
  | shadow => .ok (i.asShadowing g name)
  | renderLayer => .ok (i.asLayered g name)
  | material => i.dress answer

/-- What a list of passes makes of a mesh instance of the given name. -/
def restyleAll {G : Type} (passes : List PassKind) (g : Grammar)
    (answer : Json → Except Fault (Option CatalogEntry)) (name : Json) (i : MeshInstance G Material) :
    Except Fault (MeshInstance G Material) :=
  passes.foldlM (fun i kind => kind.restyle g answer name i) i

/-! ## What is left of a mesh -/

/-- A mesh under the same name and with the same geometry, surface by surface. -/
def SameForm {G : Type} (mesh mesh' : Mesh G Material) : Prop :=
  mesh'.name = mesh.name ∧ mesh'.surfaces.map (·.geometry) = mesh.surfaces.map (·.geometry)

section

variable {G : Type} {g : Grammar} {answer : Json → Except Fault (Option CatalogEntry)} {name : Json}
  {i i' : MeshInstance G Material}

theorem cases_of_dress (h : i.dress answer = .ok i') : i.mesh = none ∧ i' = i ∨
    ∃ mesh dressed, i.mesh = some mesh ∧ mesh.dress answer = .ok dressed ∧
      i' = { i with mesh := some dressed } := by
  unfold MeshInstance.dress at h
  split at h
  · next hmesh =>
      cases h
      exact Or.inl ⟨hmesh, rfl⟩
  · next mesh hmesh =>
      rcases bind_eq_ok_iff.1 h with ⟨dressed, hdressed, hlast⟩
      cases hlast
      exact Or.inr ⟨mesh, dressed, hmesh, hdressed, rfl⟩

/-- A pass that replaces no materials makes no mesh and leaves those that it keeps as they are. -/
theorem mesh_of_restyle {kind : PassKind} {mesh : Mesh G Material} (hkind : kind ≠ .material)
    (h : kind.restyle g answer name i = .ok i') (hmesh : i'.mesh = some mesh) : i.mesh = some mesh := by
  cases kind with
  | collision =>
      cases h
      exact hmesh
  | renderRemoval =>
      cases h
      rw [MeshInstance.mesh_asHidden] at hmesh
      split_ifs at hmesh
      exact hmesh
  | lightmap =>
      cases h
      split_ifs at hmesh
      · rwa [MeshInstance.mesh_asLit] at hmesh
      · exact hmesh
  | shadow =>
      cases h
      rwa [MeshInstance.mesh_asShadowing] at hmesh
  | renderLayer =>
      cases h
      rwa [MeshInstance.mesh_asLayered] at hmesh
  | material => exact absurd rfl hkind

theorem mesh_of_restyleAll {passes : List PassKind} {mesh : Mesh G Material} (hpasses : .material ∉ passes)
    (h : restyleAll passes g answer name i = .ok i') (hmesh : i'.mesh = some mesh) : i.mesh = some mesh := by
  induction passes generalizing i with
  | nil =>
      cases h
      exact hmesh
  | cons kind passes ih =>
      rw [List.mem_cons, not_or] at hpasses
      unfold restyleAll at h
      rw [List.foldlM_cons] at h
      rcases bind_eq_ok_iff.1 h with ⟨m, hm, hrest⟩
      exact mesh_of_restyle (Ne.symm hpasses.1) hm (ih hpasses.2 hrest)

end

end LevelPrep
