import LevelPrep.Proofs.Catalog.Matching
import LevelPrep.Proofs.Pass.Supplying

/-!
# Drawing again

A pass other than the collision pass has nothing left to do after it was run, and no other pass gives it
something to do again (`Rules.Done.of_drawer`).  So passes that are run a second time find a tree as they want it
(`Rules.work_again`).  This asks of materials that the one found for a name is found for its own name too
(`Session.supply_again`), and of the unwrapper that it sets coordinates by the form of a mesh
(`Lightmap.ByForm`).
-/

namespace LevelPrep

variable {R : Type}

/-! ## Coordinates -/

/-- The lightmap coordinates of a mesh, surface by surface, and the size that they were made for. -/
def Mesh.coordinates {G M : Type} (mesh : Mesh G M) : List (Option (List (Float × Float))) × Option (List Json) :=
  (mesh.surfaces.map (·.lightmapUv), mesh.sizeHint)

/-- Surfaces are their coordinates and what they are without them. -/
theorem surfaces_eq_of_bare {G M : Type} {surfaces surfaces' : List (Surface G M)}
    (hbare : surfaces'.map Surface.bare = surfaces.map Surface.bare)
    (huv : surfaces'.map (·.lightmapUv) = surfaces.map (·.lightmapUv)) : surfaces' = surfaces := by
  induction surfaces' generalizing surfaces with
  | nil => simpa using hbare
  | cons s' rest' ih =>
      cases surfaces with
      | nil => simp at hbare
      | cons s rest =>
          simp only [List.map_cons, List.cons.injEq] at hbare huv
          have hhead : s' = s := by
            rcases s with ⟨geometry, material, uv⟩
            rcases s' with ⟨geometry', material', uv'⟩
            simp_all [Surface.bare]
          rw [hhead, ih hbare.2 huv.2]

/-- A mesh is its coordinates and what it is without them. -/
theorem Mesh.eq_of_bare {G M : Type} {mesh mesh' : Mesh G M} (hbare : mesh'.bare = mesh.bare)
    (hcoordinates : mesh'.coordinates = mesh.coordinates) : mesh' = mesh := by
  rcases mesh with ⟨name, surfaces, sizeHint⟩
  rcases mesh' with ⟨name', surfaces', sizeHint'⟩
  obtain ⟨rfl, hsurfaces⟩ : name' = name ∧ surfaces'.map Surface.bare = surfaces.map Surface.bare := by
    simpa [Mesh.bare] using hbare
  obtain ⟨huv, rfl⟩ : surfaces'.map (·.lightmapUv) = surfaces.map (·.lightmapUv) ∧ sizeHint' = sizeHint := by
    simpa [Mesh.coordinates] using hcoordinates
  rw [surfaces_eq_of_bare hsurfaces huv]

@[simp] theorem Mesh.bare_bare {G M : Type} (mesh : Mesh G M) : mesh.bare.bare = mesh.bare := by
  simp [Mesh.bare, Surface.bare, Function.comp_def]

/-- Meshes that are the same but for coordinates have the same form and the same materials. -/
theorem sameForm_of_bare {G : Type} {mesh mesh' : Mesh G Material} (h : mesh'.bare = mesh.bare) :
    SameForm mesh mesh' := by
  have hname : mesh'.bare.name = mesh.bare.name := by rw [h]
  have hsurfaces := congrArg (fun m : Mesh G Material => m.surfaces.map (·.geometry)) h
  refine ⟨hname, ?_⟩
  simpa [Mesh.bare, Surface.bare, Function.comp_def] using hsurfaces

theorem materials_eq_of_bare {G M : Type} {mesh mesh' : Mesh G M} (h : mesh'.bare = mesh.bare) :
    mesh'.surfaces.map (·.material) = mesh.surfaces.map (·.material) := by
  have hsurfaces := congrArg (fun m : Mesh G M => m.surfaces.map (·.material)) h
  simpa [Mesh.bare, Surface.bare, Function.comp_def] using hsurfaces

theorem sameForm_bare {G : Type} {mesh mesh' : Mesh G Material} (h : SameForm mesh mesh') :
    SameForm mesh.bare mesh'.bare := by
  refine ⟨h.1, ?_⟩
  simpa [Mesh.bare, Surface.bare, Function.comp_def] using h.2

/-- Baking sets coordinates and nothing else, and what it sets depends on the name and the geometry of a mesh but
not on its materials. -/
structure Lightmap.ByForm (bake : MeshValue → Matrix R → Float → Option MeshValue) : Prop where
  bare : ∀ {mesh transform texel baked}, bake mesh transform texel = some baked → baked.bare = mesh.bare
  coordinates : ∀ {mesh mesh' : MeshValue} (transform texel), SameForm mesh mesh' →
    (bake mesh' transform texel).map Mesh.coordinates = (bake mesh transform texel).map Mesh.coordinates

/-- Marking meshes is baking by form. -/
theorem Lightmap.byForm_marked : Lightmap.ByForm fun mesh (_ : Matrix R) _ => some (marked mesh) where
  bare := by
    rintro mesh transform texel _ ⟨⟩
    simp [marked, Mesh.bare, Surface.bare, Function.comp_def]
  coordinates := by
    intro mesh mesh' transform texel hsame
    have huv : ∀ m : MeshValue, (marked m).coordinates =
        ((m.surfaces.map (·.geometry)).map fun g => some (g.vertices.map fun _ => (0.0, 0.0)),
          some [.int 16, .int 16]) := by
      intro m
      simp [marked, Mesh.coordinates, Function.comp_def]
    rw [Option.map_some, Option.map_some, huv, huv, hsame.2]

/-! ## Materials -/

/-- What a name is matched with is what the material for it is matched with by its own name. -/
theorem Catalog.bestMatch_replacementFor {c : Catalog} {name : Json} {found : Option CatalogEntry}
    (hcase : c.kind.caseSensitive = true) (h : c.bestMatch name = .ok found) :
    c.bestMatch (replacementFor found).name = .ok found := by
  cases found with
  | some entry => exact Catalog.bestMatch_shortName hcase h
  | none =>
      -- a blank material has no name, and no name has no match
      obtain ⟨other, hother⟩ : ∃ other, c.bestMatch (.str "") = .ok other := ⟨_, rfl⟩
      cases Catalog.eq_none_of_bestMatch_empty hcase hother
      exact hother

/-- The material that is found for a name is found for its own name too. -/
theorem Session.supply_again {s : Session R} {settings : List (String × CatalogSettings)} {shelf : Shelf}
    (hshelf : Shelf.ofSettings s.disk settings = .ok shelf) (hcatalogs : s.shelf.catalogs = shelf.catalogs)
    {name : Json} {material : Material} (h : s.supply name = some material) :
    s.supply material.name = some material := by
  have hsame : s.supply = Session.supply { disk := s.disk, shelf := shelf } := Session.supply_eq rfl hcatalogs
  rw [hsame] at h ⊢
  rcases Session.supply_eq_some_iff.1 h with ⟨found, hfound, rfl, hfile⟩
  rcases bind_eq_ok_iff.1 hfound with ⟨catalog, hcatalog, hmatch⟩
  have hcase : catalog.kind.caseSensitive = true := by
    rw [Shelf.kind_of_materialCatalog hshelf hcatalog]
    rfl
  rw [Session.supply_eq_some_iff]
  exact ⟨found, bind_eq_ok_iff.2 ⟨catalog, hcatalog, Catalog.bestMatch_replacementFor hcase hmatch⟩, rfl, hfile⟩

/-! ## When a pass has nothing to do -/

namespace Rules

/-- A pass leaves a mesh instance as it is. -/
def Done (rules : Rules R) (kind : PassKind) (name : Json) (transform : Matrix R)
    (i : MeshInstance Geometry Material) : Prop :=
  rules.drawer kind name transform i = some i

/-- The mesh that is baked for a mesh, given the name and the transform of its node. -/
def Bakes (rules : Rules R) (name : Json) (transform : Matrix R) (mesh baked : MeshValue) : Prop :=
  (∃ factor, rules.grammar.nameValue name .texelMultiplier = .ok factor) ∧
    ∃ base, rules.texel = .ok base ∧
      rules.bake mesh.bare transform (base * rules.grammar.texelFactor name) = some baked

variable {rules : Rules R} {kind other : PassKind} {name : Json} {transform : Matrix R}
  {i i' : MeshInstance Geometry Material}

theorem bakeMesh_eq_some_iff : rules.bakeMesh name transform i = some i' ↔
    (i.mesh = none ∧ i' = i) ∨
      ∃ mesh baked, i.mesh = some mesh ∧ rules.Bakes name transform mesh baked ∧
        i' = { i with mesh := some baked } := by
  unfold bakeMesh
  cases hmesh : i.mesh with
  | none => simp [eq_comm]
  | some mesh =>
      simp only [reduceCtorEq, false_and, false_or, Option.bind_eq_some_iff, onAnswer_eq_some_iff,
        toOption_eq_some_iff, Option.map_eq_some_iff, Option.some.injEq, Bakes]
      constructor
      · rintro ⟨-, ⟨hfactor, -⟩, base, hbase, baked, hbaked, rfl⟩
        exact ⟨mesh, baked, rfl, ⟨hfactor, base, hbase, hbaked⟩, rfl⟩
      · rintro ⟨_, baked, rfl, ⟨hfactor, base, hbase, hbaked⟩, rfl⟩
        exact ⟨(), ⟨hfactor, trivial⟩, base, hbase, baked, hbaked, rfl⟩

theorem dress_eq_some_iff : rules.dress name transform i = some i' ↔
    (i.mesh = none ∧ i' = i) ∨
      ∃ mesh dressed, i.mesh = some mesh ∧ mesh.redress rules.material = some dressed ∧
        i' = { i with mesh := some dressed } := by
  unfold dress
  cases hmesh : i.mesh with
  | none => simp [eq_comm]
  | some mesh =>
      simp only [reduceCtorEq, false_and, false_or, Option.map_eq_some_iff, Option.some.injEq]
      constructor
      · rintro ⟨dressed, hdressed, rfl⟩
        exact ⟨mesh, dressed, rfl, hdressed, rfl⟩
      · rintro ⟨_, dressed, rfl, hdressed, rfl⟩
        exact ⟨dressed, hdressed, rfl⟩

theorem light_eq_some_iff : rules.light name transform i = some i' ↔
    (i.mesh.isSome = true → ∃ found, rules.grammar.nameHas name .noBake = .ok found) ∧
      i' = if i.mesh.isSome then i.asLit rules.grammar name else i := by
  unfold light
  cases i.mesh.isSome with
  | false => simp [eq_comm]
  | true => simp [onAnswer_eq_some_iff]

theorem done_renderRemoval_iff : rules.Done .renderRemoval name transform i ↔
    (∃ asked, rules.grammar.asksToHide name = .ok asked) ∧
      (rules.grammar.hides name = true → i.mesh = none ∧ i.ignoreOcclusionCulling = true) := by
  unfold Done
  rw [show rules.drawer .renderRemoval = rules.hide from rfl, hide, onAnswer_eq_some_iff]
  refine and_congr Iff.rfl ?_
  unfold MeshInstance.asHidden
  cases rules.grammar.hides name with
  | false => simp
  | true =>
      rcases i with ⟨mesh, castShadow, giMode, layers, ignoreOcclusionCulling⟩
      simp

theorem done_shadow_iff : rules.Done .shadow name transform i ↔
    (∃ found, rules.grammar.nameHas name .noShadow = .ok found) ∧
      i.castShadow = if rules.grammar.carries name .noShadow then .off else .doubleSided := by
  unfold Done
  rw [show rules.drawer .shadow = rules.shade from rfl, shade, onAnswer_eq_some_iff]
  refine and_congr Iff.rfl ?_
  rcases i with ⟨mesh, castShadow, giMode, layers, ignoreOcclusionCulling⟩
  simp [MeshInstance.asShadowing]

theorem done_renderLayer_iff : rules.Done .renderLayer name transform i ↔
    (∃ value, rules.grammar.nameValue name .renderLayer = .ok value) ∧
      ∀ n, rules.grammar.layers? name = some n → i.layers = n := by
  unfold Done
  rw [show rules.drawer .renderLayer = rules.layer from rfl, layer, onAnswer_eq_some_iff]
  refine and_congr Iff.rfl ?_
  rcases i with ⟨mesh, castShadow, giMode, layers, ignoreOcclusionCulling⟩
  unfold MeshInstance.asLayered
  cases rules.grammar.layers? name <;> simp

theorem done_lightmap_iff : rules.Done .lightmap name transform i ↔ ∀ mesh, i.mesh = some mesh →
    rules.Bakes name transform mesh mesh ∧ (∃ found, rules.grammar.nameHas name .noBake = .ok found) ∧
      (rules.grammar.carries name .noBake = true → i.giMode = .dynamic) := by
  have hdone : rules.Done .lightmap name transform i ↔
      ∃ j, rules.bakeMesh name transform i = some j ∧ rules.light name transform j = some i :=
    Option.bind_eq_some_iff
  have hlit : i = i.asLit rules.grammar name ↔
      (rules.grammar.carries name .noBake = true → i.giMode = .dynamic) := by
    rcases i with ⟨mesh, castShadow, giMode, layers, ignoreOcclusionCulling⟩
    unfold MeshInstance.asLit
    cases rules.grammar.carries name .noBake <;> simp
  rw [hdone, ← hlit]
  constructor
  · rintro ⟨j, hbaked, hlight⟩ mesh hmesh
    rcases bakeMesh_eq_some_iff.1 hbaked with ⟨hnone, -⟩ | ⟨_, baked, hmesh', hbakes, rfl⟩
    · cases hnone.symm.trans hmesh
    cases hmesh'.symm.trans hmesh
    rcases light_eq_some_iff.1 hlight with ⟨hanswer, hi⟩
    have hi : i = MeshInstance.asLit rules.grammar name { i with mesh := some baked } := hi
    -- lighting leaves the mesh, so it has been baked already
    have hsame : i.mesh = some baked := by
      rw [hi]
      exact MeshInstance.mesh_asLit rules.grammar name _
    cases hmesh.symm.trans hsame
    have hstay : ({ i with mesh := some mesh } : MeshInstance Geometry Material) = i := by
      rw [← hmesh]
    rw [hstay] at hi
    exact ⟨hbakes, hanswer rfl, hi⟩
  · intro h
    cases hmesh : i.mesh with
    | none =>
        exact ⟨i, bakeMesh_eq_some_iff.2 (Or.inl ⟨hmesh, rfl⟩),
          light_eq_some_iff.2 ⟨by simp [hmesh], by simp [hmesh]⟩⟩
    | some mesh =>
        rcases h mesh hmesh with ⟨hbakes, hanswer, hi⟩
        refine ⟨i, bakeMesh_eq_some_iff.2 (Or.inr ⟨mesh, mesh, hmesh, hbakes, by rw [← hmesh]⟩), ?_⟩
        rw [light_eq_some_iff, hmesh]
        exact ⟨fun _ => hanswer, hi⟩

end Rules

theorem redress_eq_self_iff {G : Type} {supply : Json → Option Material} {mesh : Mesh G Material} :
    mesh.redress supply = some mesh ↔ ∀ v ∈ mesh.surfaces.map (·.material),
      ∃ material, v = some material ∧ supply material.name = some material := by
  -- a surface is left as it is if its own material is found for the name of this material
  have hsurface : ∀ s : Surface G Material,
      (∃ material, supply s.materialName = some material ∧ s = { s with material := some material }) ↔
        ∃ material, s.material = some material ∧ supply material.name = some material := by
    intro s
    refine exists_congr fun material => ?_
    constructor
    · rintro ⟨hsupply, hs⟩
      have hmaterial : s.material = some material := by rw [hs]
      rw [Surface.materialName, hmaterial] at hsupply
      exact ⟨hmaterial, hsupply⟩
    · rintro ⟨hmaterial, hsupply⟩
      rw [Surface.materialName, hmaterial]
      exact ⟨hsupply, by rw [← hmaterial]⟩
  rw [redress_eq_some_iff, List.forall_mem_map]
  constructor
  · rintro ⟨surfaces, hall, hmesh⟩ s hs
    have hsurfaces : surfaces = mesh.surfaces := (congrArg Mesh.surfaces hmesh).symm
    rw [hsurfaces, List.forall₂_same] at hall
    exact (hsurface s).1 (hall s hs)
  · intro h
    exact ⟨mesh.surfaces, List.forall₂_same.2 fun s hs => (hsurface s).2 (h s hs), rfl⟩

/-- New materials leave the form and the coordinates of a mesh. -/
theorem form_of_redress {G : Type} {supply : Json → Option Material} {mesh mesh' : Mesh G Material}
    (h : mesh.redress supply = some mesh') :
    SameForm mesh mesh' ∧ mesh'.coordinates = mesh.coordinates := by
  rcases redress_eq_some_iff.1 h with ⟨surfaces, hall, rfl⟩
  have hkept : surfaces.map (·.geometry) = mesh.surfaces.map (·.geometry) ∧
      surfaces.map (·.lightmapUv) = mesh.surfaces.map (·.lightmapUv) := by
    clear h
    generalize mesh.surfaces = old at hall ⊢
    induction hall with
    | nil => exact ⟨rfl, rfl⟩
    | cons hhead _ ih =>
        rcases hhead with ⟨material, -, rfl⟩
        simp only [List.map_cons, ih.1, ih.2, true_and]
  exact ⟨⟨rfl, hkept.1⟩, Prod.ext hkept.2 rfl⟩

namespace Rules

variable {rules : Rules R} {kind other : PassKind} {name : Json} {transform : Matrix R}
  {i i' : MeshInstance Geometry Material}

theorem done_material_iff : rules.Done .material name transform i ↔ ∀ mesh, i.mesh = some mesh →
    ∀ v ∈ mesh.surfaces.map (·.material),
      ∃ material, v = some material ∧ rules.material material.name = some material := by
  -- without a mesh there is nothing to do, and with one it is its mesh that has to stay
  have hdone : rules.Done .material name transform i ↔
      ∀ mesh, i.mesh = some mesh → mesh.redress rules.material = some mesh := by
    unfold Done
    rw [show rules.drawer .material = rules.dress from rfl, dress_eq_some_iff]
    constructor
    · rintro (⟨hnone, -⟩ | ⟨_, dressed, hmesh', hdressed, hi⟩) mesh hmesh
      · cases hnone.symm.trans hmesh
      · cases hmesh'.symm.trans hmesh
        have hsame : i.mesh = some dressed := by rw [hi]
        cases hmesh.symm.trans hsame
        exact hdressed
    · intro h
      cases hmesh : i.mesh with
      | none => exact Or.inl ⟨rfl, rfl⟩
      | some mesh => exact Or.inr ⟨mesh, mesh, rfl, h mesh hmesh, by rw [← hmesh]⟩
  rw [hdone]
  exact forall₂_congr fun mesh _ => redress_eq_self_iff

/-! ## What a pass leaves to the others -/

/-- A mesh instance after a pass: every pass has its own part of it to change. -/
structure Redraws (kind : PassKind) (i i' : MeshInstance Geometry Material) : Prop where
  castShadow : kind ≠ .shadow → i'.castShadow = i.castShadow
  giMode : kind ≠ .lightmap → i'.giMode = i.giMode
  layers : kind ≠ .renderLayer → i'.layers = i.layers
  ignoreOcclusionCulling : kind ≠ .renderRemoval → i'.ignoreOcclusionCulling = i.ignoreOcclusionCulling
  mesh : ∀ mesh', i'.mesh = some mesh' → ∃ mesh, i.mesh = some mesh ∧
    (kind ≠ .material → mesh'.bare = mesh.bare) ∧
      (kind ≠ .lightmap → SameForm mesh mesh' ∧ mesh'.coordinates = mesh.coordinates)

/-- A pass that leaves the mesh changes at most how it is drawn. -/
theorem redraws_of_mesh_eq (hmesh : i'.mesh = i.mesh) (hcast : kind ≠ .shadow → i'.castShadow = i.castShadow)
    (hgi : kind ≠ .lightmap → i'.giMode = i.giMode) (hlayers : kind ≠ .renderLayer → i'.layers = i.layers)
    (hignore : kind ≠ .renderRemoval → i'.ignoreOcclusionCulling = i.ignoreOcclusionCulling) :
    Redraws kind i i' where
  castShadow := hcast
  giMode := hgi
  layers := hlayers
  ignoreOcclusionCulling := hignore
  mesh mesh' hmesh' := ⟨mesh', hmesh ▸ hmesh', fun _ => rfl, fun _ => ⟨⟨rfl, rfl⟩, rfl⟩⟩

theorem redraws_of_drawer (hbake : Lightmap.ByForm rules.bake)
    (h : rules.drawer kind name transform i = some i') : Redraws kind i i' := by
  cases kind with
  | collision =>
      cases h
      exact redraws_of_mesh_eq rfl (fun _ => rfl) (fun _ => rfl) (fun _ => rfl) fun _ => rfl
  | renderRemoval =>
      rcases onAnswer_eq_some_iff.1 h with ⟨-, rfl⟩
      unfold MeshInstance.asHidden
      cases rules.grammar.hides name with
      | false => exact redraws_of_mesh_eq rfl (fun _ => rfl) (fun _ => rfl) (fun _ => rfl) fun _ => rfl
      | true => exact ⟨fun _ => rfl, fun _ => rfl, fun _ => rfl, fun hne => absurd rfl hne, fun _ => nofun⟩
  | lightmap =>
      rcases Option.bind_eq_some_iff.1 h with ⟨j, hbaked, hlight⟩
      have hlit : i'.mesh = j.mesh ∧ i'.castShadow = j.castShadow ∧ i'.layers = j.layers ∧
          i'.ignoreOcclusionCulling = j.ignoreOcclusionCulling := by
        rcases light_eq_some_iff.1 hlight with ⟨-, rfl⟩
        unfold MeshInstance.asLit
        split_ifs <;> exact ⟨rfl, rfl, rfl, rfl⟩
      rcases hlit with ⟨hmesh, hcast, hlayers, hignore⟩
      -- lighting leaves the mesh alone, and baking gives it coordinates and nothing else
      rcases bakeMesh_eq_some_iff.1 hbaked with ⟨-, rfl⟩ | ⟨mesh, baked, hold, hbakes, rfl⟩
      · exact redraws_of_mesh_eq hmesh (fun _ => hcast) (fun hne => absurd rfl hne) (fun _ => hlayers)
          fun _ => hignore
      · refine ⟨fun _ => hcast, fun hne => absurd rfl hne, fun _ => hlayers, fun _ => hignore, ?_⟩
        intro mesh' hmesh'
        cases hmesh.symm.trans hmesh'
        refine ⟨mesh, hold, fun _ => ?_, fun hne => absurd rfl hne⟩
        rcases hbakes with ⟨-, base, -, hbaked⟩
        exact (hbake.bare hbaked).trans mesh.bare_bare
  | shadow =>
      rcases onAnswer_eq_some_iff.1 h with ⟨-, rfl⟩
      exact redraws_of_mesh_eq rfl (fun hne => absurd rfl hne) (fun _ => rfl) (fun _ => rfl) fun _ => rfl
  | renderLayer =>
      rcases onAnswer_eq_some_iff.1 h with ⟨-, rfl⟩
      unfold MeshInstance.asLayered
      cases rules.grammar.layers? name with
      | none => exact redraws_of_mesh_eq rfl (fun _ => rfl) (fun _ => rfl) (fun _ => rfl) fun _ => rfl
      | some n =>
          exact redraws_of_mesh_eq rfl (fun _ => rfl) (fun _ => rfl) (fun hne => absurd rfl hne) fun _ => rfl
  | material =>
      have hdress : rules.dress name transform i = some i' := h
      rcases dress_eq_some_iff.1 hdress with ⟨-, rfl⟩ | ⟨mesh, dressed, hmesh, hdressed, rfl⟩
      · exact redraws_of_mesh_eq rfl (fun _ => rfl) (fun _ => rfl) (fun _ => rfl) fun _ => rfl
      · refine ⟨fun _ => rfl, fun _ => rfl, fun _ => rfl, fun _ => rfl, ?_⟩
        rintro _ ⟨⟩
        exact ⟨mesh, hmesh, fun hne => absurd rfl hne, fun _ => form_of_redress hdressed⟩

/-- A mesh with coordinates like those that are baked for one of the same form is baked already. -/
theorem bakes_of_coordinates {mesh baked mesh' : MeshValue} (hbake : Lightmap.ByForm rules.bake)
    (h : rules.Bakes name transform mesh baked) (hform : SameForm mesh mesh')
    (hcoordinates : mesh'.coordinates = baked.coordinates) : rules.Bakes name transform mesh' mesh' := by
  rcases h with ⟨hfactor, base, hbase, hbaked⟩
  refine ⟨hfactor, base, hbase, ?_⟩
  have hset := hbake.coordinates transform (base * rules.grammar.texelFactor name) (sameForm_bare hform)
  rw [hbaked, Option.map_some] at hset
  rcases Option.map_eq_some_iff.1 hset with ⟨baked', hbaked', hsame⟩
  have hbare : mesh'.bare = baked'.bare := by rw [hbake.bare hbaked', Mesh.bare_bare]
  rw [hbaked', Mesh.eq_of_bare hbare (hcoordinates.trans hsame.symm)]

/-! ## Nothing to do again -/

/-- A pass that has nothing to do gets nothing to do by another. -/
theorem Done.of_other (hbake : Lightmap.ByForm rules.bake) (hdone : rules.Done kind name transform i)
    (hother : other ≠ kind) (h : rules.drawer other name transform i = some i') :
    rules.Done kind name transform i' := by
  -- what a pass has to do is told by what only this pass changes, or by the form and the materials of the
  -- mesh
  have hredraws := redraws_of_drawer hbake h
  cases kind with
  | collision => rfl
  | renderRemoval =>
      rw [done_renderRemoval_iff] at hdone ⊢
      refine ⟨hdone.1, fun hhides => ?_⟩
      rcases hdone.2 hhides with ⟨hnone, hignore⟩
      constructor
      · rw [Option.eq_none_iff_forall_ne_some]
        intro mesh' hmesh'
        rcases hredraws.mesh mesh' hmesh' with ⟨mesh, hmesh, -⟩
        cases hnone.symm.trans hmesh
      · rw [hredraws.ignoreOcclusionCulling hother, hignore]
  | lightmap =>
      rw [done_lightmap_iff] at hdone ⊢
      intro mesh' hmesh'
      rcases hredraws.mesh mesh' hmesh' with ⟨mesh, hmesh, -, hkept⟩
      rcases hdone mesh hmesh with ⟨hbakes, hanswer, hgi⟩
      rcases hkept hother with ⟨hform, hcoordinates⟩
      refine ⟨bakes_of_coordinates hbake hbakes hform hcoordinates, hanswer, fun hcarries => ?_⟩
      rw [hredraws.giMode hother, hgi hcarries]
  | shadow =>
      rw [done_shadow_iff] at hdone ⊢
      rw [hredraws.castShadow hother]
      exact hdone
  | renderLayer =>
      rw [done_renderLayer_iff] at hdone ⊢
      rw [hredraws.layers hother]
      exact hdone
  | material =>
      rw [done_material_iff] at hdone ⊢
      intro mesh' hmesh'
      rcases hredraws.mesh mesh' hmesh' with ⟨mesh, hmesh, hbare, -⟩
      rw [materials_eq_of_bare (hbare hother)]
      exact hdone mesh hmesh

theorem Done.of_drawer (hbake : Lightmap.ByForm rules.bake) (hdone : rules.Done kind name transform i)
    (h : rules.drawer other name transform i = some i') : rules.Done kind name transform i' := by
  by_cases hother : other = kind
  · subst hother
    have hsame : rules.drawer other name transform i = some i := hdone
    cases hsame.symm.trans h
    exact hdone
  · exact hdone.of_other hbake hother h

/-- Materials are left as they are once they were replaced. -/
theorem done_material_again
    (hmaterial : ∀ {name material}, rules.material name = some material →
      rules.material material.name = some material)
    (h : rules.dress name transform i = some i') : rules.Done .material name transform i' := by
  rw [done_material_iff]
  intro mesh' hmesh' v hv
  rcases dress_eq_some_iff.1 h with ⟨hnone, rfl⟩ | ⟨mesh, dressed, -, hdressed, rfl⟩
  · cases hnone.symm.trans hmesh'
  cases hmesh'
  rcases redress_eq_some_iff.1 hdressed with ⟨surfaces, hall, rfl⟩
  rcases List.mem_map.1 hv with ⟨surface, hsurface, rfl⟩
  rcases exists_of_mem_results hall hsurface with ⟨old, -, material, hsupply, rfl⟩
  exact ⟨material, rfl, hmaterial hsupply⟩

/-- A pass has nothing left to do once it was run. -/
theorem done_again (hbake : Lightmap.ByForm rules.bake)
    (hmaterial : ∀ {name material}, rules.material name = some material →
      rules.material material.name = some material)
    (h : rules.drawer kind name transform i = some i') : rules.Done kind name transform i' := by
  cases kind with
  | collision => rfl
  | renderRemoval =>
      rcases onAnswer_eq_some_iff.1 h with ⟨hanswer, rfl⟩
      refine done_renderRemoval_iff.2 ⟨hanswer, fun hhides => ?_⟩
      rw [MeshInstance.asHidden, if_pos hhides]
      exact ⟨rfl, rfl⟩
  | lightmap =>
      rcases Option.bind_eq_some_iff.1 h with ⟨j, hbaked, hlight⟩
      rcases light_eq_some_iff.1 hlight with ⟨hanswer, hi'⟩
      rw [done_lightmap_iff]
      intro mesh' hmesh'
      -- lighting came last and did not touch the mesh
      have hmesh : j.mesh = some mesh' := by
        rw [hi'] at hmesh'
        split_ifs at hmesh'
        · simpa using hmesh'
        · exact hmesh'
      rw [hmesh] at hanswer hi'
      refine ⟨?_, hanswer rfl, fun hcarries => ?_⟩
      · rcases bakeMesh_eq_some_iff.1 hbaked with ⟨hnone, rfl⟩ | ⟨mesh, baked, -, hbakes, rfl⟩
        · cases hnone.symm.trans hmesh
        cases hmesh
        rcases hbakes with ⟨hfactor, base, hbase, hbaked⟩
        have hbare : mesh'.bare = mesh.bare := (hbake.bare hbaked).trans mesh.bare_bare
        exact bakes_of_coordinates hbake ⟨hfactor, base, hbase, hbaked⟩ (sameForm_of_bare hbare) rfl
      · rw [hi', Option.isSome_some, if_pos rfl, MeshInstance.asLit, if_pos hcarries]
  | shadow =>
      rcases onAnswer_eq_some_iff.1 h with ⟨hanswer, rfl⟩
      exact done_shadow_iff.2 ⟨hanswer, rfl⟩
  | renderLayer =>
      rcases onAnswer_eq_some_iff.1 h with ⟨hanswer, rfl⟩
      refine done_renderLayer_iff.2 ⟨hanswer, fun n hn => ?_⟩
      rw [MeshInstance.asLayered, hn]
  | material => exact done_material_again hmaterial h

/-! ## Passes run twice -/

/-- What passes make of a mesh instance, one after another. -/
def draw (rules : Rules R) (passes : List PassKind) : Drawer R := fun name transform i =>
  passes.foldlM (fun i kind => rules.drawer kind name transform i) i

theorem Done.of_draw {passes : List PassKind} (hbake : Lightmap.ByForm rules.bake)
    (hdone : rules.Done kind name transform i) (h : rules.draw passes name transform i = some i') :
    rules.Done kind name transform i' := by
  induction passes generalizing i with
  | nil =>
      cases h
      exact hdone
  | cons other rest ih =>
      rcases Option.bind_eq_some_iff.1 h with ⟨j, hj, hrest⟩
      exact ih (hdone.of_drawer hbake hj) hrest

theorem draw_eq_self {passes : List PassKind} (h : ∀ kind ∈ passes, rules.Done kind name transform i) :
    rules.draw passes name transform i = some i := by
  induction passes with
  | nil => rfl
  | cons kind rest ih =>
      rcases List.forall_mem_cons.1 h with ⟨hfirst, hrest⟩
      exact Option.bind_eq_some_iff.2 ⟨i, hfirst, ih hrest⟩

/-- Passes have nothing left to do once they were run. -/
theorem draw_again {passes : List PassKind} (hbake : Lightmap.ByForm rules.bake)
    (hmaterial : ∀ {name material}, rules.material name = some material →
      rules.material material.name = some material)
    (h : rules.draw passes name transform i = some i') : rules.draw passes name transform i' = some i' := by
  refine draw_eq_self fun kind hkind => ?_
  induction passes generalizing i with
  | nil => cases hkind
  | cons first rest ih =>
      rcases Option.bind_eq_some_iff.1 h with ⟨j, hj, hrest⟩
      rcases List.mem_cons.1 hkind with rfl | hkind
      · exact (done_again hbake hmaterial hj).of_draw hbake hrest
      · exact ih hrest hkind

section

variable [Zero R] [One R] [Add R] [Mul R]

/-- Passes that add no bodies draw every mesh instance anew. -/
theorem work_eq_remake {passes : List PassKind} (hpasses : .collision ∉ passes) (level : Json)
    (d : Snapshot Geometry R) : rules.work level passes d = d.remake (rules.draw passes).maker := by
  induction passes generalizing d with
  | nil =>
      refine (Snapshot.remake_eq_self (fun _ _ payload => ?_) d).symm
      cases payload <;> rfl
  | cons kind rest ih =>
      rw [List.mem_cons, not_or] at hpasses
      have himage : kind.image rules level d = d.remake (rules.drawer kind).maker :=
        PassKind.image_eq_remake fun hkind => hpasses.1 hkind.symm
      have hdraw : (rules.draw (kind :: rest)).maker =
          (rules.drawer kind).maker.andThen (rules.draw rest).maker :=
        Drawer.maker_bind (rules.drawer kind) (rules.draw rest)
      rw [hdraw, Snapshot.remake_andThen, ← himage]
      show (kind.image rules level d).bind (rules.work level rest) = _
      exact congrArg _ (funext (ih hpasses.2))

/-- What passes have made of a tree is as they want it, also when marked trees have been left out. -/
theorem work_again {passes : List PassKind} (hpasses : .collision ∉ passes) (hbake : Lightmap.ByForm rules.bake)
    (hmaterial : ∀ {name material}, rules.material name = some material →
      rules.material material.name = some material)
    {level : Json} {d d' : Snapshot Geometry R} (h : rules.work level passes d = some d') :
    rules.work level passes d'.flushed = some d'.flushed := by
  rw [work_eq_remake hpasses] at h ⊢
  refine Snapshot.remake_flushed (Snapshot.remake_again ?_ h)
  intro name transform payload payload' hmade
  cases payload with
  | meshInstance i =>
      rcases Option.map_eq_some_iff.1 hmade with ⟨i', hi', rfl⟩
      exact Option.map_eq_some_iff.2 ⟨i', draw_again hbake hmaterial hi', rfl⟩
  | plain | staticBody | collisionShape =>
      cases hmade
      rfl

end

end Rules

end LevelPrep
