import LevelPrep.Proofs.Pass.Looks

/-!
# Materials that take the place of others

Replacing the materials of a node, surface by surface, dresses what is seen of it
(`restyled_of_replaceMaterials`): the name of a material is read before it is replaced, and the materials of
the other surfaces are still those from the start.
-/

namespace LevelPrep

variable {R : Type} {s s' t : Session R} {id : NodeId}

/-! ## One material -/

/-- What is known of a material that was found for a name, and of the session then. -/
structure Supplied (name : Json) (material : MaterialId) (s s' : Session R) : Prop where
  graph : s'.stage.graph = s.stage.graph
  resources : s.stage.resources.Extends s'.stage.resources
  catalogs : s'.shelf.catalogs = s.shelf.catalogs
  holds : s'.shelf.Holds s'.stage.resources
  has : s'.stage.resources.HasMaterial material
  found : ∃ found, s.shelf.materialFor name = .ok found ∧
    s'.stage.resources.material material = replacementFor found

theorem supplied_of_takesMaterial {name : Json} {material : MaterialId} (hs : Orderly s)
    (h : TakesMaterial name s material s') : Supplied name material s s' := by
  cases h with
  | blank hnone journal =>
      have hext := Resources.Extends.addMaterial s.stage.resources {}
      exact ⟨rfl, hext, rfl, hs.holds.of_extends hext, Resources.hasMaterial_addMaterial _ _, none, hnone,
        Resources.material_addMaterial_self _ _⟩
  | @kept entry _ hentry hkept =>
      rcases hs.holds name entry material hentry hkept with ⟨hhas, hvalue⟩
      exact ⟨rfl, .refl _, rfl, hs.holds, hhas, some entry, hentry, hvalue⟩
  | @loaded entry m hentry hnew hmaterial =>
      have hext := Resources.Extends.addMaterial s.stage.resources m
      have hvalue : m = entry.material := hmaterial
      refine ⟨rfl, hext, rfl, ?_, Resources.hasMaterial_addMaterial _ _, some entry, hentry, ?_⟩
      · -- the new material is kept under its identifier, which stands for one entry only
        intro name' entry' id' hentry' hkept'
        rw [List.lookup_cons] at hkept'
        split at hkept'
        · next hid =>
            cases hkept'
            have heq := hs.listed.eq_of_assetId hentry' hentry (by simpa using hid)
            rw [heq, ← hvalue]
            exact ⟨Resources.hasMaterial_addMaterial _ _, Resources.material_addMaterial_self _ _⟩
        · exact hs.holds.of_extends hext name' entry' id' hentry' hkept'
      · rw [Resources.material_addMaterial_self]
        exact hvalue

/-! ## One surface -/

theorem of_setSurfaceMaterial {mesh replaced : LiveMesh} {surface : Nat} {material : Option MaterialId}
    (h : mesh.setSurfaceMaterial surface material = .ok replaced) :
    surface < mesh.surfaces.length ∧ replaced =
      { mesh with surfaces := mesh.surfaces.modify surface fun s => { s with material := material } } := by
  unfold LiveMesh.setSurfaceMaterial at h
  split at h
  · next place hplace =>
      have hlt := lt_of_place? hplace
      have hsame : place = surface := by
        simp only [place?, Int.natCast_nonneg, if_true, Int.toNat_natCast] at hplace
        split_ifs at hplace
        exact (Option.some.inj hplace).symm
      subst hsame
      exact ⟨hlt, (Except.ok.inj h).symm⟩
  · cases h

/-- A mesh one surface of which is given a good material refers to what is there, if it did so before. -/
theorem Mesh.Known.of_setSurfaceMaterial {r r' : Resources} {mesh replaced : LiveMesh} {surface : Nat}
    {material : MaterialId} (h : Mesh.Known r mesh) (hext : r.Extends r') (hmaterial : r'.HasMaterial material)
    (hset : mesh.setSurfaceMaterial surface (some material) = .ok replaced) : Mesh.Known r' replaced := by
  rcases LevelPrep.of_setSurfaceMaterial hset with ⟨-, rfl⟩
  intro v hv
  rcases List.mem_iff_getElem.1 hv with ⟨k, hk, rfl⟩
  simp only [List.length_modify] at hk
  have hold := (hext.surface (h _ (List.getElem_mem hk))).1
  rw [List.getElem_modify]
  split_ifs
  · exact ⟨hold.geometry, by rintro _ ⟨⟩; exact hmaterial⟩
  · exact hold

/-- One surface of a mesh instance has the material that takes the place of its own. -/
def DressedAt (answer : Json → Except Fault (Option CatalogEntry)) (place : Nat)
    (i i' : MeshInstance Geometry Material) : Prop :=
  ∃ mesh surface dressed, i.mesh = some mesh ∧ mesh.surfaces[place]? = some surface ∧
    surface.dress answer = .ok dressed ∧
    i' = { i with mesh := some { mesh with surfaces := mesh.surfaces.set place dressed } }

/-- A mesh that is given a material looks like the mesh with what the material stands for. -/
theorem bare_meshValue_modify (r : Resources) (mesh : LiveMesh) {place : Nat} (material : MaterialId)
    (hplace : place < mesh.surfaces.length) :
    (r.meshValue { mesh with
      surfaces := mesh.surfaces.modify place fun s => { s with material := some material } }).bare =
      { (r.meshValue mesh).bare with
        surfaces := (r.meshValue mesh).bare.surfaces.set place
          { geometry := r.geometry (mesh.surfaces[place]).geometry
            material := some (r.material material) } } := by
  unfold Mesh.bare Resources.meshValue Mesh.map
  congr 1
  refine List.ext_getElem? fun k => ?_
  by_cases hk : place = k
  · subst hk
    simp [hplace, Surface.map, Surface.bare]
  · simp [hk]

theorem surfaceMaterialName_eq (r : Resources) {mesh : LiveMesh} {place : Nat}
    (hplace : place < mesh.surfaces.length) :
    surfaceMaterialName r mesh place = (r.surfaceValue mesh.surfaces[place]).bare.materialName := by
  unfold surfaceMaterialName Surface.materialName
  rw [List.getElem?_eq_getElem hplace]
  cases hm : (mesh.surfaces[place]).material <;>
    simp [Resources.surfaceValue, Surface.map, Surface.bare, hm]

theorem restyled_of_rematerialed {place : Nat} (hs : Orderly s) (hshown : s.stage.graph.mesh? id ≠ none)
    (h : Rematerialed id place s s') :
    Restyled id (DressedAt s.shelf.materialFor place) s s' := by
  cases h with
  | noMesh hmesh => exact absurd hmesh hshown
  | @replaced mesh replaced material t hmesh hmaterial hreplaced journal =>
      have hsupplied := supplied_of_takesMaterial hs hmaterial
      have hknown := hs.sound id mesh hmesh
      rcases of_setSurfaceMaterial hreplaced with ⟨hlt, hset⟩
      rcases hsupplied.found with ⟨found, hfound, hvalue⟩
      refine restyled_of_modify hs (fun i => { i with mesh := some replaced }) (by rw [hsupplied.graph])
        hsupplied.resources hsupplied.catalogs hsupplied.holds fun i hi => ⟨?_, ?_⟩
      · rintro _ ⟨⟩
        exact hknown.of_setSurfaceMaterial hsupplied.resources hsupplied.has hreplaced
      · have himesh : i.mesh = some mesh := by simpa [SceneGraph.mesh?, hi] using hmesh
        -- the new material may be a new resource, and what was there before is still the same
        have hgeometry := (hsupplied.resources.hasGeometry (hknown _ (List.getElem_mem hlt)).geometry).2
        let surface := (s.stage.resources.surfaceValue mesh.surfaces[place]).bare
        refine ⟨(s.stage.resources.meshValue mesh).bare, surface,
          { surface with material := some (replacementFor found) }, ?_, ?_, ?_, ?_⟩
        · simp [Resources.look, himesh]
        · simp [Mesh.bare, Resources.meshValue, Mesh.map, surface, Resources.surfaceValue, hlt]
        · unfold Surface.dress
          rw [← surfaceMaterialName_eq _ hlt, hfound]
          rfl
        · show (t.stage.resources.look { i with mesh := some replaced }) = _
          unfold Resources.look
          simp only [Option.map_some, hset, bare_meshValue_modify _ _ _ hlt,
            (hsupplied.resources.mesh hknown).2, hgeometry, hvalue]
          rfl

/-! ## All surfaces -/

/-- The surface that a node shows at a place. -/
def surfaceAt (id : NodeId) (s : Session R) (place : Nat) : Option (Surface Geometry Material) :=
  ((s.stage.look id).bind (·.mesh)).bind (·.surfaces[place]?)

/-- A mesh all surfaces of which are dressed is dressed. -/
theorem dress_eq_of_surfaces {answer : Json → Except Fault (Option CatalogEntry)}
    {i : MeshInstance Geometry Material} {mesh : MeshValue} {surfaces : List (Surface Geometry Material)}
    (hmesh : i.mesh = some mesh) (hlength : surfaces.length = mesh.surfaces.length)
    (hall : ∀ place < mesh.surfaces.length, ∃ surface dressed, mesh.surfaces[place]? = some surface ∧
      surfaces[place]? = some dressed ∧ surface.dress answer = .ok dressed) :
    i.dress answer = .ok { i with mesh := some { mesh with surfaces := surfaces } } := by
  have hsurfaces : mesh.surfaces.mapM (Surface.dress answer) = .ok surfaces := by
    refine mapM_of_forall₂ (List.forall₂_iff_get.2 ⟨hlength.symm, fun place h₁ h₂ => ?_⟩)
    rcases hall place h₁ with ⟨surface, dressed, hsurface, hdressed, hdress⟩
    rw [List.getElem?_eq_getElem h₁] at hsurface
    rw [List.getElem?_eq_getElem h₂] at hdressed
    rw [List.get_eq_getElem, List.get_eq_getElem, Option.some.inj hsurface, Option.some.inj hdressed]
    exact hdress
  unfold MeshInstance.dress
  rw [hmesh]
  refine bind_eq_ok_iff.2 ⟨{ mesh with surfaces := surfaces }, ?_, rfl⟩
  exact bind_eq_ok_iff.2 ⟨surfaces, hsurfaces, rfl⟩

/-- A session in which the materials of one node are being replaced: nothing is seen to change but the
surfaces of its mesh. -/
structure Dressing (id : NodeId) (i : MeshInstance Geometry Material) (mesh : MeshValue) (s t : Session R) :
    Prop where
  orderly : Orderly t
  name_eq : ∀ x, t.stage.graph.name x = s.stage.graph.name x
  catalogs : t.shelf.catalogs = s.shelf.catalogs
  others : ∀ x, x ≠ id → t.stage.look x = s.stage.look x
  self : ∃ surfaces, t.stage.look id = some { i with mesh := some { mesh with surfaces := surfaces } } ∧
    surfaces.length = mesh.surfaces.length

/-- One more surface of the node is dressed. -/
theorem Dressing.round {i : MeshInstance Geometry Material} {mesh : MeshValue} {place : Nat}
    {t' : Session R} (h : Dressing id i mesh s t)
    (hstep : (Rendering.replaceMaterial id place).runIn t = (.ok (), t')) :
    Dressing id i mesh s t' ∧
      (∃ surface dressed, surfaceAt id t place = some surface ∧ surfaceAt id t' place = some dressed ∧
        surface.dress s.shelf.materialFor = .ok dressed) ∧
      ∀ other, other ≠ place → surfaceAt id t' other = surfaceAt id t other := by
  rcases h.self with ⟨surfaces, hlook, hlength⟩
  have hshown : t.stage.graph.mesh? id ≠ none := by
    rw [← Option.isSome_iff_ne_none, Stage.isSome_mesh?_iff]
    exact ⟨_, hlook, rfl⟩
  -- one step restyles the node once more; what it was dressed in so far is part of how it looks now
  have hround := restyled_of_rematerialed h.orderly hshown (rematerialed_of_replaceMaterial hstep)
  have hself := hround.self
  rw [hlook, Shelf.materialFor_eq h.catalogs] at hself
  cases hlook' : t'.stage.look id with
  | none =>
      rw [hlook'] at hself
      cases hself
  | some i' =>
      rw [hlook'] at hself
      rcases hself with ⟨⟨_, surface, dressed, ⟨⟩, hsurface, hdress, rfl⟩⟩
      have hlt : place < surfaces.length := (List.getElem?_eq_some_iff.1 hsurface).1
      refine ⟨⟨hround.orderly, fun x => (hround.name_eq x).trans (h.name_eq x),
        hround.catalogs.trans h.catalogs, fun x hx => (hround.others x hx).trans (h.others x hx),
        surfaces.set place dressed, hlook', by simpa using hlength⟩,
        ⟨surface, dressed, ?_, ?_, hdress⟩, ?_⟩
      · simpa [surfaceAt, hlook] using hsurface
      · simp [surfaceAt, hlook', hlt]
      · intro other hother
        simp [surfaceAt, hlook, hlook', Ne.symm hother]

/-- The materials of a node are replaced surface by surface. -/
theorem restyled_of_replaceMaterials (hs : Orderly s)
    (hrun : (Rendering.replaceMaterials id).runIn s = (.ok (), s')) :
    Restyled id (fun i i' => i.dress s.shelf.materialFor = .ok i') s s' := by
  rcases Work.runIn_bind_eq_ok_iff.1 hrun with ⟨g, s₁, hgraph, hsurfaces⟩
  rcases Work.eq_of_graph hgraph with ⟨rfl, rfl⟩
  cases hmesh : s₁.stage.graph.mesh? id with
  | none =>
      simp only [hmesh] at hsurfaces
      rcases Work.eq_of_pure hsurfaces with ⟨-, rfl⟩
      refine .refl hs fun i hi => ?_
      have hnone : i.mesh = none := by
        by_contra hsome
        have hshown := (s'.stage.isSome_mesh?_iff id).2 ⟨i, hi, Option.isSome_iff_ne_none.2 hsome⟩
        rw [hmesh] at hshown
        cases hshown
      unfold MeshInstance.dress
      rw [hnone]
  | some mesh =>
      simp only [hmesh] at hsurfaces
      obtain ⟨i, hi, himesh⟩ : ∃ i, s₁.stage.look id = some i ∧
          i.mesh = some (s₁.stage.resources.meshValue mesh).bare := by
        unfold SceneGraph.mesh? at hmesh
        rcases Option.bind_eq_some_iff.1 hmesh with ⟨i, hi, himesh⟩
        exact ⟨s₁.stage.resources.look i, by simp [Stage.look, hi], by simp [Resources.look, himesh]⟩
      -- from here on only what is seen of the mesh matters
      generalize hvalue : (s₁.stage.resources.meshValue mesh).bare = value at himesh
      have hcount : value.surfaces.length = mesh.surfaces.length := by
        rw [← hvalue]
        simp [Mesh.bare, Resources.meshValue, Mesh.map]
      obtain ⟨hdressing, hdressed, -⟩ :=
        Work.forM_related (surfaceAt id)
          (fun _ v v' => ∃ surface dressed, v = some surface ∧ v' = some dressed ∧
            surface.dress s₁.shelf.materialFor = .ok dressed)
          (I := fun t => Dressing id i value s₁ t) List.nodup_range
          ⟨hs, fun _ => rfl, rfl, fun _ _ => rfl, value.surfaces, by rw [hi, ← himesh], rfl⟩
          (fun _ _ _ _ ht hstep => ht.round hstep) hsurfaces
      rcases hdressing.self with ⟨surfaces, hlook, hlength⟩
      refine ⟨hdressing.orderly, hdressing.name_eq, hdressing.catalogs, ?_, hdressing.others⟩
      rw [hi, hlook]
      refine .some (dress_eq_of_surfaces himesh hlength fun place hplace => ?_)
      obtain ⟨surface, dressed, hsurface, hdressed, hdress⟩ :=
        hdressed place (List.mem_range.2 (hcount ▸ hplace))
      refine ⟨surface, dressed, ?_, ?_, hdress⟩
      · simpa [surfaceAt, hi, himesh] using hsurface
      · simpa [surfaceAt, hlook] using hdressed

end LevelPrep
