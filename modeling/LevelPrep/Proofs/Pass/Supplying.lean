import LevelPrep.Proofs.Pass.Drawing

/-!
# Replacing materials by rules

The materials of a mesh instance are replaced surface by surface.  The name that a replacement is looked up
under is read from the surface as it was at the start, so the loop does what `Mesh.redress` says
(`settles_replaceMaterials`).
-/

namespace LevelPrep

variable {R : Type}

open Work SceneGraph

variable {context : PassContext R} {bake : MeshValue → Matrix R → Float → Option MeshValue}
  {f : Drawer R} {id : NodeId} {n : Node R} {i : MeshInstance GeometryId MaterialId}
  {s s' t t' : Session R}

theorem Fit.suppliable_iff (hs : Fit s) {name : Json} :
    Suppliable s name ↔ ∃ material, s.supply name = some material := by
  constructor
  · rintro ⟨found, hfound, hload⟩
    refine ⟨replacementFor found, Session.supply_eq_some_iff.2 ⟨found, hfound, rfl, ?_⟩⟩
    rintro entry rfl
    cases hkept : s.shelf.materials.lookup entry.assetId with
    | none => exact hload entry rfl hkept
    | some id => exact hs.onDisk name entry id hfound hkept
  · rintro ⟨material, hmaterial⟩
    rcases Session.supply_eq_some_iff.1 hmaterial with ⟨found, hfound, -, hfile⟩
    exact ⟨found, hfound, fun entry hentry _ => hfile entry hentry⟩

/-- The mesh instance with the material that takes the place of that of one surface. -/
def MeshInstance.redressAt (supply : Json → Option Material) (place : Nat)
    (i : MeshInstance Geometry Material) : Option (MeshInstance Geometry Material) :=
  i.mesh.bind fun mesh => (mesh.surfaces[place]?).bind fun surface =>
    (supply surface.materialName).map fun material =>
      { i with mesh := some { mesh with
        surfaces := mesh.surfaces.set place { surface with material := some material } } }

theorem meshValue_modify (r : Resources) (mesh : LiveMesh) {place : Nat} (material : MaterialId)
    (hplace : place < mesh.surfaces.length) :
    r.meshValue { mesh with
      surfaces := mesh.surfaces.modify place fun s => { s with material := some material } } =
      { r.meshValue mesh with
        surfaces := (r.meshValue mesh).surfaces.set place
          { r.surfaceValue mesh.surfaces[place] with material := some (r.material material) } } := by
  unfold Resources.meshValue Mesh.map
  congr 1
  refine List.ext_getElem? fun k => ?_
  by_cases hk : place = k
  · subst hk
    simp [hplace, Surface.map, Resources.surfaceValue]
  · simp [hk]

theorem redressAt_figure {mesh : LiveMesh} {place : Nat} (himesh : i.mesh = some mesh)
    (hplace : place < mesh.surfaces.length) (supply : Json → Option Material) (r : Resources) :
    (r.figure i).redressAt supply place =
      (supply (surfaceMaterialName r mesh place)).map fun material =>
        { r.figure i with mesh := some { r.meshValue mesh with
          surfaces := (r.meshValue mesh).surfaces.set place
            { r.surfaceValue mesh.surfaces[place] with material := some material } } } := by
  have hmesh : (r.figure i).mesh = some (r.meshValue mesh) := by simp [Resources.figure, himesh]
  have hsurface : (r.meshValue mesh).surfaces[place]? = some (r.surfaceValue mesh.surfaces[place]) := by
    simp [Resources.meshValue, Mesh.map, hplace, Resources.surfaceValue]
  unfold MeshInstance.redressAt
  rw [hmesh, Option.bind_some, hsurface, Option.bind_some, surfaceMaterialName_eq r hplace]
  rfl

/-- The file of a material that is found is there, as are those of the materials that are kept. -/
theorem onDisk_of_takesMaterial {name : Json} {material : MaterialId} (ht : Fit t) (hable : Suppliable t name)
    (h : TakesMaterial name t material t') (other : Json) (entry : CatalogEntry) (id : MaterialId)
    (hentry : t'.shelf.materialFor other = .ok (some entry))
    (hkept : t'.shelf.materials.lookup entry.assetId = some id) : t'.disk.isFile entry.path = .ok true := by
  cases h with
  | blank | kept => exact ht.onDisk other entry id hentry hkept
  | @loaded found m hfound hnew hmaterial =>
      rw [List.lookup_cons] at hkept
      split at hkept
      · next hid =>
          have heq := ht.orderly.listed.eq_of_assetId hentry hfound (by simpa using hid)
          subst heq
          rcases hable with ⟨found', hfound', hload⟩
          cases hfound.symm.trans hfound'
          exact hload entry rfl hnew
      · exact ht.onDisk other entry id hentry hkept

theorem settles_replaceMaterial_painted {mesh : LiveMesh} {place : Nat} (ht : Fit t)
    (hn : t.stage.graph.node? id = some n) (hi : n.payload.meshInstance? = some i)
    (himesh : i.mesh = some mesh) (hplace : place < mesh.surfaces.length) :
    Settles (Rendering.replaceMaterial id place) t
      (∃ v, Remade (Drawer.maker fun _ _ j => j.redressAt t.supply place) (t.stage.head? id) v)
      (Painted (fun _ _ j => j.redressAt t.supply place) id t) := by
  have hmesh : t.stage.graph.mesh? id = some mesh := by
    rw [SceneGraph.mesh?, meshInstance?_of_node? hn, hi]
    exact himesh
  have hknown := ht.orderly.sound id mesh hmesh
  refine (settles_replaceMaterial hmesh hplace).congr ?_ ?_
  · rw [exists_remade_iff hn hi, ht.suppliable_iff, redressAt_figure himesh hplace]
    simp
  · intro t' hable hround
    cases hround with
    | noMesh hnone => cases hnone.symm.trans hmesh
    | @replaced _ replaced material u hmesh' hmaterial hreplaced journal =>
        cases hmesh'.symm.trans hmesh
        have hsupplied := supplied_of_takesMaterial ht.orderly hmaterial
        rcases of_setSurfaceMaterial hreplaced with ⟨-, hset⟩
        rcases hsupplied.found with ⟨found, hfound, hvalue⟩
        obtain ⟨hdisk, hpacked⟩ : u.disk = t.disk ∧ u.shelf.packedScenes = t.shelf.packedScenes := by
          cases hmaterial <;> exact ⟨rfl, rfl⟩
        -- the material that was found is the one the rule supplies, whether it was kept or is new
        have hsupply : t.supply (surfaceMaterialName t.stage.resources mesh place) =
            some (u.stage.resources.material material) := by
          rcases ht.suppliable_iff.1 hable with ⟨m, hm⟩
          rcases Session.supply_eq_some_iff.1 hm with ⟨found', hfound', rfl, -⟩
          cases hfound.symm.trans hfound'
          rw [hm, hvalue]
        have honDisk := onDisk_of_takesMaterial ht hable hmaterial
        refine painted_of_modifyInstance ht hn hi (by rw [hsupplied.graph])
          (repainted_of_modifyInstance (by rw [hsupplied.graph]) hsupplied.resources hdisk hsupplied.catalogs
            hpacked) hsupplied.holds honDisk ?_ ?_
        · rintro _ ⟨⟩
          exact hknown.of_setSurfaceMaterial hsupplied.resources hsupplied.has hreplaced
        · rw [redressAt_figure himesh hplace, hsupply, Option.map_some]
          have hsurface := (hsupplied.resources.surface (hknown _ (List.getElem_mem hplace))).2
          simp only [Resources.figure, Option.map_some, hset, meshValue_modify _ _ _ hplace,
            (hsupplied.resources.mesh hknown).2, hsurface]

/-- A session in which the materials of one node are being replaced: nothing has changed but the surfaces of
its mesh. -/
structure Redressing (id : NodeId) (j : MeshInstance Geometry Material) (mesh : MeshValue) (s t : Session R) :
    Prop where
  fit : Fit t
  repainted : Repainted s t
  others : ∀ x, x ≠ id → t.stage.head? x = s.stage.head? x
  self : ∃ surfaces, t.stage.figure? id = some { j with mesh := some { mesh with surfaces := surfaces } } ∧
    surfaces.length = mesh.surfaces.length

/-- The surface that a node shows at a place. -/
def Stage.surfaceAt (stage : Stage R) (id : NodeId) (place : Nat) : Option (Surface Geometry Material) :=
  ((stage.figure? id).bind (·.mesh)).bind (·.surfaces[place]?)

/-- A surface whose material is replaced. -/
def Resupplied (supply : Json → Option Material) (v v' : Option (Surface Geometry Material)) : Prop :=
  ∃ surface material, v = some surface ∧ supply surface.materialName = some material ∧
    v' = some { surface with material := some material }

/-- What is made of one mesh instance of the session is what is seen of it then. -/
theorem Painted.figure? (h : Painted f id s s') (hn : s.stage.graph.node? id = some n)
    (hi : n.payload.meshInstance? = some i) : ∃ j, f n.name n.transform (s.stage.resources.figure i) = some j ∧
      s'.stage.figure? id = some j := by
  rcases h.self with ⟨v, v', hv, hvv', hv'⟩
  cases hv.symm.trans (Stage.head?_of_node? hn)
  rcases Option.map_eq_some_iff.1 hvv' with ⟨payload, hpayload, rfl⟩
  rw [show (s.stage.headOf n).payload = .meshInstance (s.stage.resources.figure i) from
    Stage.payloadValue_of_meshInstance hi] at hpayload
  rcases Option.map_eq_some_iff.1 hpayload with ⟨j, hj, rfl⟩
  refine ⟨j, hj, ?_⟩
  rw [Stage.figure?_eq, hv']
  rfl

/-- One more surface of the node is given its material. -/
theorem Redressing.settles {j : MeshInstance Geometry Material} {mesh : MeshValue} {place : Nat}
    (h : Redressing id j mesh s t) (hplace : place < mesh.surfaces.length) :
    Settles (Rendering.replaceMaterial id place) t
      (∃ v, Resupplied s.supply (t.stage.surfaceAt id place) v) fun t' => Redressing id j mesh s t' ∧
        Resupplied s.supply (t.stage.surfaceAt id place) (t'.stage.surfaceAt id place) ∧
        ∀ other, other ≠ place → t'.stage.surfaceAt id other = t.stage.surfaceAt id other := by
  rcases h.self with ⟨surfaces, hfigure, hlength⟩
  rcases Stage.exists_node_of_figure? hfigure with ⟨n, i, hn, hi, hvalue⟩
  -- only surfaces have been changed, so the node still shows a mesh with as many of them
  obtain ⟨live, himesh, hlive⟩ : ∃ live, i.mesh = some live ∧
      t.stage.resources.meshValue live = { mesh with surfaces := surfaces } := by
    have hmesh := congrArg MeshInstance.mesh hvalue
    simpa [Resources.figure] using hmesh
  have hcount : live.surfaces.length = mesh.surfaces.length := by
    rw [← hlength, ← congrArg (fun m : MeshValue => m.surfaces.length) hlive]
    simp [Resources.meshValue, Mesh.map]
  have hsupply : t.supply = s.supply := Session.supply_eq h.repainted.disk h.repainted.catalogs
  have hlt : place < surfaces.length := by rwa [hlength]
  have hsurface : t.stage.surfaceAt id place = some surfaces[place] := by
    simp [Stage.surfaceAt, hfigure, hlt]
  have hredress : (t.stage.resources.figure i).redressAt t.supply place =
      (s.supply surfaces[place].materialName).map fun material =>
        { j with mesh := some { mesh with
          surfaces := surfaces.set place { surfaces[place] with material := some material } } } := by
    rw [hvalue, hsupply]
    simp [MeshInstance.redressAt, hlt]
  refine (settles_replaceMaterial_painted h.fit hn hi himesh (hcount ▸ hplace)).congr ?_ ?_
  · rw [exists_remade_iff hn hi, hredress]
    simp [Resupplied, hsurface]
  · intro t' _ hpainted
    rcases hpainted.figure? hn hi with ⟨j', hj', hfigure'⟩
    rw [hredress] at hj'
    rcases Option.map_eq_some_iff.1 hj' with ⟨material, hmaterial, rfl⟩
    refine ⟨⟨hpainted.fit, h.repainted.trans hpainted.repainted,
      fun x hx => (hpainted.others x hx).trans (h.others x hx), _, hfigure', by simpa using hlength⟩,
      ⟨_, material, hsurface, hmaterial, ?_⟩, ?_⟩
    · simp [Stage.surfaceAt, hfigure', hlt]
    · intro other hother
      simp [Stage.surfaceAt, hfigure, hfigure', Ne.symm hother]

theorem redress_eq_some_iff {G : Type} {supply : Json → Option Material} {mesh mesh' : Mesh G Material} :
    mesh.redress supply = some mesh' ↔ ∃ surfaces,
      List.Forall₂ (fun s s' => ∃ material, supply s.materialName = some material ∧
        s' = { s with material := some material }) mesh.surfaces surfaces ∧
      mesh' = { mesh with surfaces := surfaces } := by
  have hstep : ∀ s s' : Surface G Material, ((supply s.materialName).map fun m =>
      { s with material := some m }) = some s' ↔ ∃ material, supply s.materialName = some material ∧
        s' = { s with material := some material } := by
    intro s s'
    simp [eq_comm]
  unfold Mesh.redress
  rw [Option.map_eq_some_iff]
  refine exists_congr fun surfaces => ?_
  rw [mapM_eq_some_iff, eq_comm (b := mesh')]
  simp only [hstep]

/-- A mesh all of whose surfaces are supplied has been given its materials. -/
theorem redress_eq_of_surfaces {supply : Json → Option Material} {mesh : MeshValue}
    {surfaces : List (Surface Geometry Material)} (hlength : surfaces.length = mesh.surfaces.length)
    (hall : ∀ place < mesh.surfaces.length,
      Resupplied supply mesh.surfaces[place]? surfaces[place]?) :
    mesh.redress supply = some { mesh with surfaces := surfaces } := by
  refine redress_eq_some_iff.2 ⟨surfaces, List.forall₂_iff_get.2 ⟨hlength.symm, ?_⟩, rfl⟩
  intro place h₁ h₂
  rcases hall place h₁ with ⟨surface, material, hsurface, hmaterial, hdressed⟩
  rw [List.getElem?_eq_getElem h₁] at hsurface
  rw [List.getElem?_eq_getElem h₂] at hdressed
  rw [List.get_eq_getElem, List.get_eq_getElem, Option.some.inj hsurface, Option.some.inj hdressed]
  exact ⟨material, hmaterial, rfl⟩

/-- A mesh can be given its materials if each of its surfaces can be. -/
theorem exists_redress_iff {supply : Json → Option Material} {mesh : MeshValue} :
    (∃ mesh', mesh.redress supply = some mesh') ↔
      ∀ place < mesh.surfaces.length, ∃ v, Resupplied supply mesh.surfaces[place]? v := by
  constructor
  · rintro ⟨mesh', hmesh'⟩ place hplace
    rcases redress_eq_some_iff.1 hmesh' with ⟨surfaces, hall, -⟩
    rcases exists_result_of_mem hall (List.getElem_mem hplace) with ⟨s', -, material, hmaterial, rfl⟩
    exact ⟨_, _, material, List.getElem?_eq_getElem hplace, hmaterial, rfl⟩
  · intro h
    -- each surface by itself, and the surfaces of the dressed mesh are put together from these
    obtain ⟨surfaces, hsurfaces⟩ : ∃ surfaces, List.Forall₂ (fun s s' => ∃ material,
        supply s.materialName = some material ∧ s' = { s with material := some material })
        mesh.surfaces surfaces := by
      refine exists_forall₂ fun s hs => ?_
      rcases List.mem_iff_getElem.1 hs with ⟨place, hplace, rfl⟩
      rcases h place hplace with ⟨_, surface, material, hsurface, hmaterial, -⟩
      cases hsurface.symm.trans (List.getElem?_eq_getElem hplace)
      exact ⟨_, material, hmaterial, rfl⟩
    exact ⟨_, redress_eq_some_iff.2 ⟨surfaces, hsurfaces, rfl⟩⟩

section

variable {live : LiveMesh} (hn : t.stage.graph.node? id = some n) (hi : n.payload.meshInstance? = some i)
  (himesh : i.mesh = some live)
include himesh

/-- A mesh instance with a mesh is dressed by giving the mesh its materials. -/
theorem dress_figure : (context.rules bake t).dress n.name n.transform (t.stage.resources.figure i) =
    ((t.stage.resources.meshValue live).redress t.supply).map fun dressed =>
      { t.stage.resources.figure i with mesh := some dressed } := by
  have hvalue : (t.stage.resources.figure i).mesh = some (t.stage.resources.meshValue live) := by
    simp [Resources.figure, himesh]
  unfold Rules.dress
  simp only [hvalue]
  rfl

include hn hi

theorem Stage.surfaceAt_of_node (place : Nat) :
    t.stage.surfaceAt id place = (t.stage.resources.meshValue live).surfaces[place]? := by
  have hfigure : t.stage.figure? id = some (t.stage.resources.figure i) := by
    rw [Stage.figure?_of_node? hn, hi, Option.map_some]
  rw [Stage.surfaceAt, hfigure]
  simp [Resources.figure, himesh]

/-- A node all of whose surfaces have been given their materials is dressed. -/
theorem Redressing.painted
    (h : Redressing id (t.stage.resources.figure i) (t.stage.resources.meshValue live) t t')
    (hall : ∀ place < live.surfaces.length,
      Resupplied t.supply (t.stage.surfaceAt id place) (t'.stage.surfaceAt id place)) :
    Painted (context.rules bake t).dress id t t' := by
  rcases h.self with ⟨surfaces, hfigure, hlength⟩
  have hdressed : ∀ place < (t.stage.resources.meshValue live).surfaces.length, Resupplied t.supply
      (t.stage.resources.meshValue live).surfaces[place]? surfaces[place]? := by
    intro place hplace
    have hround := hall place (by simpa [Resources.meshValue, Mesh.map] using hplace)
    rw [Stage.surfaceAt_of_node hn hi himesh] at hround
    simpa [Stage.surfaceAt, hfigure] using hround
  refine ⟨h.fit, h.repainted, ⟨t.stage.headOf n, _, Stage.head?_of_node? hn, ?_,
    h.repainted.head?_of_figure? hn hfigure⟩, h.others⟩
  show ((context.rules bake t).dress.maker n.name n.transform (t.stage.payloadValue n)).map _ = _
  rw [Stage.payloadValue_of_meshInstance hi]
  show (((context.rules bake t).dress n.name n.transform (t.stage.resources.figure i)).map _).map _ = _
  rw [dress_figure himesh, redress_eq_of_surfaces hlength hdressed]
  rfl

/-- The surfaces of a mesh are given their materials one after another. -/
theorem settles_surfaces (ht : Fit t) :
    Settles ((List.range live.surfaces.length).forM (Rendering.replaceMaterial id)) t
      (∃ v, Remade (context.rules bake t).dress.maker (t.stage.head? id) v)
      (Painted (context.rules bake t).dress id t) := by
  have hfigure : t.stage.figure? id = some { t.stage.resources.figure i with
      mesh := some { t.stage.resources.meshValue live with
        surfaces := (t.stage.resources.meshValue live).surfaces } } := by
    rw [Stage.figure?_of_node? hn, hi, Option.map_some]
    simp [Resources.figure, himesh]
  have hcount : (t.stage.resources.meshValue live).surfaces.length = live.surfaces.length := by
    simp [Resources.meshValue, Mesh.map]
  have hloop := forM_settles (s := t) (f := Rendering.replaceMaterial id) (List.range live.surfaces.length)
    (I := Redressing id (t.stage.resources.figure i) (t.stage.resources.meshValue live) t)
    (fun u place => u.stage.surfaceAt id place) (fun _ => Resupplied t.supply) (fun _ => True)
    List.nodup_range (fun _ _ => trivial) ⟨ht, .refl t, fun _ _ => rfl, _, hfigure, rfl⟩ (by
      intro place hplace u hu _
      rw [List.mem_range, ← hcount] at hplace
      refine (hu.settles hplace).congr Iff.rfl fun u' _ hafter => ?_
      exact ⟨hafter.1, hafter.2.1, fun other _ => hafter.2.2 other⟩)
  refine hloop.congr ?_ ?_
  · rw [exists_remade_iff hn hi, dress_figure himesh]
    simp only [List.mem_range, ← hcount, Stage.surfaceAt_of_node hn hi himesh, ← exists_redress_iff]
    constructor
    · rintro ⟨dressed, hdressed⟩
      exact ⟨_, by rw [hdressed]; rfl⟩
    · rintro ⟨j, hj⟩
      rcases Option.map_eq_some_iff.1 hj with ⟨dressed, hdressed, -⟩
      exact ⟨dressed, hdressed⟩
  · rintro t' - ⟨hredressing, hdone, -⟩
    exact hredressing.painted hn hi himesh fun place hplace => hdone place (List.mem_range.2 hplace)

end

/-- The materials of a mesh instance are replaced, surface by surface. -/
theorem settles_replaceMaterials (ht : Fit t) (hn : t.stage.graph.node? id = some n)
    (hi : n.payload.meshInstance? = some i) :
    Settles (Rendering.replaceMaterials id) t
      (∃ v, Remade (context.rules bake t).dress.maker (t.stage.head? id) v)
      (Painted (context.rules bake t).dress id t) := by
  unfold Rendering.replaceMaterials
  refine .of_read (runIn_graph t) ?_
  have hmesh : t.stage.graph.mesh? id = i.mesh := by
    rw [SceneGraph.mesh?, meshInstance?_of_node? hn, hi]
    rfl
  cases himesh : i.mesh with
  | none =>
      have hsame : (context.rules bake t).dress n.name n.transform (t.stage.resources.figure i) =
          some (t.stage.resources.figure i) := by
        simp [Rules.dress, Resources.figure, himesh]
      simp only [hmesh, himesh]
      refine ⟨fun t' hrun => ?_, fun _ => ⟨t, rfl⟩⟩
      rcases eq_of_pure hrun with ⟨-, rfl⟩
      exact ⟨(exists_remade_iff hn hi).2 ⟨_, hsame⟩, .of_same ht hn hi hsame⟩
  | some live =>
      simp only [hmesh, himesh]
      exact settles_surfaces hn hi himesh ht

end LevelPrep
