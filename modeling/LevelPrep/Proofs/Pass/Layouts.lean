import LevelPrep.Proofs.Pass.Styling

/-!
# Layouts of meshes

The layout of a node is all that there is to its mesh but the materials: with the name and the geometry of the surfaces,
the lightmap coordinates and the size that they were made for.  The lightmap pass makes layouts and render removal takes
them away; every other pass leaves them, and no pass reaches one outside of its subtree (`layout_of_apply`).
-/

namespace LevelPrep

variable {R : Type}

/-- The mesh without the materials of its surfaces. -/
def Mesh.unpainted {G M : Type} (mesh : Mesh G M) : Mesh G M :=
  { mesh with surfaces := mesh.surfaces.map fun s => { s with material := none } }

/-- The mesh that a node shows, with its lightmap coordinates and without its materials. -/
def Stage.layout (stage : Stage R) (x : NodeId) : Option MeshValue :=
  (stage.graph.mesh? x).map fun mesh => (stage.resources.meshValue mesh).unpainted

/-- Whether a pass leaves the layouts of its own subtree too. -/
def PassKind.keepsLayouts : PassKind → Bool
  | renderRemoval => false
  | lightmap => false
  | _ => true

open Work SceneGraph

variable {context : PassContext R} {id root x : NodeId} {s t s' : Session R}

/-! ## Rounds -/

/-- A node that keeps its mesh keeps its layout, whatever resources are added. -/
theorem Stage.Sound.layout_eq {stage stage' : Stage R} (h : stage.Sound)
    (hext : stage.resources.Extends stage'.resources) (hx : stage'.graph.mesh? x = stage.graph.mesh? x) :
    stage'.layout x = stage.layout x := by
  unfold Stage.layout
  rw [hx]
  cases hmesh : stage.graph.mesh? x with
  | none => rfl
  | some mesh => rw [Option.map_some, Option.map_some, (hext.mesh (h x mesh hmesh)).2]

theorem SceneGraph.mesh?_modifyInstance (g : SceneGraph R) (id : NodeId)
    (change : MeshInstance GeometryId MaterialId → MeshInstance GeometryId MaterialId) (x : NodeId) :
    (g.modifyInstance id change).mesh? x =
      if x = id then (g.meshInstance? x).bind fun i => (change i).mesh else g.mesh? x := by
  unfold SceneGraph.mesh?
  rw [meshInstance?_modifyInstance]
  split_ifs
  · cases g.meshInstance? x <;> rfl
  · rfl

/-- Nothing but the node that is redrawn can lose its layout, and it keeps it if it keeps its mesh. -/
theorem layout_of_redrawn {f : MeshInstance GeometryId MaterialId → MeshInstance GeometryId MaterialId}
    (hmesh : x = id → ∀ i, (f i).mesh = i.mesh) (h : Redrawn id f s s') : s'.stage.layout x = s.stage.layout x := by
  rcases h with ⟨journal, rfl⟩
  have hsame : (s.stage.graph.modifyInstance id f).mesh? x = s.stage.graph.mesh? x := by
    rw [SceneGraph.mesh?_modifyInstance]
    split_ifs with hx
    · unfold SceneGraph.mesh?
      simp only [hmesh hx]
    · rfl
  unfold Stage.layout
  rw [hsame]

/-- Baking a node leaves the layouts of all others. -/
theorem layout_of_baked (hs : Orderly s) (hunwrap : Lightmap.SetsCoordinates context.tools.unwrap) (hx : x ≠ id)
    (h : Baked context id s s') : s'.stage.layout x = s.stage.layout x := by
  cases h with
  | noMesh => rfl
  | @unwrapped n mesh unwrapped base texel made hnode hmesh hbase htexel hrun journal =>
      rcases Resources.rebuild_spec (hs.sound id mesh hmesh) with ⟨hext, hrebuilt, -⟩
      rcases hunwrap _ _ _ _ _ _ hrebuilt hrun with ⟨hext', -, -⟩
      refine hs.sound.layout_eq (hext.trans hext') ?_
      rw [SceneGraph.mesh?_modifyInstance, if_neg hx]

/-- A mesh that is given a material is laid out as before. -/
theorem unpainted_of_setSurfaceMaterial {mesh replaced : LiveMesh} {surface : Nat} {material : MaterialId}
    (h : mesh.setSurfaceMaterial surface (some material) = .ok replaced) : replaced.unpainted = mesh.unpainted := by
  rcases of_setSurfaceMaterial h with ⟨-, rfl⟩
  unfold Mesh.unpainted
  congr 1
  refine List.ext_getElem? fun k => ?_
  by_cases hk : surface = k
  · subst hk
    simp [Function.comp_def]
  · simp [hk]

/-- What a layout refers to is geometry alone. -/
theorem unpainted_meshValue {r r' : Resources} {mesh mesh' : LiveMesh} (hgeometries : r'.geometries = r.geometries)
    (h : mesh'.unpainted = mesh.unpainted) : (r'.meshValue mesh').unpainted = (r.meshValue mesh).unpainted := by
  have hvalue : ∀ (r : Resources) (mesh : LiveMesh),
      (r.meshValue mesh).unpainted = mesh.unpainted.map r.geometry r.material := by
    intro r mesh
    simp [Mesh.unpainted, Resources.meshValue, Mesh.map, Surface.map, Function.comp_def]
  have hgeometry : r'.geometry = r.geometry := by
    funext id
    rw [Resources.geometry, hgeometries]
    rfl
  rw [hvalue, hvalue, h, hgeometry]
  simp [Mesh.unpainted, Mesh.map, Surface.map]

/-- A material that is found brings in no geometry. -/
theorem TakesMaterial.geometries_eq {name : Json} {material : MaterialId} (h : TakesMaterial name s material s') :
    s'.stage.graph = s.stage.graph ∧ s'.stage.resources.geometries = s.stage.resources.geometries := by
  cases h with
  | blank | kept | loaded => exact ⟨rfl, rfl⟩

/-- Replacing a material leaves every layout. -/
theorem layout_of_rematerialed {surface : Nat} (h : Rematerialed id surface s s') :
    s'.stage.layout x = s.stage.layout x := by
  cases h with
  | noMesh => rfl
  | @replaced mesh replaced material t hmesh hmaterial hreplaced journal =>
      rcases hmaterial.geometries_eq with ⟨hgraph, hgeometries⟩
      unfold Stage.layout
      dsimp only
      rw [SceneGraph.mesh?_modifyInstance, hgraph]
      split_ifs with hx
      · subst hx
        rcases Option.bind_eq_some_iff.1 hmesh with ⟨i, hi, -⟩
        rw [hmesh, hi]
        exact congrArg some (unpainted_meshValue hgeometries (unpainted_of_setSurfaceMaterial hreplaced))
      · cases s.stage.graph.mesh? x with
        | none => rfl
        | some other => exact congrArg some (unpainted_meshValue hgeometries rfl)

/-! ## Passes -/

/-- A loop whose rounds leave the layout of a node leaves it. -/
theorem layout_of_forM {f : NodeId → Work R Unit} {ids : List NodeId}
    (hround : ∀ id ∈ ids, ∀ t t', (f id).runIn t = (.ok (), t') → t'.stage.layout x = t.stage.layout x)
    (hrun : (ids.forM f).runIn s = (.ok (), s')) : s'.stage.layout x = s.stage.layout x := by
  refine forM_invariant (I := fun t => t.stage.layout x = s.stage.layout x) rfl ?_ hrun
  intro id hid t t' ht hstep
  exact (hround id hid t t' hstep).trans ht

/-- Baking the nodes of a list, of which another node is none, leaves the layout of that node. -/
theorem layout_of_bakes {ids : List NodeId} (hs : Orderly s)
    (hunwrap : Lightmap.SetsCoordinates context.tools.unwrap) (hx : x ∉ ids)
    (hrun : (ids.forM (Rendering.bake context)).runIn s = (.ok (), s')) :
    s'.stage.layout x = s.stage.layout x := by
  refine (forM_invariant (I := fun t => Orderly t ∧ t.stage.layout x = s.stage.layout x) ⟨hs, rfl⟩ ?_ hrun).2
  rintro id hid t t' ⟨ht, hkept⟩ hstep
  have hbaked := baked_of_bake hstep
  have hne : x ≠ id := fun heq => hx (heq ▸ hid)
  exact ⟨(restyled_of_baked ht hunwrap hbaked).orderly, (layout_of_baked ht hunwrap hne hbaked).trans hkept⟩

variable [Zero R] [One R] [Add R] [Mul R]

/-- A pass leaves the layout of a node that is outside of its subtree, and most passes leave all of them. -/
theorem layout_of_apply {kind : PassKind} (hlinked : s.stage.graph.Linked) (hroot : root.index < s.stage.graph.size)
    (hs : Orderly s) (hunwrap : Lightmap.SetsCoordinates context.tools.unwrap)
    (hx : kind.keepsLayouts = true ∨ ¬ s.stage.graph.Within root x)
    (hrun : (kind.apply context root).runIn s = (.ok (), s')) : s'.stage.layout x = s.stage.layout x := by
  cases kind with
  | collision =>
      rcases kept_of_collision hroot hrun with ⟨hresources, -, hsame⟩
      unfold Stage.layout SceneGraph.mesh?
      rw [hsame, hresources]
  | renderRemoval =>
      have hout := hx.resolve_left (by decide)
      refine layout_of_forM (fun id hid t t' hstep => ?_) (forM_of_graph hrun)
      refine layout_of_redrawn (fun heq => ?_) (redrawn_of_hideIfAsked hstep)
      exact absurd (within_of_mem_instances hlinked (heq ▸ hid)) hout
  | lightmap =>
      have hout := hx.resolve_left (by decide)
      rcases exists_between_of_applyLightmap hrun with ⟨t, hbake, hlight⟩
      have hbaked := layout_of_bakes hs hunwrap
        (fun hmem => hout (within_of_mem_meshNodes hlinked hmem)) hbake
      refine (layout_of_forM (fun id _ t t' hstep => ?_) hlight).trans hbaked
      exact layout_of_redrawn (fun _ => by simp) (redrawn_of_lightIfAsked hstep)
  | shadow =>
      refine layout_of_forM (fun id _ t t' hstep => ?_) (forM_of_graph hrun)
      exact layout_of_redrawn (fun _ => by simp) (redrawn_of_setShadow hstep)
  | renderLayer =>
      refine layout_of_forM (fun id _ t t' hstep => ?_) (forM_of_graph hrun)
      exact layout_of_redrawn (fun _ => by simp) (redrawn_of_setLayer hstep)
  | material =>
      refine layout_of_forM (fun id _ t t' hstep => ?_) (forM_of_graph hrun)
      refine replaceMaterials_invariant (I := fun u => u.stage.layout x = t.stage.layout x) rfl ?_ hstep
      intro surface u u' hu hround
      exact (layout_of_rematerialed hround).trans hu

end LevelPrep
