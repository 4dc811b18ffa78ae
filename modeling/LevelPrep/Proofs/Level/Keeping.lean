import LevelPrep.Proofs.Catalog.Entries
import LevelPrep.Proofs.Disk.Files
import LevelPrep.Proofs.Level.Phases
import LevelPrep.Proofs.Pass.Rounds
import LevelPrep.Proofs.Scene.Keeping

/-!
# Sessions that can be written

Nothing that a conversion does brings in what a document cannot hold.

* `Session.Writable`: whatever live nodes show, or may come to show, can be written;
* `writable_of_apply`: every pass keeps it so;
* `writable_of_replaceContent`: and so does replacing the content of a node;
* `writable_of_process`: hence all that is left of a scene by `convert` or `process` can be written.
-/

namespace LevelPrep

variable {R : Type}

open Work

/-- What live nodes may refer to and what may be taken from catalogs can be written.  The packaged scenes that are
kept are live nodes like any others. -/
structure Session.Writable (s : Session R) : Prop where
  disk : s.disk.WellFormed
  resources : s.stage.resources.Writable
  catalogs : ∀ name catalog, s.shelf.catalog name = .ok catalog → ∀ entry ∈ catalog.entries, entry.path.Normal

/-- The tools bring in nothing but what can be written. -/
structure Tools.KeepWritable (tools : Tools R) : Prop where
  loadScene : ∀ (disk : Disk) path branch, disk.WellFormed → (tools.loadScene disk path).2 = .ok branch →
    branch.Writable
  unwrap : Lightmap.KeepsWritable tools.unwrap

variable {s s' : Session R}

/-- Only the disk, the resources and the shelf matter. -/
theorem Session.Writable.of_same (h : s.Writable) (hdisk : s'.disk = s.disk)
    (hresources : s'.stage.resources = s.stage.resources) (hshelf : s'.shelf = s.shelf) : s'.Writable where
  disk := hdisk ▸ h.disk
  resources := hresources ▸ h.resources
  catalogs := hshelf ▸ h.catalogs

/-! ## Catalogs -/

/-- The files of a listed directory have normal paths. -/
theorem Catalog.normal_of_ofDirectory {disk : Disk} (hdisk : disk.WellFormed) {kind : CatalogKind}
    {settings : CatalogSettings} {c : Catalog} (h : Catalog.ofDirectory disk kind settings = .ok c) :
    ∀ entry ∈ c.entries, entry.path.Normal := by
  rcases Catalog.entries_of_ofDirectory h with ⟨root, hroot, hfiles⟩
  rcases bind_eq_ok_iff.1 hroot with ⟨path, hpath, hroot⟩
  rw [hfiles]
  intro entry hentry
  rcases List.mem_map.1 hentry with ⟨name, hname, rfl⟩
  have hlisted := hdisk.isName_of_mem_list (CatalogSettings.mem_files.1 hname).1
  exact ((Document.normal_of_asPath hpath).expandHome hdisk.home hroot).child hlisted.2

/-- Opening catalogs keeps a session writable. -/
theorem Session.Writable.opened (h : s.Writable) {settings : List (String × CatalogSettings)} {shelf : Shelf}
    (hshelf : Shelf.ofSettings s.disk settings = .ok shelf) (journal : Array LogRecord) :
    ({ s with shelf := shelf, journal := journal } : Session R).Writable := by
  rcases Shelf.of_ofSettings hshelf with ⟨-, -, hdirectories⟩
  refine ⟨h.disk, h.resources, fun name catalog hcatalog => ?_⟩
  rcases hdirectories name catalog hcatalog with ⟨kind, config, -, -, hdirectory⟩
  exact Catalog.normal_of_ofDirectory h.disk hdirectory

/-! ## Passes -/

section

variable {context : PassContext R} {root id : NodeId}

theorem writable_of_redrawn {change : MeshInstance GeometryId MaterialId → MeshInstance GeometryId MaterialId}
    (h : Redrawn id change s s') (hs : s.Writable) : s'.Writable := by
  rcases h with ⟨journal, rfl⟩
  exact hs.of_same rfl rfl rfl

theorem writable_of_baked (htools : context.tools.KeepWritable) (h : Baked context id s s') (hs : s.Writable) :
    s'.Writable := by
  cases h with
  | noMesh => exact hs
  | @unwrapped n mesh unwrapped base texel made hnode _ _ _ hunwrap journal =>
      -- the unwrapper gets a copy, and brings in nothing that cannot be written
      have hcopied : (mesh.rebuild s.stage.resources).2.Writable := Resources.writable_rebuild hs.resources mesh
      have hmade := htools.unwrap (mesh.rebuild s.stage.resources).1 n.transform texel _ hcopied
      rw [hunwrap] at hmade
      exact ⟨hs.disk, hmade, hs.catalogs⟩

theorem writable_of_takesMaterial {name : Json} {material : MaterialId} (h : TakesMaterial name s material s')
    (hs : s.Writable) : s'.Writable := by
  cases h with
  | blank _ journal =>
      have hblank : ({} : Material).Writable := by
        intro path hpath
        cases hpath
      exact ⟨hs.disk, hs.resources.addMaterial hblank, hs.catalogs⟩
  | kept => exact hs
  | loaded hentry _ hmaterial =>
      rcases bind_eq_ok_iff.1 hentry with ⟨catalog, hcatalog, hmatch⟩
      have hnormal := hs.catalogs _ catalog hcatalog _ (Catalog.mem_of_bestMatch hmatch)
      refine ⟨hs.disk, hs.resources.addMaterial ?_, hs.catalogs⟩
      intro path hpath
      rw [hmaterial] at hpath
      cases hpath
      exact hnormal

theorem writable_of_rematerialed {surface : Nat} (h : Rematerialed id surface s s') (hs : s.Writable) :
    s'.Writable := by
  cases h with
  | noMesh => exact hs
  | replaced _ hmaterial _ journal => exact (writable_of_takesMaterial hmaterial hs).of_same rfl rfl rfl

theorem writable_of_replaceMaterials (hrun : (Rendering.replaceMaterials id).runIn s = (.ok (), s'))
    (hs : s.Writable) : s'.Writable :=
  replaceMaterials_invariant hs (fun _ _ _ ht hround => writable_of_rematerialed hround ht) hrun

/-- A loop over nodes that keeps the session writable in every round keeps it so. -/
theorem writable_of_forM {ids : SceneGraph R → List NodeId} {f : NodeId → Work R Unit}
    (hround : ∀ id t t', t.Writable → (f id).runIn t = (.ok (), t') → t'.Writable)
    (hrun : (Work.graph >>= fun g => (ids g).forM f).runIn s = (.ok (), s')) (hs : s.Writable) :
    s'.Writable :=
  forM_invariant hs (fun id _ => hround id) (forM_of_graph hrun)

variable [Zero R] [One R] [Add R] [Mul R]

theorem writable_of_embodied (h : Embodied context root id s s') (hs : s.Writable) : s'.Writable := by
  cases h with
  | added _ _ _ journal => exact hs.of_same rfl rfl rfl

/-- Every pass that succeeds keeps a session writable. -/
theorem writable_of_apply {kind : PassKind} (htools : context.tools.KeepWritable)
    (hrun : (kind.apply context root).runIn s = (.ok (), s')) (hs : s.Writable) : s'.Writable := by
  cases kind with
  | collision =>
      refine forM_invariant hs ?_ (makeBody_of_apply hrun)
      intro id _ t t' ht hstep
      exact writable_of_embodied (embodied_of_makeBody hstep) ht
  | renderRemoval =>
      exact writable_of_forM (fun id t t' ht hstep => writable_of_redrawn (redrawn_of_hideIfAsked hstep) ht)
        hrun hs
  | lightmap =>
      rcases exists_between_of_applyLightmap hrun with ⟨s₂, hbake, hlight⟩
      have hbaked : s₂.Writable := by
        refine forM_invariant hs ?_ hbake
        intro id _ t t' ht hstep
        exact writable_of_baked htools (baked_of_bake hstep) ht
      refine forM_invariant hbaked ?_ hlight
      intro id _ t t' ht hstep
      exact writable_of_redrawn (redrawn_of_lightIfAsked hstep) ht
  | shadow =>
      exact writable_of_forM (fun id t t' ht hstep => writable_of_redrawn (redrawn_of_setShadow hstep) ht)
        hrun hs
  | renderLayer =>
      exact writable_of_forM (fun id t t' ht hstep => writable_of_redrawn (redrawn_of_setLayer hstep) ht)
        hrun hs
  | material =>
      exact writable_of_forM (fun id t t' ht hstep => writable_of_replaceMaterials hstep ht) hrun hs

end

/-! ## Packaged scenes -/

section

variable {tools : Tools R}

theorem writable_of_plantScene {branch : Branch R} {root : NodeId} (hbranch : branch.Writable)
    (hrun : (plantScene branch).runIn s = (.ok root, s')) (hs : s.Writable) : s'.Writable := by
  rcases runIn_bind_eq_ok_iff.1 hrun with ⟨planted, s₁, hplant, hrest⟩
  cases hplant
  cases hrest
  exact ⟨hs.disk, Stage.writable_plant hbranch hs.resources, hs.catalogs⟩

theorem writable_of_packedScene (htools : tools.KeepWritable) {entry : CatalogEntry} {kept : NodeId}
    (hrun : (packedScene tools entry).runIn s = (.ok kept, s')) (hs : s.Writable) : s'.Writable := by
  rcases runIn_bind_eq_ok_iff.1 hrun with ⟨s₀, s₁, hsession, hrest⟩
  cases hsession
  cases hkept : s.shelf.packedScenes.lookup entry.assetId with
  | some old =>
      simp only [hkept] at hrest
      cases hrest
      exact hs
  | none =>
      simp only [hkept] at hrest
      rcases runIn_bind_eq_ok_iff.1 hrest with ⟨loaded, s₂, hload, hrest⟩
      rcases runIn_bind_eq_ok_iff.1 hload with ⟨s₃, s₄, hsession, hload⟩
      cases hsession
      rcases runIn_bind_eq_ok_iff.1 hload with ⟨⟨⟩, s₅, hwarn, hload⟩
      cases hwarn
      rcases runIn_lift_eq_ok_iff.1 hload with ⟨hloaded, rfl⟩
      -- what is loaded is writable, and is planted
      have hbranch := htools.loadScene s.disk entry.path loaded hs.disk hloaded
      cases hrest
      exact ⟨hs.disk, Stage.writable_plant hbranch hs.resources, hs.catalogs⟩

variable [Zero R] [One R]

theorem writable_of_packedSceneReplacement (htools : tools.KeepWritable) {name : Json} {replacement : NodeId}
    (hrun : (packedSceneReplacement tools name).runIn s = (.ok replacement, s')) (hs : s.Writable) :
    s'.Writable := by
  rcases runIn_bind_eq_ok_iff.1 hrun with ⟨s₀, s₁, hsession, hrest⟩
  cases hsession
  rcases runIn_bind_eq_ok_iff.1 hrest with ⟨found, s₂, hlift, hrest⟩
  rcases runIn_lift_eq_ok_iff.1 hlift with ⟨-, rfl⟩
  cases found with
  | none =>
      cases hrest
      have hempty : (Tree.node (.str "Node") Matrix.identity .plain [] : Branch R).Writable := ⟨trivial, trivial⟩
      exact ⟨hs.disk, Stage.writable_plant hempty hs.resources, hs.catalogs⟩
  | some entry =>
      rcases runIn_bind_eq_ok_iff.1 hrest with ⟨kept, s₃, hkept, hrest⟩
      have hs₃ := writable_of_packedScene htools hkept hs
      cases hrest
      exact ⟨hs₃.disk, Stage.writable_copyTree hs₃.resources kept, hs₃.catalogs⟩

theorem writable_of_replaceContent (htools : tools.KeepWritable) {scene node replacement : NodeId}
    (hrun : (replaceContent tools scene node).runIn s = (.ok replacement, s')) (hs : s.Writable) :
    s'.Writable := by
  rcases runIn_bind_eq_ok_iff.1 hrun with ⟨g, s₁, hgraph, hrest⟩
  cases hgraph
  rcases runIn_bind_eq_ok_iff.1 hrest with ⟨root, s₂, hplanted, hrest⟩
  have hs₂ := writable_of_packedSceneReplacement htools hplanted hs
  rcases runIn_bind_eq_ok_iff.1 hrest with ⟨⟨⟩, s₃, hqueue, hrest⟩
  cases hqueue
  rcases runIn_bind_eq_ok_iff.1 hrest with ⟨⟨⟩, s₄, hempty, hrest⟩
  cases hempty
  rcases runIn_bind_eq_ok_iff.1 hrest with ⟨g, s₅, hgraph, hrest⟩
  cases hgraph
  rcases runIn_bind_eq_ok_iff.1 hrest with ⟨linked, s₆, hlift, hrest⟩
  rcases runIn_lift_eq_ok_iff.1 hlift with ⟨-, rfl⟩
  cases hrest
  exact hs₂.of_same rfl rfl rfl

end

/-! ## Conversions -/

section

variable [Zero R] [One R] [Add R] [Mul R] {p : LevelProcessor R} {scene : NodeId}

theorem writable_of_convert (htools : p.tools.KeepWritable) (hrun : (p.convert scene).runIn s = (.ok (), s'))
    (hs : s.Writable) : s'.Writable := by
  rcases exists_converted hrun with ⟨shelf, catalog, sorted, worked, furnished, h⟩
  -- phase by phase: new catalogs, passes over static nodes, replacements, and the flush
  rcases h.sorted_eq with ⟨journal, hsorted⟩
  have hopened : sorted.Writable := hsorted ▸ hs.opened h.opened journal
  have hworked : worked.Writable := by
    refine forM_invariant hopened ?_ h.passes
    intro node _ t t' ht hpasses
    refine forM_invariant ht ?_ hpasses
    intro pass _ u u' hu happly
    exact writable_of_apply htools happly hu
  have hfurnished : furnished.Writable := by
    refine forM_invariant hworked ?_ h.replacements
    intro node _ t t' ht hreplace
    rcases runIn_discard_eq_ok_iff.1 hreplace with ⟨replacement, hreplace⟩
    exact writable_of_replaceContent htools hreplace ht
  rw [h.flushed]
  exact hfurnished.of_same rfl rfl rfl

theorem writable_of_process (htools : p.tools.KeepWritable) (hrun : (p.process scene).runIn s = (.ok (), s'))
    (hs : s.Writable) : s'.Writable := by
  rcases of_process hrun with ⟨journal, rfl⟩ | ⟨t, journal, hconvert, rfl⟩
  · exact hs.of_same rfl rfl rfl
  · exact (writable_of_convert htools hconvert hs).of_same rfl rfl rfl

end

end LevelPrep
