import LevelPrep.Proofs.Catalog.Instances
import LevelPrep.Proofs.Level.Refitting
import LevelPrep.Proofs.Pass.Looks

/-!
# Requests for assets

What single requests come to, in a session in which live nodes may have been changed at will.

* `runIn_materialReplacement_of_kept`, `runIn_materialReplacement_of_new`: a material that is kept is handed out, and
  one that is not is loaded from its file;
* `answers_of_packedSceneReplacement`: a request for a packaged scene hands out things that were made for it.  If the
  scene is not kept yet, another tree is made, which shows what is in the file and is kept for later requests.
-/

namespace LevelPrep

variable {R : Type}

open Work SceneGraph

/-! ## Entries and their names -/

namespace Shelf

/-- The catalog of packaged scenes is the listing of a directory. -/
def ListsScenes (shelf : Shelf) : Prop :=
  ∀ catalog, shelf.packedSceneCatalog = .ok catalog → ∃ root, catalog.ListsDirectory root

variable {shelf shelf' : Shelf}

theorem packedSceneFor_eq (h : shelf'.catalogs = shelf.catalogs) : shelf'.packedSceneFor = shelf.packedSceneFor := by
  unfold packedSceneFor
  rw [packedSceneCatalog_congr h]

theorem ListsScenes.of_catalogs (h : shelf.ListsScenes) (hcatalogs : shelf'.catalogs = shelf.catalogs) :
    shelf'.ListsScenes := by
  unfold ListsScenes
  rw [packedSceneCatalog_congr hcatalogs]
  exact h

/-- Packaged scenes of one file name are one entry. -/
theorem ListsScenes.eq_of_assetId (h : shelf.ListsScenes) {name name' : Json} {entry entry' : CatalogEntry}
    (hentry : shelf.packedSceneFor name = .ok (some entry))
    (hentry' : shelf.packedSceneFor name' = .ok (some entry')) (hid : entry.assetId = entry'.assetId) :
    entry = entry' :=
  Catalog.eq_of_matches h hentry hentry' hid

end Shelf

/-! ## Materials -/

section

variable {name : Json} {entry : CatalogEntry} {id : MaterialId} {s s' : Session R}

theorem runIn_materialReplacement_of_kept (hentry : s.shelf.materialFor name = .ok (some entry))
    (hkept : s.shelf.materials.lookup entry.assetId = some id) :
    (materialReplacement name).runIn s = (.ok id, s) := by
  rw [materialReplacement, runIn_bind, runIn_session]
  simp only [runIn_bind, runIn_lift, hentry, runIn_session, hkept, runIn_pure]

/-- Where no material is kept for an entry, a request goes to its file. -/
theorem runIn_materialReplacement_of_new (hentry : s.shelf.materialFor name = .ok (some entry))
    (hnew : s.shelf.materials.lookup entry.assetId = none) :
    (s.disk.isFile entry.path = .ok true ∧ ∃ id s', (materialReplacement name).runIn s = (.ok id, s') ∧
        s'.stage.resources.material id = entry.material) ∨
      s.disk.isFile entry.path ≠ .ok true ∧ ∃ fault, (materialReplacement name).runIn s = (.error fault, s) := by
  rcases cases_of_materialReplacement name s with ⟨⟨found, hfound, hfile⟩, id, s', hrun⟩ | ⟨hnone, fault, hrun⟩
  · cases hfound.symm.trans hentry
    refine Or.inl ⟨hfile entry rfl hnew, id, s', hrun, ?_⟩
    -- the entry is there and nothing is kept for it, so the material was loaded
    cases takesMaterial_of_materialReplacement hrun with
    | blank hblank => cases hblank.symm.trans hentry
    | kept hother hkept =>
        cases hother.symm.trans hentry
        cases hkept.symm.trans hnew
    | loaded hother _ hmaterial =>
        cases hother.symm.trans hentry
        rw [hmaterial]
        exact Resources.material_addMaterial_self _ _
  · refine Or.inr ⟨fun hfile => hnone ⟨some entry, hentry, ?_⟩, fault, hrun⟩
    rintro _ ⟨⟩ -
    exact hfile

/-- A request that succeeded has left the material with the shelf. -/
theorem material_kept_of_ok (hentry : s.shelf.materialFor name = .ok (some entry))
    (hrun : (materialReplacement name).runIn s = (.ok id, s')) :
    s'.shelf.materials.lookup entry.assetId = some id := by
  cases takesMaterial_of_materialReplacement hrun with
  | blank hblank => cases hblank.symm.trans hentry
  | kept hother hkept =>
      cases hother.symm.trans hentry
      exact hkept
  | loaded hother =>
      cases hother.symm.trans hentry
      simp

end

/-! ## Packaged scenes -/

/-- All packaged scenes that are kept are on the stage as they were planted. -/
def Session.KeepsScenes (s : Session R) : Prop :=
  ∀ key kept, s.shelf.packedScenes.lookup key = some kept → ∃ branch, s.stage.Stores branch kept

/-- The name that replacements for a node of the given name have. -/
def replacedName (name : Json) : Json :=
  .str (name.display ++ " (replaced)")

variable [Zero R] [One R] {tools : Tools R} {s s' t : Session R} {name : Json} {entry : CatalogEntry}
  {branch : Branch R} {kept : NodeId}

/-- A request for a packaged scene makes a copy of the tree that is kept for the entry. -/
theorem runIn_packedSceneReplacement_of_ok (hentry : s.shelf.packedSceneFor name = .ok (some entry))
    (hkept : (packedScene tools entry).runIn s = (.ok kept, t)) :
    (packedSceneReplacement tools name).runIn s = (.ok (Stage.copyTree kept t.stage).1,
      { t with
        stage := (Stage.copyTree kept t.stage).2.rename (Stage.copyTree kept t.stage).1 (replacedName name) }) := by
  unfold packedSceneReplacement
  simp only [runIn_bind, runIn_session, runIn_lift, hentry, hkept]
  rfl

/-- A packaged scene that is kept is copied. -/
theorem exists_instance_of_kept (tools : Tools R) (hentry : s.shelf.packedSceneFor name = .ok (some entry))
    (hkept : s.shelf.packedScenes.lookup entry.assetId = some kept) (hstores : s.stage.Stores branch kept) :
    ∃ id s', (packedSceneReplacement tools name).runIn s = (.ok id, s') ∧ s'.shelf = s.shelf ∧
      s.stage.InstanceOf (branch.rename (replacedName name)) id s'.stage := by
  have hrun : (packedScene tools entry).runIn s = (.ok kept, s) := by
    rw [packedScene, runIn_bind, runIn_session]
    simp only [hkept, runIn_pure]
  exact ⟨_, _, runIn_packedSceneReplacement_of_ok hentry hrun, rfl, hstores.instanceOf _⟩

/-- Where no packaged scene is kept for an entry, it is loaded and kept from then on.  Neither the tree that is kept nor
the one that is handed out leads to anything that was there, and they have nothing in common. -/
theorem exists_instance_of_loaded (hentry : s.shelf.packedSceneFor name = .ok (some entry))
    (hnew : s.shelf.packedScenes.lookup entry.assetId = none)
    (hload : (tools.loadScene s.disk entry.path).2 = .ok branch) :
    ∃ kept id s', (packedSceneReplacement tools name).runIn s = (.ok id, s') ∧
      s'.shelf = { s.shelf with packedScenes := (entry.assetId, kept) :: s.shelf.packedScenes } ∧
      s.stage.InstanceOf (branch.rename (replacedName name)) id s'.stage ∧ s'.stage.Stores branch kept ∧
      ∀ x, s'.stage.Reaches (.node kept) x → x ∉ s.stage.things ∧ ¬ s'.stage.Reaches (.node id) x := by
  rcases Stage.instanceOf_plant branch s.stage with ⟨hinstance, hstores⟩
  obtain ⟨kept, t, hrun, hshelf, hmade, hstored⟩ : ∃ kept t, (packedScene tools entry).runIn s = (.ok kept, t) ∧
      t.shelf = { s.shelf with packedScenes := (entry.assetId, kept) :: s.shelf.packedScenes } ∧
      s.stage.Makes kept t.stage ∧ t.stage.Stores branch kept := by
    rw [packedScene, runIn_bind, runIn_session]
    simp only [hnew, runIn_bind, runIn_loadScene, hload]
    exact ⟨_, _, rfl, rfl, hinstance.toMakes, hstores⟩
  have hcopy := hstored.instanceOf (replacedName name)
  -- what is kept is there before the copy is made, so the copy does not touch it
  have hsame := fun x hx => hcopy.left x (hstored.mem_things hx)
  refine ⟨kept, _, _, runIn_packedSceneReplacement_of_ok hentry hrun, hshelf,
    ⟨hcopy.toMakes.of_earlier hmade.left, hcopy.shown⟩, hstored.of_same hsame, fun x hx => ?_⟩
  rw [Stage.reaches_congr hsame] at hx
  exact ⟨(hmade.fresh x hx).2, fun hin => (hcopy.fresh x hin).2 (hstored.mem_things hx)⟩

/-- Where that fails, so does the request, and nothing is kept. -/
theorem exists_of_refused {fault : Fault} (hentry : s.shelf.packedSceneFor name = .ok (some entry))
    (hnew : s.shelf.packedScenes.lookup entry.assetId = none)
    (hload : (tools.loadScene s.disk entry.path).2 = .error fault) :
    ∃ s', (packedSceneReplacement tools name).runIn s = (.error fault, s') ∧ s'.shelf = s.shelf ∧
      s'.stage = s.stage := by
  unfold packedSceneReplacement packedScene
  simp only [runIn_bind, runIn_session, runIn_lift, hentry, hnew, runIn_loadScene, hload]
  exact ⟨_, rfl, rfl, rfl⟩

/-- What a request for a packaged scene comes to: nothing has changed, or something was made to be handed out.  In the
latter case a scene may have been kept that was not kept before. -/
inductive Answers (name : Json) (s : Session R) : Except Fault NodeId → Session R → Prop
  | refused {fault : Fault} {s' : Session R} (hshelf : s'.shelf = s.shelf) (hstage : s'.stage = s.stage) :
      Answers name s (.error fault) s'
  | given {id : NodeId} {s' : Session R} (hshelf : s'.shelf = s.shelf) (hmakes : s.stage.Makes id s'.stage) :
      Answers name s (.ok id) s'
  | loaded {id kept : NodeId} {s' : Session R} {entry : CatalogEntry} {branch : Branch R}
      (hentry : s.shelf.packedSceneFor name = .ok (some entry))
      (hnew : s.shelf.packedScenes.lookup entry.assetId = none)
      (hshelf : s'.shelf = { s.shelf with packedScenes := (entry.assetId, kept) :: s.shelf.packedScenes })
      (hmakes : s.stage.Makes id s'.stage) (hstores : s'.stage.Stores branch kept)
      (hapart : ∀ x, s'.stage.Reaches (.node kept) x → x ∉ s.stage.things ∧ ¬ s'.stage.Reaches (.node id) x) :
      Answers name s (.ok id) s'

theorem answers_of_packedSceneReplacement (hs : s.KeepsScenes) {outcome : Except Fault NodeId}
    (hrun : (packedSceneReplacement tools name).runIn s = (outcome, s')) : Answers name s outcome s' := by
  cases hfound : s.shelf.packedSceneFor name with
  | error fault =>
      unfold packedSceneReplacement at hrun
      simp only [runIn_bind, runIn_session, runIn_lift, hfound] at hrun
      cases hrun
      exact .refused rfl rfl
  | ok found =>
      cases found with
      | none =>
          -- the placeholder is one new node
          unfold packedSceneReplacement at hrun
          simp only [runIn_bind, runIn_session, runIn_lift, hfound, runIn_debug, runIn_onStage] at hrun
          cases hrun
          exact .given rfl (Stage.makes_plain _ _ (replacedName name) s.stage)
      | some entry =>
          cases hkept : s.shelf.packedScenes.lookup entry.assetId with
          | some kept =>
              rcases hs entry.assetId kept hkept with ⟨branch, hstores⟩
              obtain ⟨id, t, hok, hshelf, hinstance⟩ := exists_instance_of_kept tools hfound hkept hstores
              cases hok.symm.trans hrun
              exact .given hshelf hinstance.toMakes
          | none =>
              cases hload : (tools.loadScene s.disk entry.path).2 with
              | error fault =>
                  obtain ⟨t, herror, hshelf, hstage⟩ := exists_of_refused hfound hkept hload
                  cases herror.symm.trans hrun
                  exact .refused hshelf hstage
              | ok branch =>
                  obtain ⟨kept, id, t, hok, hshelf, hinstance, hstores, hapart⟩ :=
                    exists_instance_of_loaded hfound hkept hload
                  cases hok.symm.trans hrun
                  exact .loaded hfound hkept hshelf hinstance.toMakes hstores hapart

end LevelPrep
