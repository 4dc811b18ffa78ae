import LevelPrep.Lightmap
import LevelPrep.Proofs.Catalog.Entries
import LevelPrep.Proofs.Mesh.Sharing
import LevelPrep.Proofs.Pass.Restyling

/-!
# How mesh instances look

`Stage.look` tells how a node is drawn, with everything that its mesh refers to and without lightmap
coordinates.  In an `Orderly` session the references of all meshes are good and the materials that are kept
are those of their catalog entries.  Each round of a pass keeps a session orderly and restyles one node:

* `restyled_of_redrawn`: a change of how the node is drawn;
* `restyled_of_baked`: nothing that is seen, if unwrapping only sets coordinates.
-/

namespace LevelPrep

variable {R : Type}

/-- The surface without lightmap coordinates. -/
def Surface.bare {G M : Type} (s : Surface G M) : Surface G M where
  geometry := s.geometry
  material := s.material

/-- The mesh without lightmap coordinates and without the size that they were made for. -/
def Mesh.bare {G M : Type} (mesh : Mesh G M) : Mesh G M where
  name := mesh.name
  surfaces := mesh.surfaces.map Surface.bare

namespace Resources

variable {r r' : Resources}

/-- A mesh instance with everything that it refers to, less lightmap coordinates. -/
def look (r : Resources) (i : MeshInstance GeometryId MaterialId) : MeshInstance Geometry Material :=
  { i with mesh := i.mesh.map fun mesh => (r.meshValue mesh).bare }

theorem Extends.look (h : r.Extends r') {i : MeshInstance GeometryId MaterialId}
    (hi : ∀ mesh, i.mesh = some mesh → Mesh.Known r mesh) : r'.look i = r.look i := by
  unfold Resources.look
  cases hmesh : i.mesh with
  | none => rfl
  | some mesh => simp [(h.mesh (hi mesh hmesh)).2]

end Resources

namespace Stage

variable {stage stage' : Stage R}

/-- How a node is drawn, if it is a mesh instance. -/
def look (stage : Stage R) (x : NodeId) : Option (MeshInstance Geometry Material) :=
  (stage.graph.meshInstance? x).map stage.resources.look

/-- Everything that the meshes of live nodes refer to is there. -/
def Sound (stage : Stage R) : Prop :=
  ∀ x mesh, stage.graph.mesh? x = some mesh → Mesh.Known stage.resources mesh

theorem Sound.known (h : stage.Sound) {x : NodeId} {i : MeshInstance GeometryId MaterialId}
    (hi : stage.graph.meshInstance? x = some i) :
    ∀ mesh, i.mesh = some mesh → Mesh.Known stage.resources mesh := by
  intro mesh hmesh
  exact h x mesh (by simp [SceneGraph.mesh?, hi, hmesh])

/-- A mesh instance that stays as it is looks as before, whatever resources are added. -/
theorem Sound.look_eq (h : stage.Sound) (hext : stage.resources.Extends stage'.resources) {x : NodeId}
    (hx : stage'.graph.meshInstance? x = stage.graph.meshInstance? x) : stage'.look x = stage.look x := by
  unfold look
  rw [hx]
  cases hi : stage.graph.meshInstance? x with
  | none => rfl
  | some i => exact congrArg some (hext.look (h.known hi))

/-- What is looked at has a mesh exactly if the node has one. -/
theorem isSome_mesh?_iff (stage : Stage R) (x : NodeId) :
    (stage.graph.mesh? x).isSome ↔ ∃ i, stage.look x = some i ∧ i.mesh.isSome := by
  unfold SceneGraph.mesh? look
  cases stage.graph.meshInstance? x <;> simp [Resources.look]

theorem index_lt_of_look {x : NodeId} {i : MeshInstance Geometry Material} (h : stage.look x = some i) :
    x.index < stage.graph.size := by
  rcases Option.map_eq_some_iff.1 h with ⟨j, hj, -⟩
  rcases Option.bind_eq_some_iff.1 hj with ⟨n, hn, -⟩
  exact SceneGraph.index_lt_of_node? hn

end Stage

theorem SceneGraph.meshInstance?_modifyInstance (g : SceneGraph R) (id : NodeId)
    (change : MeshInstance GeometryId MaterialId → MeshInstance GeometryId MaterialId) (x : NodeId) :
    (g.modifyInstance id change).meshInstance? x =
      if x = id then (g.meshInstance? x).map change else g.meshInstance? x := by
  unfold SceneGraph.meshInstance?
  rw [SceneGraph.node?_modifyInstance]
  split_ifs
  · cases g.node? x <;> simp
  · rfl

theorem SceneGraph.name_modifyInstance (g : SceneGraph R) (id : NodeId)
    (change : MeshInstance GeometryId MaterialId → MeshInstance GeometryId MaterialId) (x : NodeId) :
    (g.modifyInstance id change).name x = g.name x := by
  unfold SceneGraph.name
  rw [SceneGraph.node?_modifyInstance]
  split_ifs
  · cases g.node? x <;> rfl
  · rfl

/-! ## Orderly sessions -/

namespace Shelf

variable {shelf shelf' : Shelf} {r r' : Resources}

theorem materialFor_eq (h : shelf'.catalogs = shelf.catalogs) :
    shelf'.materialFor = shelf.materialFor := by
  unfold materialFor materialCatalog catalog
  rw [h]

/-- The materials that are kept are those of their entries. -/
def Holds (shelf : Shelf) (r : Resources) : Prop :=
  ∀ name entry id, shelf.materialFor name = .ok (some entry) →
    shelf.materials.lookup entry.assetId = some id →
    r.HasMaterial id ∧ r.material id = entry.material

theorem Holds.of_extends (h : shelf.Holds r) (hext : r.Extends r') : shelf.Holds r' := by
  intro name entry id hentry hkept
  rcases h name entry id hentry hkept with ⟨hhas, hvalue⟩
  rcases hext.hasMaterial hhas with ⟨hhas', hvalue'⟩
  exact ⟨hhas', hvalue'.trans hvalue⟩

/-- The catalog of materials is the listing of a directory. -/
def Listed (shelf : Shelf) : Prop :=
  ∀ catalog, shelf.materialCatalog = .ok catalog → ∃ root, catalog.ListsDirectory root

theorem Listed.of_catalogs (h : shelf.Listed) (hcatalogs : shelf'.catalogs = shelf.catalogs) :
    shelf'.Listed := by
  unfold Listed materialCatalog catalog at h ⊢
  rw [hcatalogs]
  exact h

/-- Entries of one name that two names are matched with are one entry. -/
theorem Listed.eq_of_assetId (h : shelf.Listed) {name name' : Json} {entry entry' : CatalogEntry}
    (hentry : shelf.materialFor name = .ok (some entry))
    (hentry' : shelf.materialFor name' = .ok (some entry')) (hid : entry.assetId = entry'.assetId) :
    entry = entry' :=
  Catalog.eq_of_matches h hentry hentry' hid

end Shelf

/-- All references of meshes are good, and the materials that are kept are those of their entries. -/
structure Orderly (s : Session R) : Prop where
  sound : s.stage.Sound
  listed : s.shelf.Listed
  holds : s.shelf.Holds s.stage.resources

/-- The session after one node was restyled, from what it looked like to what it looks like now. -/
structure Restyled (id : NodeId)
    (change : MeshInstance Geometry Material → MeshInstance Geometry Material → Prop)
    (s s' : Session R) : Prop where
  orderly : Orderly s'
  name_eq : ∀ x, s'.stage.graph.name x = s.stage.graph.name x
  catalogs : s'.shelf.catalogs = s.shelf.catalogs
  self : Option.Rel change (s.stage.look id) (s'.stage.look id)
  others : ∀ x, x ≠ id → s'.stage.look x = s.stage.look x

theorem optionRel_refl {α : Type} {rel : α → α → Prop} {v : Option α} (h : ∀ a, v = some a → rel a a) :
    Option.Rel rel v v := by
  cases v with
  | none => exact .none
  | some a => exact .some (h a rfl)

theorem cases_of_optionRel {α β : Type} {rel : α → β → Prop} {v : Option α} {w : Option β}
    (h : Option.Rel rel v w) : v = none ∧ w = none ∨ ∃ a b, v = some a ∧ w = some b ∧ rel a b := by
  cases h with
  | none => exact Or.inl ⟨rfl, rfl⟩
  | some hab => exact Or.inr ⟨_, _, rfl, rfl, hab⟩

theorem eq_of_optionRel {α : Type} {v w : Option α} (h : Option.Rel Eq v w) : v = w := by
  cases h with
  | none => rfl
  | some hab => rw [hab]

theorem optionRel_mono {α β : Type} {rel rel' : α → β → Prop} {v : Option α} {w : Option β}
    (hvw : Option.Rel rel v w) (h : ∀ a b, v = some a → rel a b → rel' a b) : Option.Rel rel' v w := by
  cases hvw with
  | none => exact .none
  | some hab => exact .some (h _ _ rfl hab)

theorem optionRel_trans {α β γ : Type} {rel : α → β → Prop} {rel' : β → γ → Prop} {v : Option α}
    {w : Option β} {u : Option γ} (hvw : Option.Rel rel v w) (hwu : Option.Rel rel' w u) :
    Option.Rel (fun a c => ∃ b, rel a b ∧ rel' b c) v u := by
  cases hvw with
  | none =>
      cases hwu
      exact .none
  | some hab =>
      cases hwu with
      | some hbc => exact .some ⟨_, hab, hbc⟩

variable {s s' t : Session R} {id : NodeId}

theorem Restyled.refl {change : MeshInstance Geometry Material → MeshInstance Geometry Material → Prop}
    (hs : Orderly s) (hsame : ∀ i, s.stage.look id = some i → change i i) : Restyled id change s s where
  orderly := hs
  name_eq _ := rfl
  catalogs := rfl
  self := optionRel_refl hsame
  others _ _ := rfl

/-- A node whose payload is changed is restyled as it is seen with the resources there are then. -/
theorem restyled_of_modify {change : MeshInstance Geometry Material → MeshInstance Geometry Material → Prop}
    (hs : Orderly s) (f : MeshInstance GeometryId MaterialId → MeshInstance GeometryId MaterialId)
    (hgraph : s'.stage.graph = s.stage.graph.modifyInstance id f)
    (hext : s.stage.resources.Extends s'.stage.resources)
    (hcatalogs : s'.shelf.catalogs = s.shelf.catalogs) (hholds : s'.shelf.Holds s'.stage.resources)
    (hself : ∀ i, s.stage.graph.meshInstance? id = some i →
      (∀ mesh, (f i).mesh = some mesh → Mesh.Known s'.stage.resources mesh) ∧
      change (s.stage.resources.look i) (s'.stage.resources.look (f i))) : Restyled id change s s' := by
  refine ⟨⟨?_, hs.listed.of_catalogs hcatalogs, hholds⟩, ?_, hcatalogs, ?_, ?_⟩
  · -- references stay good: those of the node by assumption, all others because resources only grow
    intro x mesh hmesh
    unfold SceneGraph.mesh? at hmesh
    rw [hgraph, SceneGraph.meshInstance?_modifyInstance] at hmesh
    split_ifs at hmesh with hx
    · subst hx
      cases hi : s.stage.graph.meshInstance? x with
      | none => simp [hi] at hmesh
      | some i => exact (hself i hi).1 mesh (by simpa [hi] using hmesh)
    · exact (hext.mesh (hs.sound x mesh hmesh)).1
  · intro x
    rw [hgraph, SceneGraph.name_modifyInstance]
  · unfold Stage.look
    rw [hgraph, SceneGraph.meshInstance?_modifyInstance, if_pos rfl]
    cases hi : s.stage.graph.meshInstance? id with
    | none => exact .none
    | some i => exact .some (hself i hi).2
  · intro x hx
    refine hs.sound.look_eq hext ?_
    rw [hgraph, SceneGraph.meshInstance?_modifyInstance, if_neg hx]

/-! ## Rounds that redraw a node -/

/-- A node is redrawn as it is seen, by a change that says the same of references and of what they stand
for. -/
theorem restyled_of_redrawn {f : MeshInstance GeometryId MaterialId → MeshInstance GeometryId MaterialId}
    {f' : MeshInstance Geometry Material → MeshInstance Geometry Material} (hs : Orderly s)
    (hmesh : ∀ i mesh, (f i).mesh = some mesh → i.mesh = some mesh)
    (hlook : ∀ (r : Resources) i, r.look (f i) = f' (r.look i)) (h : Redrawn id f s s') :
    Restyled id (fun i i' => i' = f' i) s s' := by
  rcases h with ⟨journal, rfl⟩
  refine restyled_of_modify hs f rfl (.refl _) rfl hs.holds fun i hi => ⟨?_, hlook _ i⟩
  exact fun mesh h => hs.sound.known hi mesh (hmesh i mesh h)

namespace MeshInstance

variable {G M : Type} (g : Grammar) (name : Json)

theorem look_asHidden (r : Resources) (i : MeshInstance GeometryId MaterialId) :
    r.look (i.asHidden g name) = (r.look i).asHidden g name := by
  unfold asHidden
  split_ifs <;> rfl

theorem look_asLit (r : Resources) (i : MeshInstance GeometryId MaterialId) :
    r.look (i.asLit g name) = (r.look i).asLit g name := by
  unfold asLit
  split_ifs <;> rfl

theorem look_asShadowing (r : Resources) (i : MeshInstance GeometryId MaterialId) :
    r.look (i.asShadowing g name) = (r.look i).asShadowing g name :=
  rfl

theorem look_asLayered (r : Resources) (i : MeshInstance GeometryId MaterialId) :
    r.look (i.asLayered g name) = (r.look i).asLayered g name := by
  rw [asLayered_eq, asLayered_eq]
  rfl

end MeshInstance

/-! ## Rounds that make geometry -/

/-- An unwrapper that sets lightmap coordinates and the size they are made for, and nothing else that can be
seen of a mesh. -/
def Lightmap.SetsCoordinates
    (unwrap : LiveMesh → Matrix R → Float → Resources → Except Fault LiveMesh × Resources) : Prop :=
  ∀ mesh transform texel r unwrapped r', Mesh.Known r mesh →
    unwrap mesh transform texel r = (.ok unwrapped, r') →
    r.Extends r' ∧ Mesh.Known r' unwrapped ∧ (r'.meshValue unwrapped).bare = (r.meshValue mesh).bare

/-- Marking a mesh as unwrapped is setting coordinates. -/
theorem Lightmap.setsCoordinates_placeholder :
    Lightmap.SetsCoordinates fun mesh (_ : Matrix R) _ r => (.ok (Lightmap.placeholder mesh r), r) := by
  intro mesh _ _ r unwrapped r' hmesh h
  cases h
  refine ⟨.refl _, ?_, ?_⟩
  · intro s hs
    rcases List.mem_map.1 hs with ⟨old, hold, rfl⟩
    exact ⟨(hmesh old hold).geometry, (hmesh old hold).material⟩
  · simp [Lightmap.placeholder, Mesh.bare, Surface.bare, Resources.meshValue, Mesh.map, Surface.map]

theorem bare_meshValue_rebuild {mesh : LiveMesh} {r : Resources} (hmesh : Mesh.Known r mesh) :
    ((mesh.rebuild r).2.meshValue (mesh.rebuild r).1).bare = (r.meshValue mesh).bare := by
  rw [(Resources.rebuild_spec hmesh).2.2]
  simp [Mesh.bare, Surface.bare, Resources.meshValue, Mesh.map, Resources.surfaceValue]

/-- A baked mesh looks as before. -/
theorem restyled_of_baked {context : PassContext R} (hs : Orderly s)
    (hunwrap : Lightmap.SetsCoordinates context.tools.unwrap) (h : Baked context id s s') :
    Restyled id Eq s s' := by
  cases h with
  | noMesh => exact .refl hs fun _ _ => rfl
  | @unwrapped n mesh unwrapped base texel made hnode hmesh hbase htexel hrun journal =>
      have hknown := hs.sound id mesh hmesh
      rcases Resources.rebuild_spec hknown with ⟨hext, hrebuilt, -⟩
      rcases hunwrap _ _ _ _ _ _ hrebuilt hrun with ⟨hext', hunwrapped, hvalue⟩
      refine restyled_of_modify hs (fun i => { i with mesh := some unwrapped }) rfl (hext.trans hext') rfl
        (hs.holds.of_extends (hext.trans hext')) fun i hi => ⟨?_, ?_⟩
      · rintro _ ⟨⟩
        exact hunwrapped
      · have himesh : i.mesh = some mesh := by simpa [SceneGraph.mesh?, hi] using hmesh
        simp [Resources.look, himesh, hvalue, bare_meshValue_rebuild hknown]

end LevelPrep
