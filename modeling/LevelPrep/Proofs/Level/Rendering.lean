import LevelPrep.Proofs.Level.Assembly
import LevelPrep.Proofs.Pass.Statics

/-!
# How a converted level is drawn

With the usual passes and an unwrapper that only sets coordinates, every mesh instance in the tree of a child
without a match ends up as its name asks for, and every mesh that is not hidden is unwrapped once.

* `Drawn`: how a mesh instance is drawn in the end, in terms of its name and of how it was drawn;
* `LevelRendering`: how the static trees of a scene are drawn in the end;
* `rendering_of_convert`: every conversion that succeeds draws them like this.
-/

namespace LevelPrep

variable {R : Type}

open Work SceneGraph

/-! ## The usual passes -/

/-- A surface has kept its geometry, and has the material that its own one was matched with: a blank one if it
had none or there was no match. -/
structure Redressed (answer : Json → Except Fault (Option CatalogEntry))
    (surface surface' : Surface Geometry Material) : Prop where
  geometry : surface'.geometry = surface.geometry
  blank : surface.material = none → surface'.material = some {}
  matched : ∀ material, surface.material = some material →
    ∃ found, answer material.name = .ok found ∧ surface'.material = some (replacementFor found)

/-- How a mesh instance of a static tree is drawn in the end. -/
structure Drawn (g : Grammar) (answer : Json → Except Fault (Option CatalogEntry)) (name : Json)
    (i i' : MeshInstance Geometry Material) : Prop where
  hidden : g.hides name = true → i'.mesh = none ∧ i'.ignoreOcclusionCulling = true
  shown : g.hides name = false →
    i'.ignoreOcclusionCulling = i.ignoreOcclusionCulling ∧ (i'.mesh = none ↔ i.mesh = none)
  mesh : ∀ mesh', i'.mesh = some mesh' → ∃ mesh, i.mesh = some mesh ∧ mesh'.name = mesh.name ∧
    List.Forall₂ (Redressed answer) mesh.surfaces mesh'.surfaces
  giMode : i'.giMode =
    if i'.mesh.isSome && g.carries name .noBake then .dynamic else i.giMode
  castShadow : i'.castShadow = if g.carries name .noShadow then .off else .doubleSided
  layers : i'.layers = (g.layers? name).getD i.layers

section

variable {answer : Json → Except Fault (Option CatalogEntry)}

theorem redressed_of_dress {surface surface' : Surface Geometry Material}
    (hempty : ∀ found, answer (.str "") = .ok found → found = none)
    (h : surface.dress answer = .ok surface') : Redressed answer surface surface' := by
  rcases bind_eq_ok_iff.1 h with ⟨found, hfound, hlast⟩
  cases hlast
  unfold Surface.materialName at hfound
  refine ⟨rfl, fun hnone => ?_, fun material hmaterial => ⟨found, ?_, rfl⟩⟩
  · rw [hnone] at hfound
    rw [hempty found hfound]
    rfl
  · rwa [hmaterial] at hfound

/-- A mesh instance as the usual passes leave it before its materials are replaced. -/
def prepared {G M : Type} (g : Grammar) (name : Json) (i : MeshInstance G M) : MeshInstance G M where
  mesh := if g.hides name then none else i.mesh
  castShadow := if g.carries name .noShadow then .off else .doubleSided
  giMode := if !g.hides name && i.mesh.isSome && g.carries name .noBake then .dynamic else i.giMode
  layers := (g.layers? name).getD i.layers
  ignoreOcclusionCulling := g.hides name || i.ignoreOcclusionCulling

theorem dress_prepared_of_restyleAll {g : Grammar} {name : Json} {i i' : MeshInstance Geometry Material}
    (h : restyleAll PassKind.all g answer name i = .ok i') :
    (prepared g name i).dress answer = .ok i' := by
  -- hiding, lighting, shadows and layers put together, case by case of what the name asks for
  have hprepared : ((if (i.asHidden g name).mesh.isSome then (i.asHidden g name).asLit g name
      else i.asHidden g name).asShadowing g name).asLayered g name = prepared g name i := by
    rcases i with ⟨mesh, castShadow, giMode, layers, ignoreOcclusionCulling⟩
    unfold MeshInstance.asHidden MeshInstance.asLit MeshInstance.asShadowing MeshInstance.asLayered
      prepared
    cases g.hides name <;> cases mesh <;> cases g.carries name .noBake <;> cases g.layers? name <;> rfl
  obtain ⟨m, hm, hlast⟩ := bind_eq_ok_iff.1 (show
    ((((if (i.asHidden g name).mesh.isSome then (i.asHidden g name).asLit g name
      else i.asHidden g name).asShadowing g name).asLayered g name).dress answer >>= pure) = .ok i' from h)
  cases hlast
  rwa [hprepared] at hm

/-- What the usual passes make of a mesh instance. -/
theorem drawn_of_restyleAll {g : Grammar} {name : Json} {i i' : MeshInstance Geometry Material}
    (hempty : ∀ found, answer (.str "") = .ok found → found = none)
    (h : restyleAll PassKind.all g answer name i = .ok i') : Drawn g answer name i i' := by
  -- after the other passes have prepared it, only what still shows a mesh is dressed
  rcases cases_of_dress (dress_prepared_of_restyleAll h) with
    ⟨hnone, rfl⟩ | ⟨mesh, dressed, hmesh, hdressed, rfl⟩
  · refine ⟨fun hhides => ⟨hnone, by simp [prepared, hhides]⟩, fun hhides => ?_, ?_, ?_, rfl, rfl⟩
    · simp [prepared, hhides]
    · intro mesh' hmesh'
      rw [hnone] at hmesh'
      cases hmesh'
    · cases hhides : g.hides name <;> simp_all [prepared]
  · obtain ⟨hhides, himesh⟩ : g.hides name = false ∧ i.mesh = some mesh := by
      simpa [prepared] using hmesh
    rcases bind_eq_ok_iff.1 hdressed with ⟨surfaces, hsurfaces, hlast⟩
    cases hlast
    refine ⟨fun h => ?_, fun _ => ?_, ?_, ?_, rfl, rfl⟩
    · rw [hhides] at h
      cases h
    · simp [prepared, hhides, himesh]
    · rintro _ ⟨⟩
      exact ⟨mesh, himesh, rfl,
        (forall₂_of_mapM hsurfaces).imp fun _ _ hsurface => redressed_of_dress hempty hsurface⟩
    · simp [prepared, hhides, himesh]

end

/-! ## Static trees -/

namespace Assembled

variable [Zero R] [One R] {tools : Tools R} {catalog : Catalog} {scene : NodeId}
  {static replaceable : List NodeId} {s t u s' : Session R}

/-- Mesh instances of static trees are in the end as the passes have left them. -/
theorem meshInstance?_static (h : Assembled tools catalog scene static replaceable s t u s') {root x : NodeId}
    (hroot : root ∈ static) (hx : s.stage.graph.Within root x) :
    s'.stage.graph.meshInstance? x = t.stage.graph.meshInstance? x := by
  have hscene := ((Within.refl _ scene).child (h.mem_children_of_static hroot)).trans hx
  have hlt := h.opened.linked.index_lt_of_within hscene h.opened.inside
  rcases exists_node?_iff.2 (hlt.trans_le h.reshaped.size_le) with ⟨n, hn⟩
  rw [meshInstance?_of_node? hn, meshInstance?_of_node? (h.node?_static hroot hx hn)]

/-- They are drawn as the passes have left them. -/
theorem look_static (h : Assembled tools catalog scene static replaceable s t u s') (ht : t.stage.Sound)
    {root x : NodeId} (hroot : root ∈ static) (hx : s.stage.graph.Within root x) :
    s'.stage.look x = t.stage.look x :=
  ht.look_eq (h.resources ▸ h.furnished.resources) (h.meshInstance?_static hroot hx)

/-- Their meshes are laid out as the passes have left them. -/
theorem layout_static (h : Assembled tools catalog scene static replaceable s t u s') (ht : t.stage.Sound)
    {root x : NodeId} (hroot : root ∈ static) (hx : s.stage.graph.Within root x) :
    s'.stage.layout x = t.stage.layout x := by
  refine ht.layout_eq (h.resources ▸ h.furnished.resources) ?_
  rw [mesh?, mesh?, h.meshInstance?_static hroot hx]

end Assembled

/-- The trees of children of one node have nothing in common. -/
theorem apart_staticChildren {g : SceneGraph R} (hg : g.Linked) (catalog : Catalog) (scene : NodeId) :
    Apart g (staticChildren catalog scene g) where
  nodup := (hg.nodup_children scene).filter _
  unique _ ha _ hb _ hxa hxb :=
    hg.child_unique (List.mem_filter.1 ha).1 (List.mem_filter.1 hb).1 hxa hxb

/-- A session is orderly once its catalogs have been opened, if its meshes are good. -/
theorem orderly_of_ofSettings {s : Session R} {settings : List (String × CatalogSettings)}
    {shelf : Shelf} {journal : Array LogRecord} (hsound : s.stage.Sound)
    (hshelf : Shelf.ofSettings s.disk settings = .ok shelf) :
    Orderly { s with shelf := shelf, journal := journal } := by
  refine ⟨hsound, fun catalog hcatalog => Shelf.exists_listsDirectory hshelf hcatalog, ?_⟩
  intro name entry id _ hkept
  rw [(Shelf.of_ofSettings hshelf).1] at hkept
  cases hkept

/-- What is planted refers to what is there. -/
theorem sound_of_plantScene {branch : Branch R} {scene : NodeId} {s s' : Session R}
    (hs : s.stage.graph.Linked) (hsound : s.stage.Sound)
    (h : (plantScene branch).runIn s = (.ok scene, s')) : s'.stage.Sound := by
  have hplanted := (ownScene_of_plantScene hs h).2
  intro x mesh hmesh
  rcases Option.bind_eq_some_iff.1 hmesh with ⟨i, hi, himesh⟩
  rcases Option.bind_eq_some_iff.1 hi with ⟨n, hn, hpayload⟩
  by_cases hlt : x.index < s.stage.graph.size
  · rw [hplanted.old x hlt] at hn
    refine (hplanted.resources.mesh (hsound x mesh ?_)).1
    exact Option.bind_eq_some_iff.2 ⟨i, Option.bind_eq_some_iff.2 ⟨n, hn, hpayload⟩, himesh⟩
  · exact (hplanted.new x n (Nat.not_lt.1 hlt) hn).known i mesh hpayload himesh

/-! ## Levels -/

/-- The nodes of static trees that keep their mesh, tree by tree and level by level. -/
def unhidden (g : Grammar) (graph : SceneGraph R) (nodes : List NodeId) : List NodeId :=
  nodes.flatMap fun node =>
    (graph.levelOrder node).filter fun x => (graph.mesh? x).isSome && !g.hides (graph.name x)

theorem keepers_eq_unhidden (g : Grammar) (s : Session R) (nodes : List NodeId) :
    keepers [.collision, .renderRemoval] g s nodes = unhidden g s.stage.graph nodes := by
  refine List.flatMap_congr fun node _ => List.filter_congr fun x _ => ?_
  rw [Bool.eq_iff_iff, Bool.and_eq_true, Stage.isSome_mesh?_iff]
  unfold keepsMesh
  cases hi : s.stage.look x with
  | none => simp
  | some i =>
      show ((i.asHidden g (s.stage.graph.name x)).mesh.isSome) = true ↔ _
      rw [MeshInstance.mesh_asHidden]
      cases g.hides (s.stage.graph.name x) <;> simp

theorem nodup_unhidden (g : Grammar) {graph : SceneGraph R} (hgraph : graph.Linked) {nodes : List NodeId}
    (hapart : Apart graph nodes) : (unhidden g graph nodes).Nodup := by
  refine List.nodup_flatMap.2 ⟨fun node _ => (nodup_levelOrder hgraph node).filter _, ?_⟩
  refine hapart.nodup.imp_of_mem fun ha hb hne => ?_
  intro x hxa hxb
  exact hne (hapart.unique _ ha _ hb x ((mem_levelOrder_iff hgraph).1 (List.mem_filter.1 hxa).1)
    ((mem_levelOrder_iff hgraph).1 (List.mem_filter.1 hxb).1))

/-- How a conversion leaves the static trees of a scene drawn, given the opened catalogs. -/
structure LevelRendering (p : LevelProcessor R) (shelf : Shelf) (catalog : Catalog) (scene : NodeId)
    (s s' : Session R) : Prop where
  /-- Every mesh instance in the tree of a child without a match is drawn as its name asks for. -/
  drawn : ∀ child ∈ s.stage.graph.children scene,
    catalog.bestMatch (s.stage.graph.name child) = .ok none →
    ∀ x i, s.stage.graph.Within child x → s.stage.look x = some i →
      ∃ i', s'.stage.look x = some i' ∧ Drawn p.grammar shelf.materialFor (s.stage.graph.name x) i i'
  /-- The unwrapper was called for the meshes that are kept, for one after another and for none of them twice, and for
  nothing else; each node shows what the call for it gave back, up to the materials. -/
  nodup : (unhidden p.grammar s.stage.graph (staticChildren catalog scene s.stage.graph)).Nodup
  asked : Asked p.tools.unwrap p.settings p.grammar
    (unhidden p.grammar s.stage.graph (staticChildren catalog scene s.stage.graph)) s s'

/-- A conversion with the usual passes that succeeds draws every static tree as its names ask for. -/
theorem rendering_of_convert [Zero R] [One R] [Add R] [Mul R] (p : LevelProcessor R)
    (hpasses : p.passes = PassKind.all) (hunwrap : Lightmap.SetsCoordinates p.tools.unwrap)
    {scene : NodeId} {s s' : Session R} (hscene : OpenScene scene s) (hsound : s.stage.Sound)
    (hrun : (p.convert scene).runIn s = (.ok (), s')) :
    ∃ (shelf : Shelf) (catalog : Catalog),
      Shelf.ofSettings s.disk p.settings.catalogs = .ok shelf ∧
      shelf.packedSceneCatalog = .ok catalog ∧ LevelRendering p shelf catalog scene s s' := by
  rcases exists_assembled hscene hrun with ⟨shelf, catalog, sorted, t, u, hconverted, h⟩
  rcases hconverted.sorted_eq with ⟨journal, rfl⟩
  have hlinked := hscene.linked
  have horderly : Orderly { s with shelf := shelf, journal := journal } :=
    orderly_of_ofSettings hsound hconverted.opened
  have hworkable : Workable (· ∈ staticChildren catalog scene s.stage.graph)
      { s with shelf := shelf, journal := journal } :=
    ⟨hlinked, fun root hroot => (hlinked.index_lt_of_mem_children (List.mem_filter.1 hroot).1).2⟩
  have hapart := apart_staticChildren hlinked catalog scene
  have hstatic := hconverted.passes
  rw [hpasses] at hstatic
  have hrendered := rendered_of_static hworkable (fun _ hnode => hnode) hapart horderly hunwrap hstatic
  have hasked := asked_of_static [.collision, .renderRemoval] [.shadow, .renderLayer, .material] hworkable
    (fun _ hnode => hnode) hapart horderly hunwrap (by decide) (by decide) (by decide) hstatic
  refine ⟨shelf, catalog, hconverted.opened, hconverted.catalog_eq, ?_, ?_, ?_⟩
  · intro child hchild hmatch x i hx hi
    have hroot : child ∈ staticChildren catalog scene s.stage.graph := by
      refine List.mem_filter.2 ⟨hchild, ?_⟩
      rw [Catalog.hasMatch_of_bestMatch hmatch]
      rfl
    rw [h.look_static hrendered.orderly.sound hroot hx]
    -- a mesh instance stays one, so only the second case is left
    rcases cases_of_optionRel (hrendered.inside child hroot x hx) with ⟨hnone, -⟩ | ⟨j, i', hj, hi', hall⟩
    · cases hnone.symm.trans hi
    · cases hj.symm.trans hi
      exact ⟨i', hi', drawn_of_restyleAll (fun _ => Shelf.eq_none_of_materialFor_empty hconverted.opened) hall⟩
  · exact nodup_unhidden p.grammar hlinked hapart
  · -- neither the replacements nor the flush call the unwrapper or reach a static tree
    have hsilent : s'.unwrapCalls = t.unwrapCalls := by
      rw [hconverted.flushed]
      exact h.furnished.unwrapCalls
    rw [keepers_eq_unhidden] at hasked
    rw [← List.append_nil (unhidden _ _ _)]
    refine hasked.trans (.of_silent hsilent) (fun x hx => ?_) (by simp)
    rcases List.mem_flatMap.1 hx with ⟨root, hroot, hmem⟩
    have hwithin := (mem_levelOrder_iff hlinked).1 (List.mem_filter.1 hmem).1
    exact h.layout_static hrendered.orderly.sound hroot hwithin

/-! ## A hall with a ghost -/

/-- A static child that is unwrapped and lit dynamically, with a hidden node below it. -/
def hallScene : Branch Float :=
  .node (.str "Level") Matrix.identity .plain [
    .node (.str "Hall=NoBake=Layer\x7b6\x7d") Matrix.identity
      (.meshInstance { mesh := some { name := .str "hall", surfaces := [
        { geometry := {}, material := some { name := .str "OldStone" } }, { geometry := {} }] } }) [
      .node (.str "Ghost=NoRender=NoShadow") Matrix.identity (.meshInstance { mesh := some {} }) []]]

/-- A disk with one material and no packaged scenes. -/
def hallDisk : Disk where
  home := { anchor := .root false, parts := ["home"] }
  entries := [(["home", "Scenes"], .directory), (["home", "Materials"], .directory),
    (["home", "Materials", "Stone.tres"], .file "".toUTF8)]

/-- A processor with the usual passes. -/
def hallProcessor : LevelProcessor Float where
  settings :=
    { levelIndicator := .str "Level"
      baseTexel := .float 0.2
      grammar := { indicator := .str "=", valueStart := .str "(", valueEnd := .str ")", keywords := [] }
      catalogs := [("packed_scene", { root := .str "Scenes" }), ("material", { root := .str "Materials" })]
      passes := PassKind.all.map fun kind => .str kind.word }
  grammar := Grammar.default
  passes := PassKind.all
  tools :=
    { loadScene := fun _ _ => ([], .error .malformed)
      unwrap := fun mesh _ _ r => (.ok (Lightmap.placeholder mesh r), r) }

/-- The session with the planted hall. -/
def hallSession : Session Float :=
  ((plantScene hallScene).runIn { disk := hallDisk }).2

theorem rendering_of_convert_hallScene :
    hallProcessor.passes = PassKind.all ∧ Lightmap.SetsCoordinates hallProcessor.tools.unwrap ∧
      OpenScene ⟨0⟩ hallSession ∧ hallSession.stage.Sound ∧
      ((hallProcessor.convert ⟨0⟩).runIn hallSession).1.toOption = some () ∧
      ∃ (shelf : Shelf) (catalog : Catalog),
        Shelf.ofSettings hallSession.disk hallProcessor.settings.catalogs = .ok shelf ∧
        shelf.packedSceneCatalog = .ok catalog ∧
        LevelRendering hallProcessor shelf catalog ⟨0⟩ hallSession
          ((hallProcessor.convert ⟨0⟩).runIn hallSession).2 := by
  have hplant : (plantScene hallScene).runIn { disk := hallDisk } = (.ok ⟨0⟩, hallSession) := rfl
  have hopen : OpenScene ⟨0⟩ hallSession := openScene_of_plantScene Linked.empty hplant
  have hsound : hallSession.stage.Sound := by
    refine sound_of_plantScene Linked.empty ?_ hplant
    intro x mesh hmesh
    cases hmesh
  have hunwrap : Lightmap.SetsCoordinates hallProcessor.tools.unwrap := Lightmap.setsCoordinates_placeholder
  have hrun : ((hallProcessor.convert ⟨0⟩).runIn hallSession).1.toOption = some () := by
    decide +kernel
  exact ⟨rfl, hunwrap, hopen, hsound, hrun,
    rendering_of_convert hallProcessor rfl hunwrap hopen hsound (runIn_eq_of_toOption hrun)⟩

end LevelPrep
