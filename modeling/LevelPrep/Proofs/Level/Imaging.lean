import LevelPrep.Proofs.Level.Readiness
import LevelPrep.Proofs.Level.Tending
import LevelPrep.Proofs.Scene.Pruning

/-!
# Conversions as functions of dumps

What a conversion makes of a scene is told by the disk and the dump of the scene (`LevelProcessor.image`), and it
succeeds exactly if something can be made (`settles_convert`).
-/

namespace LevelPrep

variable {R : Type}

open Work SceneGraph

/-! ## Sorting -/

/-- Children whose names can all be looked up are sorted. -/
theorem exists_classified {children : List NodeId} {catalog : Catalog} {s : Session R}
    (hcatalog : s.shelf.packedSceneCatalog = .ok catalog)
    (hanswered : ∀ id ∈ children, ∃ found, catalog.bestMatch (s.stage.graph.name id) = .ok found) :
    ∃ groups journal, (classify children).runIn s = (.ok groups, { s with journal := journal }) ∧
      groups.static = children.filter (fun id => !catalog.hasMatch (s.stage.graph.name id)) ∧
      groups.replaceable = children.filter (fun id => catalog.hasMatch (s.stage.graph.name id)) := by
  have hlookUp : ∀ id ∈ children, ∃ m,
      ((catalog.bestMatch (s.stage.graph.name id)).map fun found => (id, found.isSome)) = .ok m ∧ True := by
    intro id hid
    rcases hanswered id hid with ⟨found, hfound⟩
    exact ⟨_, by rw [hfound]; rfl, trivial⟩
  rcases exists_mapM_ok hlookUp with ⟨marked, hmarked, -⟩
  rcases runIn_classify children s with ⟨journal, hclassify⟩
  rw [hcatalog, ok_bind, Catalog.marks, hmarked] at hclassify
  rcases of_classify hclassify with ⟨catalog', _, hcatalog', -, -, hstatic, hreplaceable⟩
  cases hcatalog.symm.trans hcatalog'
  exact ⟨_, journal, hclassify, hstatic, hreplaceable⟩

/-! ## What a conversion goes by -/

/-- What is in the packaged scene that a name is matched with. -/
def Shelf.content (tools : Tools R) (disk : Disk) (shelf : Shelf) (name : Json) : Option (Option (Branch R)) :=
  (shelf.packedSceneFor name).toOption.bind fun found =>
    match found with
    | none => some none
    | some entry => (tools.loadScene disk entry.path).2.toOption.map some

namespace Shelf

variable {tools : Tools R} {disk : Disk} {shelf : Shelf} {catalog : Catalog} {name : Json}

theorem content_of_unmatched (hcatalog : shelf.packedSceneCatalog = .ok catalog)
    (hmatch : catalog.bestMatch name = .ok none) : shelf.content tools disk name = some none := by
  have hfound : shelf.packedSceneFor name = .ok none := by
    rw [packedSceneFor, hcatalog]
    exact hmatch
  rw [content, hfound]
  rfl

theorem content_of_matched {entry : CatalogEntry} (hcatalog : shelf.packedSceneCatalog = .ok catalog)
    (hmatch : catalog.bestMatch name = .ok (some entry)) :
    shelf.content tools disk name = (tools.loadScene disk entry.path).2.toOption.map some := by
  have hfound : shelf.packedSceneFor name = .ok (some entry) := by
    rw [packedSceneFor, hcatalog]
    exact hmatch
  rw [content, hfound]
  rfl

/-- A name about which there is something to be said has been looked up. -/
theorem exists_match_of_content {found : Option (Branch R)} (hcatalog : shelf.packedSceneCatalog = .ok catalog)
    (h : shelf.content tools disk name = some found) : ∃ entry, catalog.bestMatch name = .ok entry := by
  cases hmatch : catalog.bestMatch name with
  | ok entry => exact ⟨entry, rfl⟩
  | error fault =>
      have hfound : shelf.packedSceneFor name = .error fault := by
        rw [packedSceneFor, hcatalog]
        exact hmatch
      rw [content, hfound] at h
      cases h

end Shelf

namespace LevelProcessor

/-- What a conversion goes by once its catalogs have been opened. -/
def rules (p : LevelProcessor R) (bake : MeshValue → Matrix R → Float → Option MeshValue) (disk : Disk)
    (shelf : Shelf) : LevelRules R where
  grammar := p.grammar
  texel := p.settings.texel
  bake := bake
  material := Session.supply ({ disk := disk, shelf := shelf } : Session R)
  passes := p.passes
  content := shelf.content p.tools disk

/-- What a conversion makes of a scene that is dumped as `d`, if it succeeds. -/
def image [Zero R] [One R] [Add R] [Mul R] (p : LevelProcessor R)
    (bake : MeshValue → Matrix R → Float → Option MeshValue) (disk : Disk) (d : Snapshot Geometry R) :
    Option (Snapshot Geometry R) :=
  (Shelf.ofSettings disk p.settings.catalogs).toOption.bind fun shelf =>
    shelf.packedSceneCatalog.toOption.bind fun _ => (p.rules bake disk shelf).image d

end LevelProcessor

variable {p : LevelProcessor R} {scene : NodeId} {bake : MeshValue → Matrix R → Float → Option MeshValue}
  {s s' t : Session R} {d : Snapshot Geometry R}

/-- The children of a scene have the group that their dumps ask for. -/
theorem exists_match_of_dump {catalog : Catalog} {child : NodeId} (hg : s.stage.graph.Linked)
    (hanswered : ∀ child ∈ s.stage.graph.children scene,
      ∃ found, catalog.bestMatch (s.stage.graph.name child) = .ok found)
    (hchild : child ∈ s.stage.graph.children scene) (hd : s.stage.snapshot? child = some d) :
    ∃ found, catalog.bestMatch d.head.name = .ok found ∧
      catalog.hasMatch (s.stage.graph.name child) = found.isSome := by
  rcases hanswered child hchild with ⟨found, hfound⟩
  refine ⟨found, ?_, Catalog.hasMatch_of_bestMatch hfound⟩
  rwa [Stage.name_of_snapshot? hg hd] at hfound

section

variable [Zero R] [One R] [Add R] [Mul R]

/-- A child without a match is worked on. -/
theorem LevelProcessor.childImage_of_unmatched {catalog : Catalog} {disk : Disk} {shelf : Shelf} {level : Json}
    (hcatalog : shelf.packedSceneCatalog = .ok catalog) (hmatch : catalog.bestMatch d.head.name = .ok none) :
    (p.rules bake disk shelf).childImage level d = (p.rules bake disk shelf).work level p.passes d := by
  have hcontent : (p.rules bake disk shelf).content d.head.name = some none :=
    Shelf.content_of_unmatched hcatalog hmatch
  rw [LevelRules.childImage, hcontent]
  rfl

/-- A child with a match is refitted with what is in the packaged scene. -/
theorem LevelProcessor.childImage_of_matched {catalog : Catalog} {entry : CatalogEntry} {disk : Disk}
    {shelf : Shelf} {level : Json} (hcatalog : shelf.packedSceneCatalog = .ok catalog)
    (hmatch : catalog.bestMatch d.head.name = .ok (some entry)) :
    (p.rules bake disk shelf).childImage level d =
      (p.tools.loadScene disk entry.path).2.toOption.map (d.refit level) := by
  have hcontent : (p.rules bake disk shelf).content d.head.name =
      (p.tools.loadScene disk entry.path).2.toOption.map some := Shelf.content_of_matched hcatalog hmatch
  rw [LevelRules.childImage, hcontent]
  cases (p.tools.loadScene disk entry.path).2 <;> rfl

variable {catalog : Catalog} {path : Path}

/-- The passes, on the children without a match. -/
theorem settles_staticChildren (hs : Fit s) (hcatalog : s.shelf.packedSceneCatalog = .ok catalog)
    (hanswered : ∀ child ∈ s.stage.graph.children scene,
      ∃ found, catalog.bestMatch (s.stage.graph.name child) = .ok found)
    (hunwrap : .lightmap ∈ p.passes → Lightmap.Computes p.tools.unwrap bake) :
    Settles ((staticChildren catalog scene s.stage.graph).forM fun node =>
        p.passes.forM fun pass => pass.apply (p.context scene) node) s
      (∀ child ∈ staticChildren catalog scene s.stage.graph, ∃ d', (s.stage.snapshot? child).bind
        ((p.rules bake s.disk s.shelf).childImage (s.stage.graph.name scene)) = some d') fun t =>
      Tended scene s t ∧ t.shelf.packedScenes = s.shelf.packedScenes ∧
        (∀ child ∈ staticChildren catalog scene s.stage.graph, t.stage.snapshot? child =
          (s.stage.snapshot? child).bind
            ((p.rules bake s.disk s.shelf).childImage (s.stage.graph.name scene))) ∧
        ∀ child ∈ replaceableChildren catalog scene s.stage.graph,
          t.stage.snapshot? child = s.stage.snapshot? child := by
  have hloop := settles_static (p.context scene) p.passes (staticChildren catalog scene s.stage.graph)
    ((p.rules bake s.disk s.shelf).childImage (s.stage.graph.name scene)) hs
    (fun child hchild => (List.mem_filter.1 hchild).1) ((hs.linked.nodup_children scene).filter _) (by
      intro child hchild d hd
      rcases List.mem_filter.1 hchild with ⟨hchild, hno⟩
      rcases exists_match_of_dump hs.linked hanswered hchild hd with ⟨_ | entry, hfound, hhas⟩
      · exact LevelProcessor.childImage_of_unmatched hcatalog hfound
      · simp [hhas] at hno) hunwrap
  -- a child with a match is not among those that the passes are run on
  refine hloop.congr Iff.rfl ?_
  rintro t - ⟨htended, hkept, hdone, hleft⟩
  refine ⟨htended, hkept, hdone, fun child hchild => ?_⟩
  rcases List.mem_filter.1 hchild with ⟨hchild, hyes⟩
  refine hleft child hchild fun hin => ?_
  have hno := (List.mem_filter.1 hin).2
  simp [hyes] at hno

/-- The replacements, on the children with a match, in a session that may have changed elsewhere. -/
theorem settles_replaceableChildren (bake : MeshValue → Matrix R → Float → Option MeshValue) (hs : Fit s)
    (hcatalog : s.shelf.packedSceneCatalog = .ok catalog)
    (hlists : catalog.ListsDirectory path) (hanswered : ∀ child ∈ s.stage.graph.children scene,
      ∃ found, catalog.bestMatch (s.stage.graph.name child) = .ok found)
    (htended : Tended scene s t) (hempty : t.shelf.packedScenes = [])
    (hsame : ∀ child ∈ replaceableChildren catalog scene s.stage.graph,
      t.stage.snapshot? child = s.stage.snapshot? child) :
    Settles ((replaceableChildren catalog scene s.stage.graph).forM fun node =>
        discard (replaceContent p.tools scene node)) t
      (∀ child ∈ replaceableChildren catalog scene s.stage.graph, ∃ d', (s.stage.snapshot? child).bind
        ((p.rules bake s.disk s.shelf).childImage (s.stage.graph.name scene)) = some d') fun u =>
      Tended scene t u ∧
        (∀ child ∈ replaceableChildren catalog scene s.stage.graph, u.stage.snapshot? child =
          (s.stage.snapshot? child).bind
            ((p.rules bake s.disk s.shelf).childImage (s.stage.graph.name scene))) ∧
        ∀ child ∈ staticChildren catalog scene s.stage.graph,
          u.stage.snapshot? child = t.stage.snapshot? child := by
  have hchildren : ∀ child ∈ replaceableChildren catalog scene s.stage.graph,
      child ∈ t.stage.graph.children scene :=
    fun child hchild => htended.children_eq ▸ (List.mem_filter.1 hchild).1
  have hloop := settles_replacements p.tools (replaceableChildren catalog scene s.stage.graph)
    ((p.rules bake s.disk s.shelf).childImage (s.stage.graph.name scene)) htended.fit hchildren
    ((hs.linked.nodup_children scene).filter _) (htended.packedSceneCatalog_eq.trans hcatalog) hlists
    (by
      intro entry _ branch hlookup
      rw [hempty] at hlookup
      cases hlookup)
    (by
      intro child hchild d hd
      rw [hsame child hchild] at hd
      rcases List.mem_filter.1 hchild with ⟨hchild, hyes⟩
      rcases exists_match_of_dump hs.linked hanswered hchild hd with ⟨_ | entry, hfound, hhas⟩
      · simp [hhas] at hyes
      · rw [htended.disk, htended.name_eq]
        exact ⟨entry, hfound, LevelProcessor.childImage_of_matched hcatalog hfound⟩)
  -- the passes have left these children as they were, so what is made of them is told by the dumps from
  -- before
  refine hloop.congr (forall₂_congr fun child hchild => by rw [hsame child hchild]) ?_
  rintro u - ⟨hu, -, hdone, hleft⟩
  refine ⟨hu, fun child hchild => by rw [hdone child hchild, hsame child hchild], fun child hchild => ?_⟩
  rcases List.mem_filter.1 hchild with ⟨hchild, hno⟩
  refine hleft child (htended.children_eq ▸ hchild) fun hin => ?_
  simp [(List.mem_filter.1 hin).2] at hno

/-- The passes and then the replacements: they succeed exactly if something can be made of every child. -/
theorem settles_groups (hs : Fit s) (hcatalog : s.shelf.packedSceneCatalog = .ok catalog)
    (hlists : catalog.ListsDirectory path) (hempty : s.shelf.packedScenes = [])
    (hanswered : ∀ child ∈ s.stage.graph.children scene,
      ∃ found, catalog.bestMatch (s.stage.graph.name child) = .ok found)
    (hunwrap : .lightmap ∈ p.passes → Lightmap.Computes p.tools.unwrap bake) :
    Settles
      (((staticChildren catalog scene s.stage.graph).forM fun node =>
          p.passes.forM fun pass => pass.apply (p.context scene) node) >>= fun _ =>
        (replaceableChildren catalog scene s.stage.graph).forM fun node =>
          discard (replaceContent p.tools scene node)) s
      (∀ child ∈ s.stage.graph.children scene, ∃ d', (s.stage.snapshot? child).bind
        ((p.rules bake s.disk s.shelf).childImage (s.stage.graph.name scene)) = some d') fun t =>
      Tended scene s t ∧ ∀ child ∈ s.stage.graph.children scene,
        t.stage.snapshot? child = (s.stage.snapshot? child).bind
          ((p.rules bake s.disk s.shelf).childImage (s.stage.graph.name scene)) := by
  have hpasses := settles_staticChildren hs hcatalog hanswered hunwrap
  -- every child is in one of the two groups
  have hable : ((∀ child ∈ staticChildren catalog scene s.stage.graph, ∃ d', (s.stage.snapshot? child).bind
        ((p.rules bake s.disk s.shelf).childImage (s.stage.graph.name scene)) = some d') ∧
      ∀ child ∈ replaceableChildren catalog scene s.stage.graph, ∃ d', (s.stage.snapshot? child).bind
        ((p.rules bake s.disk s.shelf).childImage (s.stage.graph.name scene)) = some d') ↔
      ∀ child ∈ s.stage.graph.children scene, ∃ d', (s.stage.snapshot? child).bind
        ((p.rules bake s.disk s.shelf).childImage (s.stage.graph.name scene)) = some d' := by
    constructor
    · rintro ⟨hstatic, hreplaceable⟩ child hchild
      rcases mem_children_iff_sorted.1 hchild with hin | hin
      · exact hstatic child hin
      · exact hreplaceable child hin
    · intro hall
      exact ⟨fun child hchild => hall child (List.mem_filter.1 hchild).1,
        fun child hchild => hall child (List.mem_filter.1 hchild).1⟩
  refine (hpasses.seq fun t _ ht => ?_).congr hable fun _ _ h => h
  rcases ht with ⟨htended, hkept, hdone, hleft⟩
  have hreplacements := settles_replaceableChildren (p := p) bake hs hcatalog hlists hanswered htended
    (hkept.trans hempty) hleft
  refine hreplacements.congr Iff.rfl ?_
  rintro u - ⟨hu, hreplaced, hstay⟩
  refine ⟨htended.trans hu, fun child hchild => ?_⟩
  rcases mem_children_iff_sorted.1 hchild with hstatic | hreplaceable
  · rw [hstay child hstatic, hdone child hstatic]
  · exact hreplaced child hreplaceable

end

/-! ## Conversions -/

/-- What is made of every child is made of the scene. -/
theorem Tended.dump {image : Snapshot Geometry R → Option (Snapshot Geometry R)} (h : Tended scene s t)
    (hs : s.stage.graph.Linked) (hd : s.stage.snapshot? scene = some d)
    (hchildren : ∀ child ∈ s.stage.graph.children scene,
      t.stage.snapshot? child = (s.stage.snapshot? child).bind image) :
    t.stage.snapshot? scene = (d.children.mapM image).map d.head.node := by
  rcases (Stage.snapshot?_eq_some_iff hs).1 hd with ⟨v, ds, hv, hds, rfl⟩
  have hbelow : (s.stage.graph.children scene).mapM t.stage.snapshot? = ds.mapM image := by
    rw [mapM_congr hchildren, ← mapM_bind_mapM, mapM_eq_some_iff.2 hds, Option.bind_some]
  rw [Stage.snapshot?_eq h.fit.linked, h.head?_eq, hv, h.children_eq, hbelow]
  rfl

/-- Something can be made of every child exactly if it can be made of every tree below the root of the dump. -/
theorem forall_children_iff {image : Snapshot Geometry R → Option (Snapshot Geometry R)}
    (hs : s.stage.graph.Linked) (hd : s.stage.snapshot? scene = some d) :
    (∀ child ∈ s.stage.graph.children scene, ∃ d', (s.stage.snapshot? child).bind image = some d') ↔
      ∃ ds, d.children.mapM image = some ds := by
  rcases (Stage.snapshot?_eq_some_iff hs).1 hd with ⟨v, ds, hv, hds, rfl⟩
  rw [← exists_mapM_iff, ← mapM_bind_mapM, mapM_eq_some_iff.2 hds]
  rfl

variable [Zero R] [One R] [Add R] [Mul R]

/-- What a conversion leaves of a scene, given its dump. -/
structure Converts (p : LevelProcessor R) (bake : MeshValue → Matrix R → Float → Option MeshValue)
    (scene : NodeId) (d : Snapshot Geometry R) (s s' : Session R) : Prop where
  ready : Ready scene s'
  disk : s'.disk = s.disk
  dump : s'.stage.snapshot? scene = p.image bake s.disk d

/-- With opened catalogs, what is made of a scene is made by the rules. -/
theorem LevelProcessor.image_of_opened {shelf : Shelf} {catalog : Catalog} {disk : Disk}
    (hshelf : Shelf.ofSettings disk p.settings.catalogs = .ok shelf)
    (hcatalog : shelf.packedSceneCatalog = .ok catalog) :
    p.image bake disk d = (p.rules bake disk shelf).image d := by
  rw [LevelProcessor.image, hshelf]
  show shelf.packedSceneCatalog.toOption.bind _ = _
  rw [hcatalog]
  rfl

/-- A conversion that succeeds makes of the dump of the scene what it should. -/
theorem converts_of_convert (hs : Ready scene s) (hd : s.stage.snapshot? scene = some d)
    (hunwrap : .lightmap ∈ p.passes → Lightmap.Computes p.tools.unwrap bake)
    (hrun : (p.convert scene).runIn s = (.ok (), s')) :
    (∃ d', p.image bake s.disk d = some d') ∧ Converts p bake scene d s s' := by
  rcases exists_converted hrun with ⟨shelf, catalog, sorted, worked, furnished, h⟩
  rcases h.sorted_eq with ⟨journal, rfl⟩
  rcases Shelf.exists_listsDirectory h.opened h.catalog_eq with ⟨path, hlists⟩
  have hfit := hs.fit_opened h.opened journal
  have hname := Stage.name_of_snapshot? hs.linked hd
  have hgroups := settles_groups hfit h.catalog_eq hlists
    (Shelf.of_ofSettings h.opened).2.1 h.answered hunwrap
  obtain ⟨hable, htended, hchildren⟩ := hgroups.leaves furnished
    (runIn_bind_eq_ok_iff.2 ⟨(), worked, h.passes, h.replacements⟩)
  -- the image goes by the catalogs and the name of the scene, and both are known by now
  have himage : p.image bake s.disk d = (d.children.mapM ((p.rules bake s.disk shelf).childImage
      (s.stage.graph.name scene))).map fun cs => (d.head.node cs).flushed := by
    rw [LevelProcessor.image_of_opened h.opened h.catalog_eq, LevelRules.image, hname]
  have hfurnished : Ready scene furnished :=
    ⟨htended.fit.linked, hs.inside.trans_le htended.size_le, htended.fit.orderly.sound, htended.fit.owned⟩
  have hdump := htended.dump (d := d) hs.linked hd hchildren
  refine ⟨?_, ?_⟩
  · rcases (forall_children_iff (s := s) hs.linked hd).1 hable with ⟨ds, hds⟩
    rw [himage]
    exact ⟨_, congrArg (Option.map _) hds⟩
  · rw [h.flushed]
    refine ⟨hfurnished.flushed, htended.disk, ?_⟩
    rw [himage]
    refine (Stage.snapshot?_flush htended.fit.linked hfurnished.inside).trans ?_
    rw [hdump, Option.map_map]
    rfl

/-- The phases of a conversion, one after another. -/
theorem exists_convert_run {shelf : Shelf} {catalog : Catalog}
    (hshelf : Shelf.ofSettings s.disk p.settings.catalogs = .ok shelf)
    (hcatalog : shelf.packedSceneCatalog = .ok catalog)
    (hanswered : ∀ child ∈ s.stage.graph.children scene,
      ∃ found, catalog.bestMatch (s.stage.graph.name child) = .ok found)
    (hgroups : ∀ journal, ∃ t,
      (((staticChildren catalog scene s.stage.graph).forM fun node =>
          p.passes.forM fun pass => pass.apply (p.context scene) node) >>= fun _ =>
        (replaceableChildren catalog scene s.stage.graph).forM fun node =>
          discard (replaceContent p.tools scene node)).runIn { s with shelf := shelf, journal := journal } =
        (.ok (), t)) :
    ∃ s', (p.convert scene).runIn s = (.ok (), s') := by
  obtain ⟨groups, journal, hclassify, hstatic, hreplaceable⟩ :=
    exists_classified (s := { s with shelf := shelf }) hcatalog hanswered
  let note := "Scene '" ++ (s.stage.graph.name scene).display ++ "': " ++ toString groups.static.length ++
    " static and " ++ toString groups.replaceable.length ++ " replaceable nodes."
  rcases hgroups (journal.push { level := .debug, logger := "pipeline.processor", message := note }) with
    ⟨t, hgroups⟩
  rcases runIn_bind_eq_ok_iff.1 hgroups with ⟨⟨⟩, worked, hpasses, hreplacements⟩
  rw [show staticChildren catalog scene s.stage.graph = groups.static from hstatic.symm] at hpasses
  rw [show replaceableChildren catalog scene s.stage.graph = groups.replaceable from hreplaceable.symm]
    at hreplacements
  have hlift : (Work.lift (Shelf.ofSettings s.disk p.settings.catalogs)).runIn s = (.ok shelf, s) := by
    rw [runIn_lift, hshelf]
  refine ⟨{ t with stage := { t.stage with graph := (t.stage.graph.flush scene).2 } }, ?_⟩
  refine runIn_bind_eq_ok_iff.2 ⟨s, s, rfl, ?_⟩
  refine runIn_bind_eq_ok_iff.2 ⟨shelf, s, hlift, ?_⟩
  refine runIn_bind_eq_ok_iff.2 ⟨(), { s with shelf := shelf }, rfl, ?_⟩
  refine runIn_bind_eq_ok_iff.2 ⟨s.stage.graph, { s with shelf := shelf }, rfl, ?_⟩
  refine runIn_bind_eq_ok_iff.2 ⟨groups, _, hclassify, ?_⟩
  refine runIn_bind_eq_ok_iff.2 ⟨(), _, rfl, ?_⟩
  refine runIn_bind_eq_ok_iff.2 ⟨(), worked, hpasses, ?_⟩
  exact runIn_bind_eq_ok_iff.2 ⟨(), t, hreplacements, rfl⟩

/-- A conversion succeeds exactly if something can be made of the dump of the scene, and this is what it
makes. -/
theorem settles_convert (hs : Ready scene s) (hd : s.stage.snapshot? scene = some d)
    (hunwrap : .lightmap ∈ p.passes → Lightmap.Computes p.tools.unwrap bake) :
    Settles (p.convert scene) s (∃ d', p.image bake s.disk d = some d') (Converts p bake scene d s) := by
  refine ⟨fun s' hrun => converts_of_convert hs hd hunwrap hrun, ?_⟩
  rintro ⟨d', hd'⟩
  rcases Option.bind_eq_some_iff.1 hd' with ⟨shelf, hshelf, hrest⟩
  rcases Option.bind_eq_some_iff.1 hrest with ⟨catalog, hcatalog, himage⟩
  rw [toOption_eq_some_iff] at hshelf hcatalog
  rcases Option.map_eq_some_iff.1 himage with ⟨ds, hds, -⟩
  rw [← Stage.name_of_snapshot? hs.linked hd] at hds
  have hall := (forall_children_iff hs.linked hd).2 ⟨ds, hds⟩
  -- a child of which something can be made has a name that can be looked up
  have hanswered : ∀ child ∈ s.stage.graph.children scene,
      ∃ found, catalog.bestMatch (s.stage.graph.name child) = .ok found := by
    intro child hchild
    rcases hall child hchild with ⟨d', hd'⟩
    rcases Option.bind_eq_some_iff.1 hd' with ⟨c, hc, hc'⟩
    rcases Option.bind_eq_some_iff.1 hc' with ⟨found, hfound, -⟩
    rw [Stage.name_of_snapshot? hs.linked hc]
    exact Shelf.exists_match_of_content hcatalog hfound
  rcases Shelf.exists_listsDirectory hshelf hcatalog with ⟨path, hlists⟩
  refine exists_convert_run hshelf hcatalog hanswered fun journal => ?_
  exact (settles_groups (hs.fit_opened hshelf journal) hcatalog hlists
    (Shelf.of_ofSettings hshelf).2.1 hanswered hunwrap).runs hall

end LevelPrep
