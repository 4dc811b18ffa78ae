import LevelPrep.Proofs.Level.Processing

/-!
# What the tree made of a scene file depends on

Of the disk, nothing but the trail of the scene file, the trails of the catalogs and the files in them has a part in
what is made of a scene file: it is the same on disks that agree about these (`LevelProcessor.product_congr`).
-/

namespace LevelPrep

variable {R : Type} {aside : List String → Bool} {d d' : Disk}

open Disk

/-! ## Catalogs -/

/-- A directory that nothing which is set aside is near: neither on its trail nor right above or in it. -/
structure Disk.Apart (d : Disk) (aside : List String → Bool) (root : Path) : Prop where
  trail : ∀ place ∈ d.trail root, aside place = false
  above : aside (d.goal root).dropLast = false
  below : ∀ name, aside (d.goal root ++ [name]) = false

/-- The files in such a directory are the same on disks that agree. -/
theorem Disk.Apart.sameAlong_child {root : Path} (h : d.Apart aside root) (hagree : Agree aside d d') (name : String) :
    SameAlong d d' (root.child name) := by
  refine hagree.sameAlong fun place hplace => ?_
  cases hname : Path.isPart name with
  | false =>
      rw [Path.child_of_not_isPart hname] at hplace
      exact h.trail place hplace
  | true =>
      rw [trail_child d root hname] at hplace
      rcases List.mem_append.1 hplace with hplace | hplace
      · exact h.trail place hplace
      · rw [List.mem_singleton.1 hplace, next]
        split_ifs
        · exact h.above
        · exact h.below name

/-- A catalog whose directory nothing that is set aside is near. -/
def CatalogSettings.Apart (s : CatalogSettings) (d : Disk) (aside : List String → Bool) : Prop :=
  ∀ root, s.directory d.home = .ok root → d.Apart aside root

/-- Such a catalog is opened alike on disks that agree. -/
theorem Catalog.ofDirectory_congr (hagree : Agree aside d d') {kind : CatalogKind} {settings : CatalogSettings}
    (hapart : settings.Apart d aside) :
    Catalog.ofDirectory d' kind settings = Catalog.ofDirectory d kind settings := by
  have hlisting : (kind.complete settings).listing d' = (kind.complete settings).listing d := by
    refine CatalogSettings.listing_congr hagree.home fun root hroot => ?_
    rw [settings.directory_complete] at hroot
    have hroot := hapart root hroot
    refine ⟨(hagree.sameAlong hroot.trail).isDirectory_eq, fun name => ?_, ?_⟩
    · exact (hroot.sameAlong_child hagree name).isFile_eq
    · rw [hagree.list_eq hroot.trail hroot.below]
  rw [Catalog.ofDirectory_eq, Catalog.ofDirectory_eq, hlisting]

theorem Shelf.ofSettings_congr (hagree : Agree aside d d') {settings : List (String × CatalogSettings)}
    (hapart : ∀ entry ∈ settings, entry.2.Apart d aside) :
    (Shelf.ofSettings d' settings : Except Fault Shelf) = Shelf.ofSettings d settings := by
  unfold Shelf.ofSettings
  congr 1
  induction settings with
  | nil => rfl
  | cons entry rest ih =>
      rcases entry with ⟨name, config⟩
      rw [List.forall_mem_cons] at hapart
      rw [List.mapM_cons, List.mapM_cons, ih hapart.2]
      have hopen : ∀ kind, Catalog.ofDirectory d' kind config = Catalog.ofDirectory d kind config := fun kind =>
        Catalog.ofDirectory_congr hagree hapart.1
      simp only [hopen]

/-- What stands under the path of a matched entry is the same on disks that agree. -/
theorem Shelf.sameAlong_entry (hagree : Agree aside d d') {settings : List (String × CatalogSettings)}
    {shelf : Shelf} (hapart : ∀ entry ∈ settings, entry.2.Apart d aside)
    (hshelf : Shelf.ofSettings d settings = .ok shelf) {name : String} {catalog : Catalog} {key : Json}
    {entry : CatalogEntry} (hcatalog : shelf.catalog name = .ok catalog)
    (hmatch : catalog.bestMatch key = .ok (some entry)) : SameAlong d d' entry.path := by
  rcases (Shelf.of_ofSettings hshelf).2.2 name catalog hcatalog with ⟨kind, config, hin, -, hopen⟩
  rcases Catalog.exists_listsDirectory hopen with ⟨root, hroot, hlists⟩
  rw [(hlists entry (Catalog.mem_of_bestMatch hmatch)).1]
  exact (hapart _ hin root hroot).sameAlong_child hagree _

/-! ## Rules -/

/-- A loader that looks at nothing but what stands along the path of the file. -/
def Tools.LoadsAlone (tools : Tools R) : Prop :=
  ∀ {d d' : Disk} {path : Path}, SameAlong d d' path → tools.loadScene d' path = tools.loadScene d path

theorem Tools.loadsAlone_of_eq {tools : Tools Float} (h : tools.loadScene = SceneFile.load) : tools.LoadsAlone := by
  intro d d' path hsame
  rw [h]
  exact hsame.load_eq

variable {p : LevelProcessor R} {bake : MeshValue → Matrix R → Float → Option MeshValue}

/-- A conversion goes by the same rules on disks that agree about its catalogs. -/
theorem LevelProcessor.rules_congr (hagree : Agree aside d d') (hload : p.tools.LoadsAlone)
    (hapart : ∀ entry ∈ p.settings.catalogs, entry.2.Apart d aside) {shelf : Shelf}
    (hshelf : Shelf.ofSettings d p.settings.catalogs = .ok shelf) : p.rules bake d' shelf = p.rules bake d shelf := by
  -- only what a name is matched with is loaded, and that lies in the directory of a catalog
  have hcontent : shelf.content p.tools d' = shelf.content p.tools d := by
    funext name
    unfold Shelf.content
    cases hfound : shelf.packedSceneFor name with
    | error fault => rfl
    | ok found =>
        cases found with
        | none => rfl
        | some entry =>
            rcases bind_eq_ok_iff.1 hfound with ⟨catalog, hcatalog, hmatch⟩
            have hsame := Shelf.sameAlong_entry hagree hapart hshelf hcatalog hmatch
            show (p.tools.loadScene d' entry.path).2.toOption.map some = _
            rw [hload hsame]
            rfl
  have hmaterial : Session.supply ({ disk := d', shelf := shelf } : Session R) =
      Session.supply ({ disk := d, shelf := shelf } : Session R) := by
    funext name
    unfold Session.supply
    cases hfound : shelf.materialFor name with
    | error fault => rfl
    | ok found =>
        cases found with
        | none => rfl
        | some entry =>
            rcases bind_eq_ok_iff.1 hfound with ⟨catalog, hcatalog, hmatch⟩
            have hsame := Shelf.sameAlong_entry hagree hapart hshelf hcatalog hmatch
            show (d'.isFile entry.path).toOption.bind _ = _
            rw [hsame.isFile_eq]
            rfl
  unfold LevelProcessor.rules
  rw [hcontent, hmaterial]

variable [Zero R] [One R] [Add R] [Mul R]

/-- A conversion makes the same of a scene on disks that agree about its catalogs. -/
theorem LevelProcessor.image_congr (hagree : Agree aside d d') (hload : p.tools.LoadsAlone)
    (hapart : ∀ entry ∈ p.settings.catalogs, entry.2.Apart d aside) (dump : Snapshot Geometry R) :
    p.image bake d' dump = p.image bake d dump := by
  unfold LevelProcessor.image
  rw [Shelf.ofSettings_congr hagree hapart]
  refine Option.bind_congr fun shelf hshelf => ?_
  rw [LevelProcessor.rules_congr hagree hload hapart (toOption_eq_some_iff.1 hshelf)]

/-- The same is made of a scene file on disks that agree about it and the catalogs. -/
theorem LevelProcessor.product_congr (hagree : Agree aside d d') (hload : p.tools.LoadsAlone)
    (hapart : ∀ entry ∈ p.settings.catalogs, entry.2.Apart d aside) {file : Path}
    (hfile : ∀ place ∈ d.trail file, aside place = false) : p.product bake d' file = p.product bake d file := by
  have hprocessed : ∀ dump, p.processed bake d' dump = p.processed bake d dump := by
    intro dump
    unfold LevelProcessor.processed
    rw [LevelProcessor.image_congr hagree hload hapart]
  unfold LevelProcessor.product
  rw [hload (hagree.sameAlong hfile)]
  exact Option.bind_congr fun branch _ => by rw [hprocessed]

end LevelPrep
