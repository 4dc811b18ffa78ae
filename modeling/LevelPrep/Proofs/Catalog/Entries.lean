import LevelPrep.Catalog.Retriever
import LevelPrep.Proofs.Outcome
import LevelPrep.Proofs.Text.Sorting

/-!
# Entries of catalogs

What a name is matched with is an entry of the catalog, and an entry of a listed directory is the file of
its own name in it.
-/

namespace LevelPrep

/-- The winner of a comparison is one of those that took part. -/
theorem mem_of_foldl_betterMatch {E : Type} {shortName : E → String} {candidates : List E}
    {best : Option E} {entry : E}
    (h : candidates.foldl (betterMatch shortName) best = some entry) :
    entry ∈ candidates ∨ best = some entry := by
  induction candidates generalizing best with
  | nil => exact Or.inr h
  | cons candidate candidates ih =>
      rcases ih h with hmem | hbetter
      · exact Or.inl (List.mem_cons_of_mem candidate hmem)
      · unfold betterMatch at hbetter
        split at hbetter
        · exact Or.inl (by cases hbetter; exact List.mem_cons_self)
        · split_ifs at hbetter
          · exact Or.inl (by cases hbetter; exact List.mem_cons_self)
          · exact Or.inr hbetter

/-- Picking by a test that may fail picks some of the items. -/
theorem mem_of_mem_filterM {ε α : Type} {test : α → Except ε Bool} {items kept : List α}
    (h : items.filterM test = .ok kept) {a : α} (ha : a ∈ kept) : a ∈ items := by
  -- the loop collects what it picks in reverse, so the claim is about what was picked before as well
  have hloop : ∀ (rest picked kept : List α), List.filterAuxM test rest picked = .ok kept →
      a ∈ kept → a ∈ rest ∨ a ∈ picked := by
    intro rest
    induction rest with
    | nil =>
        intro picked kept h ha
        cases h
        exact Or.inr ha
    | cons b rest ih =>
        intro picked kept h ha
        rcases bind_eq_ok_iff.1 h with ⟨found, -, hlater⟩
        rcases ih _ kept hlater ha with hmem | hmem
        · exact Or.inl (List.mem_cons_of_mem b hmem)
        · cases found with
          | false => exact Or.inr hmem
          | true =>
              rcases List.mem_cons.1 hmem with rfl | hmem
              · exact Or.inl List.mem_cons_self
              · exact Or.inr hmem
  rcases bind_eq_ok_iff.1 h with ⟨picked, hpicked, hlast⟩
  cases hlast
  rcases hloop items [] picked hpicked (List.mem_reverse.1 ha) with hmem | hmem
  · exact hmem
  · cases hmem

theorem Catalog.mem_of_bestMatch {c : Catalog} {name : Json} {entry : CatalogEntry}
    (h : c.bestMatch name = .ok (some entry)) : entry ∈ c.entries := by
  unfold Catalog.bestMatch bestMatchFor at h
  split at h
  · next text =>
      have hfold := Except.ok.inj h
      unfold bestMatch? at hfold
      rcases mem_of_foldl_betterMatch hfold with hmem | hnone
      · exact List.mem_of_mem_filter hmem
      · cases hnone
  · split_ifs at h
    rcases bind_eq_ok_iff.1 h with ⟨candidates, hcandidates, hlast⟩
    rcases mem_of_foldl_betterMatch (Except.ok.inj hlast) with hmem | hnone
    · exact List.mem_of_mem_filter (mem_of_mem_filterM hcandidates hmem)
    · cases hnone

/-- Where letter case matters, the empty name has no match. -/
theorem Catalog.eq_none_of_bestMatch_empty {c : Catalog} {found : Option CatalogEntry}
    (hcase : c.kind.caseSensitive = true) (h : c.bestMatch (.str "") = .ok found) : found = none := by
  have hfound : bestMatch? true CatalogEntry.shortName c.entries "" = found := by
    rw [← hcase]
    exact Except.ok.inj h
  have hnone : c.entries.filter (fun entry => matchesName true entry.shortName "") = [] := by
    refine List.filter_eq_nil_iff.2 fun entry _ => ?_
    by_cases hempty : entry.shortName = ""
    · simp [matchesName, hempty]
    · simp [matchesName, Text.contains, Text.occursIn, hempty]
  rw [← hfound, bestMatch?, hnone]
  rfl

/-! ## Listed directories -/

/-- The directory that the settings of a catalog name. -/
def CatalogSettings.directory (s : CatalogSettings) (home : Path) : Except Fault Path := do
  (← s.root.asPath).expandHome home

theorem CatalogSettings.directory_complete (s : CatalogSettings) (kind : CatalogKind) (home : Path) :
    (kind.complete s).directory home = s.directory home := by
  have hroot : (kind.complete s).root = s.root := by
    unfold CatalogKind.complete
    split <;> split <;> rfl
  rw [directory, directory, hroot]

/-- The entry of a file of a directory. -/
def CatalogEntry.ofFile (root : Path) (name : String) : CatalogEntry :=
  { shortName := Text.before '.' name, assetId := name, path := root.child name }

namespace CatalogSettings

/-- The entries of the directory that the settings name. -/
def listing (s : CatalogSettings) (disk : Disk) : Except Fault (List CatalogEntry) := do
  let root ← s.directory disk.home
  if ← disk.isDirectory root then
    s.entries root (fun name => disk.isFile (root.child name)) (disk.list root)
  else throw (.missingCatalogDirectory root.text)

/-- Whether a name in a directory is that of an eligible file. -/
def isListed (s : CatalogSettings) (disk : Disk) (root : Path) (name : String) : Except Fault Bool := do
  if ← disk.isFile (root.child name) then s.isEligible name else return false

/-- The names of the eligible files of a directory, in natural order. -/
def files (s : CatalogSettings) (disk : Disk) (root : Path) : List String :=
  (Text.naturalSort id (disk.list root)).filter fun name => (s.isListed disk root name).toOption == some true

variable {s : CatalogSettings} {disk : Disk} {root : Path} {entries : List CatalogEntry} {name : String}

theorem isListed_eq_true_iff : s.isListed disk root name = .ok true ↔
    disk.isFile (root.child name) = .ok true ∧ s.isEligible name = .ok true := by
  unfold isListed
  rw [bind_eq_ok_iff]
  constructor
  · rintro ⟨isFile, hfile, heligible⟩
    cases isFile with
    | false => cases heligible
    | true => exact ⟨hfile, heligible⟩
  · rintro ⟨hfile, heligible⟩
    exact ⟨true, hfile, heligible⟩

theorem isListed_of_isFile (h : disk.isFile (root.child name) = .ok true) :
    s.isListed disk root name = s.isEligible name := by
  rw [isListed, h]
  rfl

theorem mem_files : name ∈ s.files disk root ↔
    name ∈ disk.list root ∧ disk.isFile (root.child name) = .ok true ∧ s.isEligible name = .ok true := by
  simp [files, (Text.naturalSort_perm id (disk.list root)).mem_iff, toOption_eq_some_iff, isListed_eq_true_iff]

/-- What is listed are the eligible files of a directory that is there. -/
theorem of_listing (h : s.listing disk = .ok entries) :
    ∃ root, s.directory disk.home = .ok root ∧ disk.isDirectory root = .ok true ∧
      entries = (s.files disk root).map (CatalogEntry.ofFile root) := by
  rcases bind_eq_ok_iff.1 h with ⟨root, hroot, h₁⟩
  rcases bind_eq_ok_iff.1 h₁ with ⟨isDirectory, hdirectory, h₂⟩
  cases isDirectory with
  | false => cases h₂
  | true =>
      rcases bind_eq_ok_iff.1 h₂ with ⟨listed, hlisted, hlast⟩
      cases hlast
      refine ⟨root, hroot, hdirectory, ?_⟩
      rw [eq_filter_of_filterM hlisted]
      rfl

/-- Directories with the same files, in whatever order they are listed, give the same entries, as long as sorting
puts their names in the same order. -/
theorem listing_congr {disk' : Disk} (hhome : disk'.home = disk.home)
    (hsame : ∀ root, s.directory disk.home = .ok root → disk'.isDirectory root = disk.isDirectory root ∧
      (∀ name, disk'.isFile (root.child name) = disk.isFile (root.child name)) ∧
      Text.naturalSort id (disk'.list root) = Text.naturalSort id (disk.list root)) :
    s.listing disk' = s.listing disk := by
  unfold listing
  rw [hhome]
  cases hroot : s.directory disk.home with
  | error fault => rfl
  | ok root =>
      rcases hsame root hroot with ⟨hdirectory, hfiles, hnames⟩
      have hentries : ∀ isFile, s.entries root isFile (disk'.list root) = s.entries root isFile (disk.list root) := by
        intro isFile
        rw [entries, entries, hnames]
      rw [ok_bind, ok_bind, hdirectory]
      simp only [hfiles, hentries]

/-- A directory that is there can be listed exactly if every name in it can be told to be listed or not. -/
theorem exists_listing_iff (hroot : s.directory disk.home = .ok root) (hdirectory : disk.isDirectory root = .ok true) :
    (∃ entries, s.listing disk = .ok entries) ↔ ∀ name ∈ disk.list root, ∃ b, s.isListed disk root name = .ok b := by
  have hlisting : s.listing disk = s.entries root (fun name => disk.isFile (root.child name)) (disk.list root) := by
    rw [listing, hroot, ok_bind, hdirectory]
    rfl
  have hpicked : (∃ entries, s.listing disk = .ok entries) ↔
      ∃ kept, (Text.naturalSort id (disk.list root)).filterM (s.isListed disk root) = .ok kept := by
    rw [hlisting]
    constructor
    · rintro ⟨entries, hentries⟩
      rcases bind_eq_ok_iff.1 hentries with ⟨kept, hkept, -⟩
      exact ⟨kept, hkept⟩
    · rintro ⟨kept, hkept⟩
      exact ⟨_, bind_eq_ok_iff.2 ⟨kept, hkept, rfl⟩⟩
  rw [hpicked, exists_filterM_ok_iff]
  simp only [(Text.naturalSort_perm id (disk.list root)).mem_iff]

end CatalogSettings

namespace Catalog

variable {disk : Disk} {kind : CatalogKind} {settings : CatalogSettings} {c : Catalog}

/-- Opening a catalog lists the directory of its settings, completed for its kind. -/
theorem ofDirectory_eq (disk : Disk) (kind : CatalogKind) (settings : CatalogSettings) :
    ofDirectory disk kind settings = ((kind.complete settings).listing disk).map fun entries =>
      { kind, settings := kind.complete settings, entries } := by
  have hopen : ofDirectory disk kind settings = (do
      let root ← (kind.complete settings).directory disk.home
      if ← disk.isDirectory root then
        let isFile name := disk.isFile (root.child name)
        return {
          kind, settings := kind.complete settings
          entries := ← (kind.complete settings).entries root isFile (disk.list root) }
      else throw (.missingCatalogDirectory root.text)) := by
    rw [CatalogSettings.directory, bind_assoc]
    rfl
  rw [hopen, CatalogSettings.listing]
  cases (kind.complete settings).directory disk.home with
  | error fault => rfl
  | ok root =>
      rw [ok_bind, ok_bind]
      rcases disk.isDirectory root with fault | (_ | _) <;> rfl

theorem kind_of_ofDirectory (h : ofDirectory disk kind settings = .ok c) : c.kind = kind := by
  rw [ofDirectory_eq] at h
  rcases map_eq_ok_iff.1 h with ⟨entries, -, rfl⟩
  rfl

/-- The entries of an opened catalog are the eligible files of its directory. -/
theorem entries_of_ofDirectory (h : ofDirectory disk kind settings = .ok c) :
    ∃ root, settings.directory disk.home = .ok root ∧
      c.entries = ((kind.complete settings).files disk root).map (CatalogEntry.ofFile root) := by
  rw [ofDirectory_eq] at h
  rcases map_eq_ok_iff.1 h with ⟨entries, hentries, rfl⟩
  rcases CatalogSettings.of_listing hentries with ⟨root, hroot, -, hfiles⟩
  rw [settings.directory_complete] at hroot
  exact ⟨root, hroot, hfiles⟩

/-- Every entry is a file of one directory, under its own name. -/
def ListsDirectory (c : Catalog) (root : Path) : Prop :=
  ∀ entry ∈ c.entries, entry.path = root.child entry.assetId ∧
    entry.shortName = Text.before '.' entry.assetId

/-- An opened catalog lists the directory of its settings. -/
theorem exists_listsDirectory (h : ofDirectory disk kind settings = .ok c) :
    ∃ root, settings.directory disk.home = .ok root ∧ c.ListsDirectory root := by
  rcases entries_of_ofDirectory h with ⟨root, hroot, hfiles⟩
  refine ⟨root, hroot, fun entry hentry => ?_⟩
  rw [hfiles] at hentry
  rcases List.mem_map.1 hentry with ⟨name, -, rfl⟩
  exact ⟨rfl, rfl⟩

/-- Entries of one name are one entry. -/
theorem ListsDirectory.eq_of_assetId {root : Path} (h : c.ListsDirectory root)
    {entry other : CatalogEntry} (hentry : entry ∈ c.entries) (hother : other ∈ c.entries)
    (hname : entry.assetId = other.assetId) : entry = other := by
  rcases h entry hentry with ⟨hpath, hshort⟩
  rcases h other hother with ⟨hpath', hshort'⟩
  rcases entry with ⟨shortName, assetId, path⟩
  rcases other with ⟨shortName', assetId', path'⟩
  simp only at hname hpath hshort hpath' hshort'
  rw [hpath, hshort, hpath', hshort', hname]

/-- Entries of one file name that two names are matched with are one entry, if the catalog that is asked for them is
the listing of a directory. -/
theorem eq_of_matches {asked : Except Fault Catalog} {name name' : Json} {entry entry' : CatalogEntry}
    (hlisted : ∀ catalog, asked = .ok catalog → ∃ root, catalog.ListsDirectory root)
    (hentry : (asked >>= fun catalog => catalog.bestMatch name) = .ok (some entry))
    (hentry' : (asked >>= fun catalog => catalog.bestMatch name') = .ok (some entry'))
    (hid : entry.assetId = entry'.assetId) : entry = entry' := by
  rcases bind_eq_ok_iff.1 hentry with ⟨catalog, hcatalog, hmatch⟩
  rcases bind_eq_ok_iff.1 hentry' with ⟨_, hcatalog', hmatch'⟩
  cases hcatalog.symm.trans hcatalog'
  rcases hlisted catalog hcatalog with ⟨root, hroot⟩
  exact hroot.eq_of_assetId (mem_of_bestMatch hmatch) (mem_of_bestMatch hmatch') hid

end Catalog

namespace Shelf

variable {R : Type}

/-- Opening catalogs lists their directories and keeps no assets. -/
theorem of_ofSettings {disk : Disk} {settings : List (String × CatalogSettings)} {shelf : Shelf}
    (h : Shelf.ofSettings disk settings = .ok shelf) :
    shelf.materials = [] ∧ shelf.packedScenes = [] ∧
      ∀ name c, shelf.catalog name = .ok c → ∃ kind config, (name, config) ∈ settings ∧
        catalogKind CatalogKind.registry (.str name) = .ok kind ∧
        Catalog.ofDirectory disk kind config = .ok c := by
  rcases bind_eq_ok_iff.1 h with ⟨catalogs, hcatalogs, hlast⟩
  cases hlast
  refine ⟨rfl, rfl, fun name c hc => ?_⟩
  -- a catalog that is found is one of those that were opened
  have hmem : (name, c) ∈ catalogs := by
    unfold catalog at hc
    split at hc
    · next found hfound =>
        cases hc
        rcases List.lookup_eq_some_iff.1 hfound with ⟨before, after, hsplit, -⟩
        rw [show catalogs = before ++ (name, c) :: after from hsplit]
        exact List.mem_append_right before List.mem_cons_self
    · cases hc
  rcases exists_of_mem_results (forall₂_of_mapM hcatalogs) hmem with ⟨⟨configured, config⟩, hin, hconfig⟩
  rcases bind_eq_ok_iff.1 hconfig with ⟨kind, hkind, hopen⟩
  rcases bind_eq_ok_iff.1 hopen with ⟨listed, hlisted, hlast⟩
  cases hlast
  exact ⟨kind, config, hin, hkind, hlisted⟩

/-- Catalogs are looked up among those that were opened. -/
theorem packedSceneCatalog_congr {shelf shelf' : Shelf} (h : shelf.catalogs = shelf'.catalogs) :
    shelf.packedSceneCatalog = shelf'.packedSceneCatalog := by
  rw [packedSceneCatalog, packedSceneCatalog, catalog, catalog, h]

section

variable {disk : Disk} {settings : List (String × CatalogSettings)} {shelf : Shelf} {name : String} {c : Catalog}

/-- An opened catalog lists a directory. -/
theorem exists_listsDirectory (hshelf : Shelf.ofSettings disk settings = .ok shelf)
    (hcatalog : shelf.catalog name = .ok c) : ∃ root, c.ListsDirectory root := by
  rcases (of_ofSettings hshelf).2.2 name c hcatalog with ⟨kind, config, -, -, hdirectory⟩
  rcases Catalog.exists_listsDirectory hdirectory with ⟨root, -, hlists⟩
  exact ⟨root, hlists⟩

theorem kind_of_materialCatalog (hshelf : Shelf.ofSettings disk settings = .ok shelf)
    (hcatalog : shelf.materialCatalog = .ok c) : c.kind = .material := by
  rcases (of_ofSettings hshelf).2.2 _ c hcatalog with ⟨kind, config, -, hkind, hdirectory⟩
  have hmaterial : kind = .material := (Except.ok.inj hkind).symm
  rw [Catalog.kind_of_ofDirectory hdirectory, hmaterial]

/-- The empty name has no match among materials. -/
theorem eq_none_of_materialFor_empty (hshelf : Shelf.ofSettings disk settings = .ok shelf)
    {found : Option CatalogEntry} (h : shelf.materialFor (.str "") = .ok found) : found = none := by
  rcases bind_eq_ok_iff.1 h with ⟨c, hcatalog, hmatch⟩
  exact Catalog.eq_none_of_bestMatch_empty (kind_of_materialCatalog hshelf hcatalog ▸ rfl) hmatch

end

end Shelf

end LevelPrep
