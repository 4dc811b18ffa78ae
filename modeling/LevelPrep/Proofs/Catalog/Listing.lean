import LevelPrep.Proofs.Catalog.Ranking
import LevelPrep.Proofs.Disk.Directories
import Mathlib.Data.List.TakeWhile

/-!
# Listing a directory

The files of a directory that the settings admit are listed once each, in natural order of their names
(`CatalogSettings.Lists`).  Names of different keys have one natural order, so in whatever order the directory
enumerates them (`Disk.Relisted`), the list is the same, and so is every match, ties included (`listing_exact`).
-/

namespace LevelPrep

/-! ## Admitted names -/

/-- The words of the settings are texts, or they are not given. -/
structure CatalogSettings.Worded (s : CatalogSettings) : Prop where
  extension : s.extension = .null ∨ ∃ word, s.extension = .str word
  excludedMarker : s.excludedMarker = .null ∨ ∃ word, s.excludedMarker = .str word

/-- The name contains the ending and does not contain the marker that excludes it; an empty word asks for nothing. -/
structure CatalogSettings.Admits (s : CatalogSettings) (name : String) : Prop where
  extension : ∀ word, s.extension = .str word → word ≠ "" → word.toList <:+: name.toList
  excludedMarker : ∀ word, s.excludedMarker = .str word → word ≠ "" → ¬ word.toList <:+: name.toList

/-- The part of a name before its first point, or all of it where it has none. -/
structure IsShortName (short name : String) : Prop where
  noPoint : '.' ∉ short.toList
  begins : name = short ∨ ∃ rest, name.toList = short.toList ++ '.' :: rest

theorem isShortName_before (name : String) : IsShortName (Text.before '.' name) name := by
  have hsplit := List.takeWhile_append_dropWhile (p := (· != '.')) (l := name.toList)
  constructor
  · intro hpoint
    rw [Text.before, String.toList_ofList] at hpoint
    simpa using List.mem_takeWhile_imp hpoint
  · cases hrest : name.toList.dropWhile (· != '.') with
    | nil =>
        rw [hrest, List.append_nil] at hsplit
        exact Or.inl (by rw [Text.before, hsplit, String.ofList_toList])
    | cons c rest =>
        have hc : c = '.' := by
          have hhead := List.head?_dropWhile_not (· != '.') name.toList
          simpa [hrest] using hhead
        rw [hrest, hc] at hsplit
        exact Or.inr ⟨rest, by rw [Text.before, String.toList_ofList, hsplit]⟩

/-- A name has one short name. -/
theorem IsShortName.unique {short short' name : String} (h : IsShortName short name) (h' : IsShortName short' name) :
    short = short' := by
  have hread : ∀ {s}, IsShortName s name → name.toList.takeWhile (· != '.') = s.toList := by
    intro s hs
    have hplain : ∀ c ∈ s.toList, (c != '.') = true := fun c hc => by
      rw [bne_iff_ne]
      rintro rfl
      exact hs.noPoint hc
    rcases hs.begins with rfl | ⟨rest, hrest⟩
    · exact List.takeWhile_eq_self_iff.2 hplain
    · rw [hrest, List.takeWhile_append_of_pos hplain]
      simp
  exact String.toList_inj.1 ((hread h).symm.trans (hread h'))

/-- A text that is not set is empty. -/
theorem Json.eq_empty_of_isSet {value : Json} {word : String} (h : value.isSet = false) (hvalue : value = .str word) :
    word = "" := by
  subst hvalue
  simpa [isSet] using h

/-- What is looked for in a name with success is a text. -/
theorem Json.of_standsIn_str {value : Json} {name : String} {b : Bool} (h : value.standsIn (.str name) = .ok b) :
    ∃ word, value = .str word ∧ (b = true ↔ word.toList <:+: name.toList) := by
  unfold standsIn at h
  cases value with
  | str word =>
      cases h
      exact ⟨word, rfl, Text.occursIn_iff⟩
  | null | bool _ | int _ | float _ | arr _ | obj _ => cases h

namespace CatalogSettings

variable {s : CatalogSettings} {name : String}

/-- The condition on the ending alone. -/
theorem extension_iff {b : Bool}
    (h : (if s.extension.isSet then s.extension.standsIn (.str name) else .ok true) = .ok b) :
    b = true ↔ ∀ word, s.extension = .str word → word ≠ "" → word.toList <:+: name.toList := by
  split_ifs at h with hset
  · rcases Json.of_standsIn_str h with ⟨word, hword, hiff⟩
    rw [hiff]
    constructor
    · intro hin other hother _
      cases hword.symm.trans hother
      exact hin
    · intro hall
      refine hall word hword ?_
      rintro rfl
      rw [hword] at hset
      cases hset
  · cases h
    refine ⟨fun _ word hword hne => absurd ?_ hne, fun _ => rfl⟩
    exact Json.eq_empty_of_isSet (Bool.eq_false_of_not_eq_true hset) hword

/-- Where a name can be told to be eligible or not, it is if it is admitted. -/
theorem admits_iff_of_isEligible {b : Bool} (h : s.isEligible name = .ok b) : b = true ↔ s.Admits name := by
  unfold isEligible at h
  -- without a marker that excludes files nothing but the extension counts
  by_cases hset : s.excludedMarker.isSet = true
  · rw [if_pos hset] at h
    rcases bind_eq_ok_iff.1 h with ⟨excluded, hexcluded, hrest⟩
    rcases Json.of_standsIn_str hexcluded with ⟨word, hword, hin⟩
    have hne : word ≠ "" := by
      rintro rfl
      rw [hword] at hset
      cases hset
    cases excluded with
    | true =>
        cases hrest
        exact ⟨nofun, fun hadmits => absurd (hin.1 rfl) (hadmits.excludedMarker word hword hne)⟩
    | false =>
        rw [extension_iff hrest]
        refine ⟨fun hextension => ⟨hextension, fun other hother _ => ?_⟩, Admits.extension⟩
        cases hword.symm.trans hother
        exact fun hinfix => Bool.false_ne_true (hin.2 hinfix)
  · rw [if_neg hset] at h
    rw [extension_iff h]
    refine ⟨fun hextension => ⟨hextension, fun word hword hne => absurd ?_ hne⟩, Admits.extension⟩
    exact Json.eq_empty_of_isSet (Bool.eq_false_of_not_eq_true hset) hword

theorem Worded.exists_isEligible (h : s.Worded) (name : String) : ∃ b, s.isEligible name = .ok b := by
  have hasked : ∀ {value : Json}, (value = .null ∨ ∃ word, value = .str word) → value.isSet = true →
      ∃ b, value.standsIn (.str name) = .ok b := by
    rintro value (rfl | ⟨word, rfl⟩) hset
    · cases hset
    · exact ⟨_, rfl⟩
  have hextension : ∃ b, (if s.extension.isSet then s.extension.standsIn (.str name) else .ok true) = .ok b := by
    split_ifs with hset
    · exact hasked h.extension hset
    · exact ⟨true, rfl⟩
  unfold isEligible
  by_cases hset : s.excludedMarker.isSet = true
  · rcases hasked h.excludedMarker hset with ⟨excluded, hexcluded⟩
    rw [if_pos hset, hexcluded, ok_bind]
    cases excluded with
    | true => exact ⟨false, rfl⟩
    | false => exact hextension
  · rw [if_neg hset]
    exact hextension

theorem Worded.complete (h : s.Worded) (kind : CatalogKind) : (kind.complete s).Worded := by
  unfold CatalogKind.complete
  split <;> split
  · exact ⟨h.extension, Or.inr ⟨_, rfl⟩⟩
  · exact h
  · exact ⟨Or.inr ⟨_, rfl⟩, h.excludedMarker⟩
  · exact h

/-! ## Listed entries -/

/-- A list of exactly the files of a directory that the settings admit, each once and under its own names, in natural
order. -/
structure Lists (s : CatalogSettings) (disk : Disk) (root : Path) (entries : List CatalogEntry) : Prop where
  mem_iff : ∀ entry, entry ∈ entries ↔
    entry.assetId ∈ disk.list root ∧ disk.isFile (root.child entry.assetId) = .ok true ∧ s.Admits entry.assetId ∧
      entry.path = root.child entry.assetId ∧ IsShortName entry.shortName entry.assetId
  nodup : (entries.map CatalogEntry.assetId).Nodup
  sorted : entries.Pairwise fun a b =>
    Text.keyBefore (Text.naturalKey a.assetId) (Text.naturalKey b.assetId) = true

variable {disk : Disk} {root : Path} {entries : List CatalogEntry}

/-- A directory that is there is listed exactly. -/
theorem lists_of_listing (hroot : s.directory disk.home = .ok root)
    (hkeys : (disk.list root).Pairwise fun a b => Text.naturalKey a ≠ Text.naturalKey b)
    (h : s.listing disk = .ok entries) : s.Lists disk root entries := by
  rcases of_listing h with ⟨root', hroot', hdirectory, hentries⟩
  cases hroot.symm.trans hroot'
  have hknown := (exists_listing_iff hroot hdirectory).1 ⟨entries, h⟩
  have hsorted : entries.Pairwise fun a b =>
      Text.keyBefore (Text.naturalKey a.assetId) (Text.naturalKey b.assetId) = true := by
    rw [hentries, List.pairwise_map]
    exact (Text.pairwise_keyBefore_naturalSort hkeys).filter _
  constructor
  · intro entry
    rw [hentries, List.mem_map]
    constructor
    · rintro ⟨name, hname, rfl⟩
      rcases mem_files.1 hname with ⟨hlist, hfile, heligible⟩
      exact ⟨hlist, hfile, (admits_iff_of_isEligible heligible).1 rfl, rfl, isShortName_before name⟩
    · rintro ⟨hlist, hfile, hadmits, hpath, hshort⟩
      -- the test of a name that is listed has an answer, as the listing has not failed
      rcases hknown _ hlist with ⟨b, hb⟩
      rw [isListed_of_isFile hfile] at hb
      rw [(admits_iff_of_isEligible hb).2 hadmits] at hb
      refine ⟨entry.assetId, mem_files.2 ⟨hlist, hfile, hb⟩, ?_⟩
      rcases entry with ⟨shortName, assetId, path⟩
      rw [CatalogEntry.ofFile, CatalogEntry.mk.injEq]
      exact ⟨(isShortName_before assetId).unique hshort, rfl, hpath.symm⟩
  · rw [List.nodup_iff_pairwise_ne, List.pairwise_map]
    refine hsorted.imp fun {a b} hab heq => ?_
    rw [heq, Text.keyBefore_iff] at hab
    exact lt_irrefl _ hab
  · exact hsorted

/-- Settings that are worded list every directory that is there, unless a path in it is too long. -/
theorem Worded.exists_lists (hworded : s.Worded) (hroot : s.directory disk.home = .ok root)
    (hdirectory : disk.isDirectory root = .ok true)
    (hkeys : (disk.list root).Pairwise fun a b => Text.naturalKey a ≠ Text.naturalKey b)
    (hfits : ∀ name ∈ disk.list root, (root.child name).Fits) :
    ∃ entries, s.listing disk = .ok entries ∧ s.Lists disk root entries := by
  have hlisting : ∃ entries, s.listing disk = .ok entries := by
    refine (exists_listing_iff hroot hdirectory).2 fun name hname => ?_
    rcases disk.exists_isFile hdirectory (hfits name hname) with ⟨b, hfile⟩
    cases b with
    | false => exact ⟨false, by rw [isListed, hfile]; rfl⟩
    | true => rw [isListed_of_isFile hfile]; exact hworded.exists_isEligible name
  rcases hlisting with ⟨entries, hentries⟩
  exact ⟨entries, hentries, lists_of_listing hroot hkeys hentries⟩

end CatalogSettings

/-! ## Other orders of enumeration -/

/-- A disk with the same entries, on which a directory enumerates its names in some other order. -/
structure Disk.Relisted (d d' : Disk) (root : Path) : Prop where
  home : d'.home = d.home
  entryAt?_eq : ∀ place, d'.entryAt? place = d.entryAt? place
  names : (d'.list root).Perm (d.list root)

namespace Disk.Relisted

variable {d d' : Disk} {root : Path}

/-- The same is found along every path. -/
theorem sameAlong (h : d.Relisted d' root) (p : Path) : SameAlong d d' p :=
  sameAlong_of_entries h.home fun place _ => h.entryAt?_eq place

/-- Names of different keys are listed alike in every order. -/
theorem listing_eq {s : CatalogSettings} (h : d.Relisted d' root) (hroot : s.directory d.home = .ok root)
    (hkeys : (d.list root).Pairwise fun a b => Text.naturalKey a ≠ Text.naturalKey b) :
    s.listing d' = s.listing d := by
  refine CatalogSettings.listing_congr h.home fun root' hroot' => ?_
  cases hroot.symm.trans hroot'
  refine ⟨(h.sameAlong root).isDirectory_eq, fun name => (h.sameAlong (root.child name)).isFile_eq, ?_⟩
  exact Text.naturalSort_eq_of_perm h.names hkeys

end Disk.Relisted

/-- Where no location is taken twice, whatever is looked up is found in every order of the entries. -/
theorem Disk.lookup_of_perm {entries entries' : List (List String × Entry)} (hperm : entries'.Perm entries)
    (hnodup : (entries.map Prod.fst).Nodup) (place : List String) : entries'.lookup place = entries.lookup place := by
  induction hperm with
  | nil => rfl
  | cons e _ ih =>
      rw [List.map_cons, List.nodup_cons] at hnodup
      rw [List.lookup_cons, List.lookup_cons, ih hnodup.2]
  | swap e e' rest =>
      rcases e with ⟨old, entry⟩
      rcases e' with ⟨old', entry'⟩
      have hne : old ≠ old' := by
        rintro rfl
        simp at hnodup
      by_cases h : place = old
      · subst h
        simp [List.lookup_cons, beq_eq_false_iff_ne.2 hne]
      · simp [List.lookup_cons, beq_eq_false_iff_ne.2 h]
  | trans _ hlater ih ih' =>
      exact (ih ((hlater.map Prod.fst).nodup_iff.2 hnodup)).trans (ih' hnodup)

/-- The entries of a disk may stand in any order, and its directories may enumerate their names by any ranks. -/
theorem Disk.relisted_of_perm {d d' : Disk} (hhome : d'.home = d.home) (hperm : d'.entries.Perm d.entries)
    (hnodup : (d.entries.map Prod.fst).Nodup) (root : Path) : d.Relisted d' root := by
  have hentries : ∀ place, d'.entryAt? place = d.entryAt? place := by
    intro place
    rw [entryAt?, entryAt?, hhome, lookup_of_perm hperm hnodup]
  refine ⟨hhome, hentries, ?_⟩
  have hlocate := (sameAlong_of_entries hhome fun place (_ : place ∈ d.trail root) => hentries place).locate_eq
  unfold list
  rw [hlocate]
  cases d.locate root with
  | error fault => exact List.Perm.refl _
  | ok location =>
      refine (enumerate_perm d' _).trans (List.Perm.trans ?_ (enumerate_perm d _).symm)
      exact hperm.filterMap _

/-! ## Matches -/

/-- An entry stands in a name, and of the others that do, each is shorter, or as long and behind it in natural order. -/
structure Leads (caseSensitive : Bool) (entries : List CatalogEntry) (name : String) (winner : CatalogEntry) :
    Prop where
  listed : winner ∈ entries
  stands : StandsIn caseSensitive winner.shortName name
  leads : ∀ other ∈ entries, other ≠ winner → StandsIn caseSensitive other.shortName name →
    other.shortName.length < winner.shortName.length ∨
      (other.shortName.length = winner.shortName.length ∧
        Text.keyBefore (Text.naturalKey winner.assetId) (Text.naturalKey other.assetId) = true)

/-- At most one entry leads. -/
theorem Leads.unique {caseSensitive : Bool} {entries : List CatalogEntry} {name : String}
    {winner winner' : CatalogEntry} (h : Leads caseSensitive entries name winner)
    (h' : Leads caseSensitive entries name winner') : winner = winner' := by
  by_contra hne
  have hasymm : ∀ {a b : List Text.NaturalPart}, Text.keyBefore a b = true → ¬ Text.keyBefore b a = true := by
    intro a b hab hba
    rw [Text.keyBefore_iff] at hab hba
    exact lt_asymm hab hba
  rcases h.leads winner' h'.listed (Ne.symm hne) h'.stands with hlt | ⟨heq, hbefore⟩
  · rcases h'.leads winner h.listed hne h.stands with hlt' | ⟨heq', -⟩ <;> omega
  · rcases h'.leads winner h.listed hne h.stands with hlt' | ⟨-, hbefore'⟩
    · omega
    · exact hasymm hbefore hbefore'

/-- In a list in natural order the match of a name is the entry that leads. -/
theorem bestMatch?_eq_some_iff_leads {caseSensitive : Bool} {entries : List CatalogEntry} {name : String}
    {winner : CatalogEntry} (hsorted : entries.Pairwise fun a b =>
      Text.keyBefore (Text.naturalKey a.assetId) (Text.naturalKey b.assetId) = true) :
    bestMatch? caseSensitive CatalogEntry.shortName entries name = some winner ↔
      Leads caseSensitive entries name winner := by
  -- the first of the longest matches is the first in the order of the list
  have hleads : ∀ {found}, bestMatch? caseSensitive CatalogEntry.shortName entries name = some found →
      Leads caseSensitive entries name found := by
    intro found hfound
    rcases exists_split_of_bestMatch? hfound with ⟨before, after, hsplit, hstands, hbefore, hafter⟩
    refine ⟨by simp [hsplit], hstands, fun other hother hne hin => ?_⟩
    rw [hsplit, List.mem_append, List.mem_cons] at hother
    rcases hother with hother | rfl | hother
    · exact Or.inl (hbefore other hother hin)
    · exact absurd rfl hne
    · rw [hsplit, List.pairwise_append, List.pairwise_cons] at hsorted
      rcases Nat.lt_or_eq_of_le (hafter other hother hin) with hlt | heq
      · exact Or.inl hlt
      · exact Or.inr ⟨heq, hsorted.2.1.1 other hother⟩
  refine ⟨hleads, fun h => ?_⟩
  cases hfound : bestMatch? caseSensitive CatalogEntry.shortName entries name with
  | none => exact absurd h.stands (bestMatch?_eq_none_iff.1 hfound winner h.listed)
  | some found => rw [(hleads hfound).unique h]

/-- Listing a directory in which no two names have the same key comes to the same in whatever order the directory
enumerates them, and so does every catalog of it.  Unless a path in it is too long, it gives exactly the admitted files
in natural order, and matches are told by these alone, ties included. -/
theorem listing_exact {d d' : Disk} {s : CatalogSettings} {root : Path} (hworded : s.Worded)
    (hroot : s.directory d.home = .ok root) (hdirectory : d.isDirectory root = .ok true)
    (hkeys : (d.list root).Pairwise fun a b => Text.naturalKey a ≠ Text.naturalKey b)
    (hrelisted : d.Relisted d' root) :
    (s.listing d' = s.listing d ∧ ∀ kind : CatalogKind, Catalog.ofDirectory d' kind s = Catalog.ofDirectory d kind s) ∧
      ((∀ name ∈ d.list root, (root.child name).Fits) →
        (∃ entries, s.listing d = .ok entries ∧ s.Lists d root entries) ∧
          ∀ kind : CatalogKind, ∃ catalog, Catalog.ofDirectory d kind s = .ok catalog ∧
            (kind.complete s).Lists d root catalog.entries ∧
              ∀ name winner, catalog.bestMatch (.str name) = .ok (some winner) ↔
                Leads kind.caseSensitive catalog.entries name winner) := by
  have hroot' : ∀ kind : CatalogKind, (kind.complete s).directory d.home = .ok root := fun kind =>
    (s.directory_complete kind d.home).trans hroot
  refine ⟨⟨hrelisted.listing_eq hroot hkeys, fun kind => ?_⟩, fun hfits => ⟨?_, fun kind => ?_⟩⟩
  · rw [Catalog.ofDirectory_eq, Catalog.ofDirectory_eq, hrelisted.listing_eq (hroot' kind) hkeys]
  · exact hworded.exists_lists hroot hdirectory hkeys hfits
  · rcases (hworded.complete kind).exists_lists (hroot' kind) hdirectory hkeys hfits with ⟨entries, hentries, hlists⟩
    refine ⟨{ kind, settings := kind.complete s, entries }, ?_, hlists, fun name winner => ?_⟩
    · rw [Catalog.ofDirectory_eq, hentries]
      rfl
    · rw [← bestMatch?_eq_some_iff_leads hlists.sorted, Catalog.bestMatch, bestMatchFor]
      simp

/-- A directory of materials with a directory and other files in it. -/
def atelierDisk : Disk where
  home := { anchor := .root false, parts := ["home"] }
  entries := [(["home", "Paints"], .directory), (["home", "Paints", "Red10.tres"], .file .empty),
    (["home", "Paints", "Red2.tres.import"], .file .empty), (["home", "Paints", "Old.tres"], .directory),
    (["home", "Paints", "Red2.tres"], .file .empty), (["home", "Paints", "notes"], .file .empty)]
  rank _ := 0

def atelierSettings : CatalogSettings where
  root := .str "Paints"
  extension := .str ".tres"
  excludedMarker := .str ".import"

/-- The same directory, enumerated from its end. -/
def atelierDisk' : Disk :=
  { atelierDisk with entries := atelierDisk.entries.reverse }

theorem listing_exact_atelier :
    atelierDisk.list { parts := ["Paints"] } = ["Red10.tres", "Red2.tres.import", "Old.tres", "Red2.tres", "notes"] ∧
      atelierDisk'.list { parts := ["Paints"] } =
        ["notes", "Red2.tres", "Old.tres", "Red2.tres.import", "Red10.tres"] ∧
      ∃ entries, atelierSettings.listing atelierDisk = .ok entries ∧
        atelierSettings.listing atelierDisk' = .ok entries ∧
        atelierSettings.Lists atelierDisk { parts := ["Paints"] } entries := by
  have hworded : atelierSettings.Worded := ⟨Or.inr ⟨_, rfl⟩, Or.inr ⟨_, rfl⟩⟩
  have hroot : atelierSettings.directory atelierDisk.home = .ok { parts := ["Paints"] } := by
    rw [← toOption_eq_some_iff]
    decide +kernel
  have hdirectory : atelierDisk.isDirectory { parts := ["Paints"] } = .ok true := by
    rw [← toOption_eq_some_iff]
    decide +kernel
  have hkeys : (atelierDisk.list { parts := ["Paints"] }).Pairwise
      fun a b => Text.naturalKey a ≠ Text.naturalKey b := by
    decide +kernel
  have hplaces : (atelierDisk.entries.map Prod.fst).Nodup := by
    decide +kernel
  have hrelisted : atelierDisk.Relisted atelierDisk' { parts := ["Paints"] } := by
    refine Disk.relisted_of_perm ?_ (List.reverse_perm _) hplaces _
    rfl
  have hfits : ∀ name ∈ atelierDisk.list { parts := ["Paints"] }, (Path.child { parts := ["Paints"] } name).Fits := by
    decide +kernel
  rcases listing_exact hworded hroot hdirectory hkeys hrelisted with ⟨⟨heq, -⟩, hexact⟩
  rcases (hexact hfits).1 with ⟨entries, hentries, hlists⟩
  refine ⟨?_, ?_, entries, hentries, heq.trans hentries, hlists⟩
  · decide +kernel
  · decide +kernel

end LevelPrep
