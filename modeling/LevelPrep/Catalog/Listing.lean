import LevelPrep.Catalog.Match
import LevelPrep.Disk.Basic
import LevelPrep.Text.NaturalOrder

/-!
# Catalogs

A catalog is a directory of assets that can take the place of imported nodes or materials.  Its entries
are the eligible files in natural order of their names, whatever order the directory lists them in.
-/

namespace LevelPrep

/-- A catalog as configured. -/
structure CatalogSettings where
  /-- The directory. -/
  root : Json
  /-- If set, only files whose name contains it are listed. -/
  extension : Json := .null
  /-- If set, files whose name contains it are skipped. -/
  excludedMarker : Json := .null

/-- Reads the section of a catalog. -/
def CatalogSettings.ofFields (fields : List (String × Json)) : Except Fault CatalogSettings := do
  Json.checkKeys ["catalog_root_path", "file_extension", "excluded_marker"] fields
  match fields.lookup "catalog_root_path" with
  | none => throw .unsuitable
  | some root =>
    return {
      root
      extension := (fields.lookup "file_extension").getD .null
      excludedMarker := (fields.lookup "excluded_marker").getD .null }

/-- The kinds of catalogs. -/
inductive CatalogKind where
  /-- Packaged scenes, which take the place of nodes whatever the letter case. -/
  | packedScene
  /-- Materials, which take the place of materials of the same letter case. -/
  | material
deriving DecidableEq, Repr

namespace CatalogKind

def all : List CatalogKind :=
  [packedScene, material]

/-- The word for the kind in settings. -/
def word : CatalogKind → String
  | packedScene => "packed_scene"
  | material => "material"

/-- The title of the kind in reports. -/
def title : CatalogKind → String
  | packedScene => "PackedSceneCatalog"
  | material => "MaterialCatalog"

/-- Whether short names have to match in letter case. -/
def caseSensitive : CatalogKind → Bool
  | packedScene => false
  | material => true

/-- Fills in what a kind of catalog takes for granted: materials have the ending `.tres`, and the
files that an engine writes beside imported scenes have the ending `.import`. -/
def complete (kind : CatalogKind) (s : CatalogSettings) : CatalogSettings :=
  match kind with
  | packedScene =>
    match s.excludedMarker with
    | .null => { s with excludedMarker := .str ".import" }
    | _ => s
  | material =>
    match s.extension with
    | .null => { s with extension := .str ".tres" }
    | _ => s

end CatalogKind

/-- An asset of a catalog. -/
structure CatalogEntry where
  /-- The file name up to its first point, which names are matched with. -/
  shortName : String
  /-- The file name. -/
  assetId : String
  path : Path
deriving DecidableEq, Repr

/-- Whether a file is listed. -/
def CatalogSettings.isEligible (s : CatalogSettings) (name : String) : Except Fault Bool := do
  if s.excludedMarker.isSet then
    if ← s.excludedMarker.standsIn (.str name) then return false
  if s.extension.isSet then s.extension.standsIn (.str name) else return true

/-- The entries of a directory, given the names in it in any order. -/
def CatalogSettings.entries (s : CatalogSettings) (root : Path) (isFile : String → Except Fault Bool)
    (names : List String) : Except Fault (List CatalogEntry) := do
  let listed ← (Text.naturalSort id names).filterM fun name => do
    if ← isFile name then s.isEligible name else return false
  return listed.map fun name =>
    { shortName := Text.before '.' name, assetId := name, path := root.child name }

/-- A catalog with the entries found when it was opened. -/
structure Catalog where
  kind : CatalogKind
  settings : CatalogSettings
  entries : List CatalogEntry

namespace Catalog

/-- Lists the directory of a catalog. -/
def ofDirectory (disk : Disk) (kind : CatalogKind) (settings : CatalogSettings) :
    Except Fault Catalog := do
  let settings := kind.complete settings
  let root ← (← settings.root.asPath).expandHome disk.home
  if ← disk.isDirectory root then
    let isFile name := disk.isFile (root.child name)
    return { kind, settings, entries := ← settings.entries root isFile (disk.list root) }
  else throw (.missingCatalogDirectory root.text)

/-- The entry that a name is matched with. -/
def bestMatch (c : Catalog) (name : Json) : Except Fault (Option CatalogEntry) :=
  bestMatchFor c.kind.caseSensitive CatalogEntry.shortName c.entries name

end Catalog

end LevelPrep
