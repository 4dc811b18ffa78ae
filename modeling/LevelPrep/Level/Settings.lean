import LevelPrep.Attribute.Grammar
import LevelPrep.Catalog.Listing
import LevelPrep.Pass.Order

/-!
# Settings of an import

The settings say which scenes are levels, how large a texel is, how attributes are written in names,
which catalogs there are, and which passes static nodes go through.
-/

namespace LevelPrep

structure ImportSettings where
  /-- Scenes whose name contains it are levels. -/
  levelIndicator : Json
  /-- The size of a texel where a name asks for no other. -/
  baseTexel : Json
  grammar : GrammarSettings
  catalogs : List (String × CatalogSettings)
  passes : List Json

namespace ImportSettings

/-- The catalogs of settings that configure none. -/
def defaultCatalogs : Json :=
  .obj [
    ("packed_scene", .obj [("catalog_root_path", .str "Game/LevelPackedScene/")]),
    ("material", .obj [("catalog_root_path", .str "Assets/Level/Material/"),
      ("file_extension", .str ".tres")])]

/-- The passes of settings that configure none. -/
def defaultPasses : Json :=
  .arr (PassKind.all.map fun kind => .str kind.word)

/-- Refuses a base texel that is a number but not larger than zero, or no number at all. -/
def checkTexel (value : Json) : Except Fault Unit :=
  match value.notPositive? with
  | none => .error .unsuitable
  | some true => .error (.baseTexelSize value.display)
  | some false => .ok ()

/-- Reads settings. -/
def ofFields (fields : List (String × Json)) : Except Fault ImportSettings := do
  Json.checkKeys
    ["level_name_indicator", "base_texel_size", "grammar", "catalogs", "static_passes"] fields
  let baseTexel := (fields.lookup "base_texel_size").getD (.float 0.2)
  let grammar ← GrammarSettings.ofFields
    (← ((fields.lookup "grammar").getD (.obj [])).asSection)
  let catalogs ← ((fields.lookup "catalogs").getD defaultCatalogs).asObject "items"
  let catalogs ← catalogs.mapM fun (name, config) => do
    return (name, ← CatalogSettings.ofFields (← config.asSection))
  let passes ← ((fields.lookup "static_passes").getD defaultPasses).members
  checkTexel baseTexel
  return {
    levelIndicator := (fields.lookup "level_name_indicator").getD (.str "Level")
    baseTexel, grammar, catalogs, passes }

/-- The size of a texel as a number. -/
def texel (s : ImportSettings) : Except Fault Float :=
  s.baseTexel.asNumber

end ImportSettings

end LevelPrep
