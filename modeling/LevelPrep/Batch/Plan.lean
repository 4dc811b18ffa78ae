import LevelPrep.Config.Basic
import LevelPrep.Disk.Glob
import LevelPrep.Level.Settings
import LevelPrep.Text.NaturalOrder

/-!
# Plans of batch imports

A plan says where scenes come from, where results go, how scenes are handled and with which import
settings.  Plans are sections of one configuration; what a configuration leaves out is taken from
`Plan.default`.
-/

namespace LevelPrep

/-- Values that are gone through one by one; a fault of one of them shows only when it is come to. -/
abbrev Members := Except Fault (List (Except Fault Json))

/-- Goes through values: each is handled before the next one is come to. -/
def Members.mapM {α : Type} (handle : Json → Except Fault α) (members : Members) :
    Except Fault (List α) := do
  (← members).mapM fun member => do handle (← member)

/-- Reads a value as the rest of a path; lists and objects of a configuration have kinds of their own. -/
def pathEnd : Json → Except Fault Path
  | .str s => .ok (Path.ofText s)
  | .arr _ => .error (.noPathEnd "ListConfig")
  | .obj _ => .error (.noPathEnd "DictConfig")
  | value => .error (.noPathEnd value.kindWord)

/-- Where scenes come from. -/
structure InputPlan where
  root : Json
  /-- Patterns of the scene files below the root. -/
  patterns : Members
  /-- Whether the scene files are named themselves. -/
  namesScenes : Bool
  /-- The scene files, where they are named. -/
  scenes : Members

/-- Where results go. -/
structure OutputPlan where
  directory : Json
  logFile : Json
  sceneTreeFile : Json
  glbFile : Json

/-- How scenes are handled. -/
structure ScenePlan where
  /-- Whether a batch goes on after a scene that fails. -/
  skipFailed : Json
  saveSceneTree : Json
  saveGlb : Json
  /-- Whether exported scenes are turned upright. -/
  upright : Json

/-- The fields of a section, as they were looked up. -/
abbrev SectionFields := List (String × Config.Located)

/-- Fields that do not come from a configuration. -/
def SectionFields.ofJson (fields : List (String × Json)) : SectionFields :=
  fields.map fun (key, value) => (key, { place := none, value })

/-- Reads a section whose fields all have defaults except those in `required`. -/
def readSection (required : List String) (defaults : List (String × Json)) (fields : SectionFields) :
    Except Fault (String → Config.Located) := do
  let known := required ++ defaults.map (·.1)
  if !fields.all fun field => known.contains field.1 then throw .unsuitable
  if required.all fun key => (fields.lookup key).isSome then
    return fun key =>
      (fields.lookup key).getD { place := none, value := (defaults.lookup key).getD .null }
  else throw .unsuitable

def InputPlan.ofSection (config : Config) (fields : SectionFields) : Except Fault InputPlan := do
  let get ← readSection ["root_dir"]
    [("scene_patterns", .arr [.str "*.json", .str "*.glb", .str "*.gltf", .str "*.obj"]),
      ("scene_list", .null)] fields
  return {
    root := (get "root_dir").value
    patterns := config.members (get "scene_patterns")
    namesScenes := (get "scene_list").value.isSet
    scenes := config.members (get "scene_list") }

def OutputPlan.ofSection (fields : SectionFields) : Except Fault OutputPlan := do
  let get ← readSection ["output_dir"]
    [("log_file_name", .str "import.log"), ("scene_tree_file_name", .str "scene_tree.json"),
      ("glb_file_name", .str "scene.glb")] fields
  return {
    directory := (get "output_dir").value, logFile := (get "log_file_name").value
    sceneTreeFile := (get "scene_tree_file_name").value, glbFile := (get "glb_file_name").value }

def ScenePlan.ofSection (fields : SectionFields) : Except Fault ScenePlan := do
  let get ← readSection []
    [("skip_failed_scenes", .bool true), ("save_scene_tree", .bool true),
      ("save_glb", .bool false), ("export_y_up", .bool false)] fields
  return {
    skipFailed := (get "skip_failed_scenes").value, saveSceneTree := (get "save_scene_tree").value
    saveGlb := (get "save_glb").value, upright := (get "export_y_up").value }

/-- A whole plan. -/
structure Plan where
  input : InputPlan
  output : OutputPlan
  settings : ImportSettings
  scene : ScenePlan

namespace Plan

/-- The configuration that a batch starts from. -/
def default : Json :=
  .obj [
    ("import_plan", .obj [
      ("input_cfg", .obj [
        ("root_dir", .str "./input"),
        ("scene_patterns", .arr [.str "*.json", .str "*.glb", .str "*.gltf", .str "*.obj"]),
        ("scene_list", .null)]),
      ("output_cfg", .obj [
        ("output_dir", .str "./output"),
        ("log_file_name", .str "import.log"),
        ("scene_tree_file_name", .str "scene_tree.json"),
        ("glb_file_name", .str "scene.glb")])]),
    ("scene", .obj [
      ("skip_failed_scenes", .bool true),
      ("save_scene_tree", .bool true),
      ("save_glb", .bool false),
      ("export_y_up", .bool false)]),
    ("importer", .obj [
      ("level_name_indicator", .str "Level"),
      ("base_texel_size", .float 0.2),
      ("grammar", .obj [
        ("indicator", .str "="),
        ("value_start", .str "\x7b"),
        ("value_end", .str "\x7d"),
        ("keywords", GrammarSettings.defaultKeywords)]),
      ("catalogs", .obj [
        ("packed_scene", .obj [
          ("catalog_root_path", .str "Game/LevelPackedScene/"),
          ("file_extension", .null),
          ("excluded_marker", .str ".import")]),
        ("material", .obj [
          ("catalog_root_path", .str "Assets/Level/Material/"),
          ("file_extension", .str ".tres"),
          ("excluded_marker", .null)])]),
      ("static_passes", ImportSettings.defaultPasses)])]

/-- The default configuration with changes put over it; texts can refer to the home directory. -/
def configure (home : Path) (changes : Json) : Except Fault Config :=
  ({ root := default, environment := [("HOME", home.text)] } : Config).change changes

/-- Reads the settings of a configuration, with everything in them looked up. -/
def readSettings (config : Config) (node : Config.Located) : Except Fault ImportSettings :=
  match node.value with
  | .obj _ | .arr _ => do
    ImportSettings.ofFields (← (← config.resolve Config.maxSteps node).asSection)
  | _ => .error .malformed

/-- Reads a configuration. -/
def ofConfig (config : Config) : Except Fault Plan := do
  let top ← config.root.asSection
  let part (key : String) : Except Fault Config.Located :=
    match top.lookup key with
    | some value => config.look [key] value
    | none => .error .noSectionMember
  let get ← readSection ["input_cfg", "output_cfg"] [] (← config.fields (← part "import_plan"))
  let input ← InputPlan.ofSection config (← config.fields (get "input_cfg"))
  let output ← OutputPlan.ofSection (← config.fields (get "output_cfg"))
  let settings ← readSettings config (← part "importer")
  let scene ← ScenePlan.ofSection (← config.fields (← part "scene"))
  return { input, output, settings, scene }

end Plan

/-- The scene files of a plan: those it names, or else those that its patterns find, each once and in
natural order of their names. -/
def InputPlan.sceneFiles (plan : InputPlan) (disk : Disk) : Except Fault (List Path) := do
  let root ← (← plan.root.asPath).expandHome disk.home
  if root.text.toList.contains (Char.ofNat 0) then throw .zeroInPath
  let root := disk.absolute root
  if !(← disk.isDirectory root) then throw (.missingInputDirectory root.text)
  if plan.namesScenes then
    plan.scenes.mapM fun scene => return root ++ (← pathEnd scene)
  else
    let found ← plan.patterns.mapM fun pattern => Glob.find disk pattern root
    return Text.naturalSort Path.name found.flatten.eraseDups

end LevelPrep
