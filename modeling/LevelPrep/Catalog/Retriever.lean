import LevelPrep.Scene.Copy
import LevelPrep.Session

/-!
# Taking assets from catalogs

Catalogs are listed once, when the shelf is opened.  An asset is loaded from its file when it is first
needed and kept from then on, whatever becomes of the file.  A material is one and the same for
everything that it is given to; a packaged scene is copied each time.
-/

namespace LevelPrep

/-- The kinds of catalogs, by the names they are configured under. -/
def CatalogKind.registry : Registry CatalogKind :=
  CatalogKind.all.foldl (fun r kind => r.register (.str kind.word) kind) {}

/-- The kind of catalog under a name. -/
def catalogKind {α : Type} (registry : Registry α) (name : Json) : Except Fault α := do
  name.checkKey
  match registry.get? name with
  | some kind => return kind
  | none => throw (.unknownCatalog name.display registry.shownNames)

namespace Shelf

/-- Opens the configured catalogs. -/
def ofSettings (disk : Disk) (settings : List (String × CatalogSettings)) :
    Except Fault Shelf := do
  let catalogs ← settings.mapM fun (name, config) => do
    let kind ← catalogKind CatalogKind.registry (.str name)
    return (name, ← Catalog.ofDirectory disk kind config)
  return { catalogs := catalogs }

/-- The catalog configured under a name. -/
def catalog (shelf : Shelf) (name : String) : Except Fault Catalog :=
  match shelf.catalogs.lookup name with
  | some catalog => .ok catalog
  | none => .error (.catalogNotConfigured name)

/-- The catalog of packaged scenes. -/
def packedSceneCatalog (shelf : Shelf) : Except Fault Catalog :=
  shelf.catalog CatalogKind.packedScene.word

/-- The catalog of materials. -/
def materialCatalog (shelf : Shelf) : Except Fault Catalog :=
  shelf.catalog CatalogKind.material.word

/-- The packaged scene that a node is replaced by, if there is one. -/
def packedSceneFor (shelf : Shelf) (name : Json) : Except Fault (Option CatalogEntry) := do
  (← shelf.packedSceneCatalog).bestMatch name

/-- The material that a material is replaced by, if there is one. -/
def materialFor (shelf : Shelf) (name : Json) : Except Fault (Option CatalogEntry) := do
  (← shelf.materialCatalog).bestMatch name

end Shelf

/-- How the parts of a run that are not its own are done. -/
structure Tools (R : Type) where
  /-- Loads a scene file: the warnings that come with it, and the tree in it. -/
  loadScene : Disk → Path → List String × Except Fault (Branch R)
  /-- Gives a mesh lightmap coordinates for texels of a given size. -/
  unwrap : LiveMesh → Matrix R → Float → Resources → Except Fault LiveMesh × Resources

namespace Work

variable {R : Type}

/-- Loads a scene file. -/
def loadScene (tools : Tools R) (path : Path) : Work R (Branch R) := do
  let (warnings, outcome) := tools.loadScene (← session).disk path
  modify fun s => { s with warnings := s.warnings ++ warnings.toArray }
  lift outcome

/-- Loads a material, which is named after its catalog entry. -/
def loadMaterial (entry : CatalogEntry) : Work R MaterialId := do
  if ← lift ((← session).disk.isFile entry.path) then
    onResources (Resources.addMaterial
      { name := .str entry.shortName, resourcePath := some entry.path })
  else throw (.missingMaterial entry.path.text)

/-- The material that takes the place of one of the given name: the best match of the catalog, or else
a new blank one. -/
def materialReplacement (name : Json) : Work R MaterialId := do
  match ← lift ((← session).shelf.materialFor name) with
  | none =>
    debug "assets.retriever"
      ("No material replacement for '" ++ name.display ++ "', using a blank material.")
    onResources (Resources.addMaterial {})
  | some entry =>
    match (← session).shelf.materials.lookup entry.assetId with
    | some id => return id
    | none =>
      let id ← loadMaterial entry
      modify fun s =>
        { s with shelf := { s.shelf with materials := (entry.assetId, id) :: s.shelf.materials } }
      return id

/-- Plants a branch as a scene of its own. -/
def plantScene (branch : Branch R) : Work R NodeId := do
  let root ← onStage (Stage.plant branch)
  onGraph (·.ownTree root)
  return root

/-- The root of the packaged scene of a catalog entry, which is loaded when it is first needed. -/
def packedScene (tools : Tools R) (entry : CatalogEntry) : Work R NodeId := do
  match (← session).shelf.packedScenes.lookup entry.assetId with
  | some kept => return kept
  | none =>
    let branch ← loadScene tools entry.path
    debug "assets.loader"
      ("Loaded packaged scene '" ++ entry.path.name ++ "' with " ++
        toString branch.topLevel.length ++ " top-level nodes.")
    let kept ← plantScene branch
    modify fun s =>
      { s with
        shelf := { s.shelf with packedScenes := (entry.assetId, kept) :: s.shelf.packedScenes } }
    return kept

variable [Zero R] [One R]

/-- A copy of the packaged scene that takes the place of a node, or else an empty node, named after the
node. -/
def packedSceneReplacement (tools : Tools R) (name : Json) : Work R NodeId := do
  let root ←
    match ← lift ((← session).shelf.packedSceneFor name) with
    | none =>
      debug "assets.retriever"
        ("No packaged scene for '" ++ name.display ++ "', using an empty placeholder.")
      onStage (Stage.plant (.node (.str "Node") Matrix.identity .plain []))
    | some entry =>
      let kept ← packedScene tools entry
      onStage (Stage.copyTree kept)
  onGraph (·.modify root fun n => { n with name := .str (name.display ++ " (replaced)") })
  return root

end Work

end LevelPrep
