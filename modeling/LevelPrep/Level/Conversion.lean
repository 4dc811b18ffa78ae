import LevelPrep.Pass.Collision
import LevelPrep.Pass.Rendering

/-!
# Turning a scene into a level

The children of a scene fall into two groups.  A child whose name matches a packaged scene is replaced
by an instance of it; every other child is static and goes through the passes.  `convert` does this to
any scene, `process` only to scenes whose name marks them as levels.
-/

namespace LevelPrep

variable {R : Type}

/-- Applies a pass to a static node and everything below it. -/
def PassKind.apply [Zero R] [One R] [Add R] [Mul R] (kind : PassKind) (context : PassContext R)
    (root : NodeId) : Work R Unit :=
  match kind with
  | collision => Collision.apply context root
  | renderRemoval => Rendering.applyRemoval context root
  | lightmap => Rendering.applyLightmap context root
  | shadow => Rendering.applyShadow context root
  | renderLayer => Rendering.applyLayer context root
  | material => Rendering.applyMaterial context root

/-- The pass of a name, applied. -/
def applyNamed [Zero R] [One R] [Add R] [Mul R] (name : String) (context : PassContext R)
    (root : NodeId) : Work R Unit := do
  let pass ← Work.lift (PassRegistry.builtin.find (.str name))
  match PassKind.ofName? pass.name with
  | some kind => kind.apply context root
  | none => return

/-- The two groups of children, each in the order of the children. -/
structure Classification where
  static : List NodeId
  replaceable : List NodeId

/-- Sorts children into the two groups. -/
def classify (children : List NodeId) : Work R Classification := do
  let catalog ← Work.lift (← Work.session).shelf.packedSceneCatalog
  let marked ← children.mapM fun id => do
    let name := (← Work.graph).name id
    match ← Work.lift (catalog.bestMatch name) with
    | none => return (id, false)
    | some entry =>
      Work.debug "pipeline.classifier"
        ("'" ++ name.display ++ "' will be replaced by packaged scene '" ++ entry.assetId ++ "'.")
      return (id, true)
  return {
    static := (marked.filter fun m => !m.2).map (·.1)
    replaceable := (marked.filter fun m => m.2).map (·.1) }

/-- Replaces the content of a node by an instance of its packaged scene.  The node itself stays, without
its mesh; its children are queued to be taken out. -/
def replaceContent [Zero R] [One R] (tools : Tools R) (scene node : NodeId) : Work R NodeId := do
  let name := (← Work.graph).name node
  let replacement ← Work.packedSceneReplacement tools name
  Work.onGraph fun g => (g.children node).foldl SceneGraph.queueFree g
  Work.onGraph (·.modifyInstance node fun i => { i with mesh := none })
  let g ← Work.lift ((← Work.graph).addChild node (some replacement))
  Work.onGraph fun _ => g
  Work.onGraph (·.setOwner replacement (some scene))
  Work.debug "pipeline.replacement"
    ("Replaced content of '" ++ name.display ++ "' with '" ++
      ((← Work.graph).name replacement).display ++ "'.")
  return replacement

/-- Whether a scene of the given name is a level. -/
def isLevel (name indicator : Json) : Except Fault Bool :=
  indicator.standsIn name

/-- What is needed to convert scenes: settings that were found good. -/
structure LevelProcessor (R : Type) where
  settings : ImportSettings
  grammar : Grammar
  passes : List PassKind
  tools : Tools R

namespace LevelProcessor

/-- Checks settings. -/
def ofSettings (settings : ImportSettings) (tools : Tools R) : Except Fault (LevelProcessor R) := do
  let grammar ← settings.grammar.grammar
  let passes ← PassRegistry.builtin.build (.arr settings.passes)
  let _ ← settings.grammar.overlaps
  return {
    settings, grammar, tools
    passes := passes.filterMap fun pass => PassKind.ofName? pass.name }

variable [Zero R] [One R] [Add R] [Mul R]

/-- Turns a scene into a level. -/
def convert (p : LevelProcessor R) (scene : NodeId) : Work R Unit := do
  let shelf ← Work.lift (Shelf.ofSettings (← Work.session).disk p.settings.catalogs)
  modify fun s => { s with shelf := shelf }
  let context : PassContext R :=
    { scene, settings := p.settings, grammar := p.grammar, tools := p.tools }
  let g ← Work.graph
  let groups ← classify (g.children scene)
  Work.debug "pipeline.processor"
    ("Scene '" ++ (g.name scene).display ++ "': " ++ toString groups.static.length ++
      " static and " ++ toString groups.replaceable.length ++ " replaceable nodes.")
  groups.static.forM fun node => p.passes.forM fun pass => pass.apply context node
  groups.replaceable.forM fun node => discard (replaceContent p.tools scene node)
  Work.onGraph fun g => (g.flush scene).2

/-- Turns a scene into a level if its name marks it as one, and leaves it as it is otherwise. -/
def process (p : LevelProcessor R) (scene : NodeId) : Work R Unit := do
  let name := (← Work.graph).name scene
  if ← Work.lift (isLevel name p.settings.levelIndicator) then
    p.convert scene
    Work.log .info "pipeline.processor" ("Import processed " ++ name.display ++ " as a level.")
  else
    Work.debug "pipeline.processor" ("Scene '" ++ name.display ++ "' is not a level, skipping.")

end LevelProcessor

end LevelPrep
