import LevelPrep.Batch.Plan
import LevelPrep.Journal.Routing
import LevelPrep.Level.Conversion
import LevelPrep.Lightmap
import LevelPrep.Scene.File
import LevelPrep.Scene.FrameDocument

/-!
# Batch imports

A batch imports one scene after the other: it loads the scene, turns it into a level if it is one, and
saves what the plan asks for.  Every scene has a directory and a log file of its own.  Where the plan
says so, a scene that fails is reported and the batch goes on.
-/

namespace LevelPrep

/-- How scenes are loaded and meshes are unwrapped. -/
def Tools.standard : Tools Float where
  loadScene := SceneFile.load
  unwrap mesh transform texel :=
    Lightmap.unwrap Lightmap.gridPacker {} mesh transform (.float texel)

namespace Work

/-- Writes a file, which has to be in a directory that is there. -/
def writeFile {R : Type} (path : Path) (text : String) : Work R Unit := do
  let place ← lift ((← session).disk.openFile path)
  modify fun s => { s with disk := s.disk.put place (.file text.toUTF8) }

/-- The tree below a live node as a value. -/
def readBranch {R : Type} (id : NodeId) : Work R (Branch R) := do
  match (← session).stage.branch? id with
  | some branch => return branch
  | none => throw .unsuitable

/-- Saves a scene as a document. -/
def saveTree (root : NodeId) (path : Path) : Work Float Unit := do
  writeFile path (Json.print (Document.encode (← readBranch root)))

/-- Exports a scene; a `~` at the start of the path stands for the home directory. -/
def exportScene (root : NodeId) (path : Path) (upright : Bool) : Work Float Unit := do
  let (frames, geometries) ← lift (exportFrames (← session).stage root upright)
  let text ← lift (FrameDocument.print path frames geometries)
  let disk := (← session).disk
  writeFile (disk.absolute (path.expandOwnHome disk.home)) text

/-- Loads a scene, turns it into a level if it is one, and saves what is asked for. -/
def importScene (processor : LevelProcessor Float) (file directory : Path) (output : OutputPlan)
    (plan : ScenePlan) : Work Float Unit := do
  let root ← plantScene (← loadScene processor.tools file)
  processor.process root
  if plan.saveSceneTree.isSet then
    let path := directory ++ (← lift (pathEnd output.sceneTreeFile))
    saveTree root path
    log .info "main" ("Saved scene tree to: " ++ path.text)
  if plan.saveGlb.isSet then
    let path := directory ++ (← lift (pathEnd output.glbFile))
    exportScene root path plan.upright.isSet
    log .info "main" ("Exported scene to: " ++ path.text)

end Work

/-- The state of a batch. -/
structure Batch where
  session : Session Float
  router : Router := {}
  /-- The time that log lines are stamped with. -/
  time : String
  /-- What was printed so far. -/
  output : String := ""

/-- A step of a batch: it may fail, and it keeps the state it leaves in either case. -/
abbrev BatchWork := ExceptT Fault (StateM Batch)

namespace BatchWork

/-- Takes over an outcome. -/
def lift {α : Type} : Except Fault α → BatchWork α
  | .ok a => pure a
  | .error fault => throw fault

/-- Prints a line. -/
def printLine (line : String) : BatchWork Unit :=
  modify fun b => { b with output := b.output ++ line ++ "\n" }

/-- Hands a record to the log files. -/
def deliver (record : LogRecord) : BatchWork Unit :=
  modify fun b =>
    let (router, disk) := Router.deliver b.time (b.router, b.session.disk) record
    { b with router := router, session := { b.session with disk := disk } }

/-- Runs a step of the session, hands on what it reports, and answers with its outcome. -/
def attempt {α : Type} (step : Work Float α) : BatchWork (Except Fault α) := do
  let b ← get
  let (outcome, session) := step.runIn b.session
  set { b with session := session }
  (session.journal.toList.drop b.session.journal.size).forM deliver
  return outcome

/-- Makes the directory of a scene. -/
def makeDirectory (path : Path) : BatchWork Unit := do
  let disk ← lift ((← get).session.disk.makeDirectory path)
  modify fun b => { b with session := { b.session with disk := disk } }

/-- Imports one scene with its log file.  Whether it failed is answered if the plan skips such scenes;
otherwise the batch fails with it. -/
def importOne (processor : LevelProcessor Float) (plan : Plan) (file : Path) : BatchWork Bool := do
  let directory := (← lift plan.output.directory.asPath).child file.stem
  makeDirectory directory
  let logPath := directory ++ (← lift (pathEnd plan.output.logFile))
  let b ← get
  let (context, router, disk) ← lift (b.router.enter b.session.disk logPath false .debug)
  set { b with router := router, session := { b.session with disk := disk } }
  let outcome ← attempt (Work.importScene processor file directory plan.output plan.scene)
  match outcome with
  | .ok _ =>
    modify fun b => { b with router := b.router.leave context }
    return false
  | .error fault =>
    if plan.scene.skipFailed.isSet then
      deliver {
        level := .error, logger := "main"
        message := "Error importing scene: " ++ file.text ++ " - error: " ++ fault.logText }
      modify fun b => { b with router := b.router.leave context }
      return true
    else
      modify fun b => { b with router := b.router.leave context }
      throw fault

/-- Imports the scenes that are left, of which the first has the given number, and answers with those
that failed. -/
def importAll (processor : LevelProcessor Float) (plan : Plan) (total : Nat) :
    (number : Nat) → List Path → BatchWork (List Path)
  | _, [] => return []
  | number, file :: rest => do
    printLine ("--- (" ++ toString number ++ "/" ++ toString total ++ ") --- " ++ file.text ++ "\n")
    let failed ← importOne processor plan file
    let others ← importAll processor plan total (number + 1) rest
    return if failed then file :: others else others

/-- Prints a list of files. -/
def printFiles (files : List Path) : BatchWork Unit :=
  files.forM fun file => printLine (" - " ++ file.text)

/-- Runs a whole batch. -/
def run (tools : Tools Float) (config : Config) : BatchWork Unit := do
  let plan ← lift (Plan.ofConfig config)
  let processor ← lift (LevelProcessor.ofSettings plan.settings tools)
  let files ← lift (plan.input.sceneFiles (← get).session.disk)
  printLine ("\nImporting " ++ toString files.length ++ " scenes:")
  printFiles files
  printLine ""
  let failed ← importAll processor plan files.length 1 files
  printLine ("\nAll done. " ++ toString (files.length - failed.length) ++ "/" ++
    toString files.length ++ " scenes imported.")
  if !failed.isEmpty then
    printLine "Failed scenes:"
    printFiles failed

end BatchWork

end LevelPrep
