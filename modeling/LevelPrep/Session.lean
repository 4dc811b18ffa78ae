import LevelPrep.Catalog.Listing
import LevelPrep.Journal
import LevelPrep.Registry
import LevelPrep.Scene.Branch

/-!
# The state of a run

A session is everything that a run works on: the live nodes, the files, the catalogs, and what the run
has reported so far.  A step (`Work`) that fails leaves the session as it was at that point; nothing is
taken back.
-/

namespace LevelPrep

/-- A call of the unwrapper: the mesh that is handed over with the resources that it refers to, the transform of its
node, and the size of a texel. -/
structure UnwrapCall (R : Type) where
  handed : LiveMesh
  resources : Resources
  transform : Matrix R
  texel : Float

/-- The name of the mesh that is handed over. -/
def UnwrapCall.mesh {R : Type} (call : UnwrapCall R) : Json :=
  call.handed.name

/-- The catalogs of a run, with the assets that were loaded from them so far. -/
structure Shelf where
  catalogs : List (String × Catalog) := []
  /-- The materials by their asset names. -/
  materials : List (String × MaterialId) := []
  /-- The roots of the packaged scenes by their asset names.  These are live trees like any other, and are
  never handed out: what is given away is a copy. -/
  packedScenes : List (String × NodeId) := []

structure Session (R : Type) where
  stage : Stage R := {}
  shelf : Shelf := {}
  disk : Disk
  journal : Array LogRecord := #[]
  unwrapCalls : Array (UnwrapCall R) := #[]
  warnings : Array String := #[]

/-- A step of a run: it may fail, and it keeps the state it leaves in either case. -/
abbrev Work (R : Type) := ExceptT Fault (StateM (Session R))

namespace Work

variable {R α : Type}

/-- Runs a step: its result and the session it leaves. -/
def runIn (step : Work R α) (s : Session R) : Except Fault α × Session R :=
  StateT.run (ExceptT.run step) s

/-- The session as it is. -/
def session : Work R (Session R) :=
  get

/-- Reports to the journal. -/
def log (level : LogLevel) (logger message : String) : Work R Unit :=
  modify fun s => { s with journal := s.journal.push { level, logger, message } }

/-- Reports a detail. -/
def debug (logger message : String) : Work R Unit :=
  log .debug logger message

/-- Changes the nodes and resources. -/
def onStage (f : StateM (Stage R) α) : Work R α :=
  modifyGet fun s => let (a, stage) := f s.stage; (a, { s with stage := stage })

/-- Changes the nodes. -/
def onGraph (f : SceneGraph R → SceneGraph R) : Work R Unit :=
  modify fun s => { s with stage := { s.stage with graph := f s.stage.graph } }

/-- Changes the resources. -/
def onResources (f : StateM Resources α) : Work R α :=
  modifyGet fun s =>
    let (a, resources) := f s.stage.resources
    (a, { s with stage := { s.stage with resources := resources } })

/-- The live nodes. -/
def graph : Work R (SceneGraph R) :=
  return (← get).stage.graph

/-- The resources of their meshes. -/
def resources : Work R Resources :=
  return (← get).stage.resources

/-- Takes over the outcome of something that does not depend on the session. -/
def lift (outcome : Except Fault α) : Work R α :=
  match outcome with
  | .ok a => pure a
  | .error fault => throw fault

/-! ## Running steps -/

@[simp] theorem runIn_pure (a : α) (s : Session R) : (pure a : Work R α).runIn s = (.ok a, s) :=
  rfl

@[simp] theorem runIn_session (s : Session R) : (session : Work R (Session R)).runIn s = (.ok s, s) :=
  rfl

@[simp] theorem runIn_lift (outcome : Except Fault α) (s : Session R) :
    (lift outcome : Work R α).runIn s = (outcome, s) := by
  cases outcome <;> rfl

/-- What follows a step runs in the session that the step leaves, and not at all if the step fails. -/
theorem runIn_bind {β : Type} (step : Work R α) (next : α → Work R β) (s : Session R) :
    (step >>= next).runIn s =
      match step.runIn s with
      | (.ok a, s') => (next a).runIn s'
      | (.error fault, s') => (.error fault, s') := by
  show StateT.run (ExceptT.run (step >>= next)) s = _
  simp only [ExceptT.run_bind, StateT.run_bind, runIn]
  show (match (StateT.run (ExceptT.run step) s) with | (x, s') => _) = _
  rcases h : StateT.run (ExceptT.run step) s with ⟨_ | a, s'⟩ <;> rfl

end Work

end LevelPrep
