import LevelPrep.Proofs.Batch.Importing
import LevelPrep.Proofs.Disk.Agreement

/-!
# Batches, scene by scene

Where a plan skips scenes that fail, a batch is a chain of attempts (`Attempts`), in the order of its scenes: each
of them starts from the state that the one before has left, and has an outcome of its own.  A batch whose scenes can
all be attempted returns normally and reports those that raised (`ran_of_attempts`).
-/

namespace LevelPrep

namespace BatchWork

variable {α β : Type} {b b' : Batch}

/-- Runs a step of a batch: its result and the state it leaves. -/
def runIn (step : BatchWork α) (b : Batch) : Except Fault α × Batch :=
  StateT.run (ExceptT.run step) b

@[simp] theorem runIn_pure (a : α) (b : Batch) : (pure a : BatchWork α).runIn b = (.ok a, b) :=
  rfl

@[simp] theorem runIn_get (b : Batch) : (get : BatchWork Batch).runIn b = (.ok b, b) :=
  rfl

@[simp] theorem runIn_set (b b' : Batch) : (set b' : BatchWork PUnit).runIn b = (.ok ⟨⟩, b') :=
  rfl

@[simp] theorem runIn_modify (f : Batch → Batch) (b : Batch) :
    (modify f : BatchWork PUnit).runIn b = (.ok ⟨⟩, f b) :=
  rfl

@[simp] theorem runIn_lift (outcome : Except Fault α) (b : Batch) :
    (lift outcome : BatchWork α).runIn b = (outcome, b) := by
  cases outcome <;> rfl

theorem runIn_bind (step : BatchWork α) (next : α → BatchWork β) (b : Batch) :
    (step >>= next).runIn b =
      match step.runIn b with
      | (.ok a, b') => (next a).runIn b'
      | (.error fault, b') => (.error fault, b') := by
  show StateT.run (ExceptT.run (step >>= next)) b = _
  simp only [ExceptT.run_bind, StateT.run_bind, runIn]
  show (match (StateT.run (ExceptT.run step) b) with | (x, b') => _) = _
  rcases h : StateT.run (ExceptT.run step) b with ⟨_ | a, b'⟩ <;> rfl

/-- After a step that succeeds comes the next one. -/
theorem runIn_bind_of_ok {step : BatchWork α} {next : α → BatchWork β} {a : α} (h : step.runIn b = (.ok a, b')) :
    (step >>= next).runIn b = (next a).runIn b' := by
  rw [runIn_bind, h]

/-- A fault that was taken over ends what comes after it. -/
theorem runIn_lift_bind {outcome : Except Fault α} {next : α → BatchWork β} {a : α} (h : outcome = .ok a) :
    (lift outcome >>= next).runIn b = (next a).runIn b :=
  runIn_bind_of_ok (by rw [runIn_lift, h])

end BatchWork

/-! ## Printing -/

/-- The state with lines printed. -/
def Batch.printed (b : Batch) (lines : List String) : Batch :=
  { b with output := lines.foldl (fun output line => output ++ line ++ "\n") b.output }

theorem Batch.printed_printed (b : Batch) (lines more : List String) :
    (b.printed lines).printed more = b.printed (lines ++ more) := by
  unfold printed
  rw [List.foldl_append]

/-- How a file stands in a list of files. -/
def listedFile (file : Path) : String :=
  " - " ++ file.text

/-- What a batch prints before its first scene. -/
def announcement (files : List Path) : List String :=
  ("\nImporting " ++ toString files.length ++ " scenes:") :: (files.map listedFile ++ [""])

/-- What a batch prints before a scene. -/
def heading (total number : Nat) (file : Path) : String :=
  "--- (" ++ toString number ++ "/" ++ toString total ++ ") --- " ++ file.text ++ "\n"

/-- What a batch prints before scenes of which the first has the given number. -/
def headings (total : Nat) : (number : Nat) → List Path → List String
  | _, [] => []
  | number, file :: rest => heading total number file :: headings total (number + 1) rest

/-- What a batch prints after its last scene. -/
def report (files failed : List Path) : List String :=
  ("\nAll done. " ++ toString (files.length - failed.length) ++ "/" ++ toString files.length ++
    " scenes imported.") :: if failed.isEmpty then [] else "Failed scenes:" :: failed.map listedFile

/-- An attempt of a scene: the state that it started from, and what it came to. -/
structure Attempt where
  before : Batch
  outcome : Except Fault Unit

/-- The scenes that raised. -/
def raised (files : List Path) (attempts : List Attempt) : List Path :=
  ((files.zip attempts).filter fun scene => scene.2.outcome.toOption.isNone).map (·.1)

namespace BatchWork

variable {b b' : Batch}

@[simp] theorem runIn_printLine (line : String) (b : Batch) :
    (printLine line).runIn b = (.ok (), b.printed [line]) :=
  rfl

theorem runIn_printFiles (files : List Path) (b : Batch) :
    (printFiles files).runIn b = (.ok (), b.printed (files.map listedFile)) := by
  induction files generalizing b with
  | nil => rfl
  | cons file rest ih =>
      show (printLine (" - " ++ file.text) >>= fun _ => printFiles rest).runIn b = _
      rw [runIn_bind_of_ok (runIn_printLine _ b), ih, Batch.printed_printed]
      rfl

/-! ## Attempts -/

/-- Imports one scene with its log file, and answers with what this comes to. -/
def attemptScene (processor : LevelProcessor Float) (plan : Plan) (file : Path) :
    BatchWork (Except Fault Unit) := do
  let directory := (← lift plan.output.directory.asPath).child file.stem
  makeDirectory directory
  let logPath := directory ++ (← lift (pathEnd plan.output.logFile))
  let b ← get
  let (context, router, disk) ← lift (b.router.enter b.session.disk logPath false .debug)
  set { b with router := router, session := { b.session with disk := disk } }
  let outcome ← attempt (Work.importScene processor file directory plan.output plan.scene)
  if let .error fault := outcome then
    deliver {
      level := .error, logger := "main"
      message := "Error importing scene: " ++ file.text ++ " - error: " ++ fault.logText }
  modify fun b => { b with router := b.router.leave context }
  return outcome

/-- Where scenes that fail are skipped, an import is an attempt. -/
theorem importOne_eq {plan : Plan} (hskip : plan.scene.skipFailed.isSet = true) (processor : LevelProcessor Float)
    (file : Path) : importOne processor plan file = (attemptScene processor plan file >>= fun outcome =>
      pure outcome.toOption.isNone) := by
  unfold importOne attemptScene
  simp only [bind_assoc]
  refine bind_congr fun out => bind_congr fun _ => bind_congr fun log => bind_congr fun b => ?_
  refine bind_congr fun entered => bind_congr fun _ => bind_congr fun outcome => ?_
  cases outcome with
  | ok _ => rfl
  | error fault =>
      simp only [hskip, if_true, bind_assoc]
      rfl

/-- Scenes that were attempted one after another, of which the first has the given number. -/
inductive Attempts (processor : LevelProcessor Float) (plan : Plan) (total : Nat) :
    Nat → List Path → List Attempt → Batch → Batch → Prop
  | nil {number : Nat} {b : Batch} : Attempts processor plan total number [] [] b b
  | cons {number : Nat} {file : Path} {rest : List Path} {outcome : Except Fault Unit} {attempts : List Attempt}
      {b b₁ b' : Batch}
      (hattempt : (attemptScene processor plan file).runIn (b.printed [heading total number file]) =
        (.ok outcome, b₁))
      (hrest : Attempts processor plan total (number + 1) rest attempts b₁ b') :
      Attempts processor plan total number (file :: rest)
        ({ before := b.printed [heading total number file], outcome } :: attempts) b b'

variable {processor : LevelProcessor Float} {plan : Plan} {total number : Nat} {files : List Path}
  {attempts : List Attempt}

theorem runIn_importAll (hskip : plan.scene.skipFailed.isSet = true)
    (h : Attempts processor plan total number files attempts b b') :
    (importAll processor plan total number files).runIn b = (.ok (raised files attempts), b') := by
  induction h with
  | nil => rfl
  | @cons number file rest outcome attempts b b₁ b' hattempt _ ih =>
      have hone : (importOne processor plan file).runIn (b.printed [heading total number file]) =
          (.ok outcome.toOption.isNone, b₁) := by
        rw [importOne_eq hskip, runIn_bind_of_ok hattempt]
        rfl
      unfold importAll
      rw [runIn_bind_of_ok (runIn_printLine _ b)]
      refine (runIn_bind_of_ok hone).trans ?_
      rw [runIn_bind_of_ok ih, runIn_pure]
      unfold raised
      cases outcome <;> rfl

/-! ## Whole batches -/

/-- Reports what a batch has come to. -/
def reportScenes (files failed : List Path) : BatchWork Unit := do
  printLine ("\nAll done. " ++ toString (files.length - failed.length) ++ "/" ++
    toString files.length ++ " scenes imported.")
  if !failed.isEmpty then
    printLine "Failed scenes:"
    printFiles failed

theorem runIn_reportScenes (files failed : List Path) (b : Batch) :
    (reportScenes files failed).runIn b = (.ok (), b.printed (report files failed)) := by
  unfold reportScenes report
  rw [runIn_bind_of_ok (runIn_printLine _ b)]
  cases failed.isEmpty with
  | true => rfl
  | false =>
      simp only [Bool.not_false, if_true, Bool.false_eq_true, if_false]
      rw [runIn_bind_of_ok (runIn_printLine _ _), runIn_printFiles, Batch.printed_printed, Batch.printed_printed]
      rfl

/-- Once its scenes are known, a batch imports them and reports what they have come to. -/
theorem runIn_run {tools : Tools Float} {config : Config} {start : Batch} (hplan : Plan.ofConfig config = .ok plan)
    (hprocessor : LevelProcessor.ofSettings plan.settings tools = .ok processor)
    (hfiles : plan.input.sceneFiles start.session.disk = .ok files) :
    (run tools config).runIn start = (importAll processor plan files.length 1 files >>= reportScenes files).runIn
      (start.printed (announcement files)) := by
  unfold run
  rw [runIn_lift_bind hplan, runIn_lift_bind hprocessor, runIn_bind_of_ok (runIn_get start), runIn_lift_bind hfiles,
    runIn_bind_of_ok (runIn_printLine _ start), runIn_bind_of_ok (runIn_printFiles files _),
    runIn_bind_of_ok (runIn_printLine _ _), Batch.printed_printed, Batch.printed_printed]
  rfl

/-- A batch that returned normally: it has attempted its scenes one after another, and said so. -/
structure Ran (tools : Tools Float) (config : Config) (processor : LevelProcessor Float) (plan : Plan)
    (files : List Path) (attempts : List Attempt) (start finish : Batch) : Prop where
  run : (BatchWork.run tools config).runIn start = (.ok (), finish)
  course : ∃ last, Attempts processor plan files.length 1 files attempts (start.printed (announcement files)) last ∧
    finish = last.printed (report files (raised files attempts))

/-- A batch whose scenes can all be attempted returns normally. -/
theorem ran_of_attempts {tools : Tools Float} {config : Config} {start last : Batch}
    (hplan : Plan.ofConfig config = .ok plan)
    (hprocessor : LevelProcessor.ofSettings plan.settings tools = .ok processor)
    (hskip : plan.scene.skipFailed.isSet = true) (hfiles : plan.input.sceneFiles start.session.disk = .ok files)
    (h : Attempts processor plan files.length 1 files attempts (start.printed (announcement files)) last) :
    Ran tools config processor plan files attempts start (last.printed (report files (raised files attempts))) := by
  refine ⟨?_, last, h, rfl⟩
  rw [runIn_run hplan hprocessor hfiles, runIn_bind_of_ok (runIn_importAll hskip h), runIn_reportScenes]

end BatchWork

end LevelPrep
