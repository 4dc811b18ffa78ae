import LevelPrep.Proofs.Batch.Running
import Mathlib.Data.List.Nodup
import Mathlib.Logic.Relation

/-!
# Log contexts that nest

Code enters log contexts and leaves them in the opposite order, whether it returns or raises in between (`Moment`,
`Runs`).  The handlers of a moment are told by the handlers of the first one and by the contexts that are open
(`nested`): a context stands behind the handlers that it found, or, if it is exclusive, in place of them.  So leaving a
context brings back the handlers it was entered with, in their order (`handlers_restored`).
-/

namespace LevelPrep

/-! ## Handlers -/

/-- The console, or a log file that was opened before as many others as the number says. -/
def Handler.Opened (opened : Nat) : Handler → Prop
  | .console => True
  | .file number .. => number < opened

theorem Handler.Opened.mono {h : Handler} {opened more : Nat} (hopened : h.Opened opened) (hle : opened ≤ more) :
    h.Opened more := by
  cases h with
  | console => trivial
  | file number path level => exact Nat.lt_of_lt_of_le hopened hle

namespace Router

theorem addHandler_of_notMem {handlers : List Handler} {h : Handler} (hnew : h ∉ handlers) :
    addHandler handlers h = handlers ++ [h] := by
  unfold addHandler
  rw [if_neg]
  rwa [List.contains_iff_mem]

/-- Handlers that are added one after another stand in the order in which they are added, if none comes twice. -/
theorem foldl_addHandler {handlers more : List Handler} (h : (handlers ++ more).Nodup) :
    more.foldl addHandler handlers = handlers ++ more := by
  induction more generalizing handlers with
  | nil => simp
  | cons first rest ih =>
      have hnew : first ∉ handlers := fun hmem => List.disjoint_of_nodup_append h hmem List.mem_cons_self
      rw [List.foldl_cons, addHandler_of_notMem hnew]
      rw [List.append_cons handlers first rest] at h ⊢
      exact ih h

/-- A record that is handed to a handler changes nothing of the router but its console. -/
theorem handle_fst (time : String) (record : LogRecord) (state : Router × Disk) (handler : Handler) :
    (handle time record state handler).1 =
      { state.1 with console := (handle time record state handler).1.console } := by
  unfold handle
  split
  · rfl
  · split_ifs
    · split <;> rfl
    · rfl

theorem foldl_handle_fst (time : String) (record : LogRecord) (handlers : List Handler) (state : Router × Disk) :
    (handlers.foldl (handle time record) state).1 =
      { state.1 with console := (handlers.foldl (handle time record) state).1.console } := by
  induction handlers generalizing state with
  | nil => rfl
  | cons handler rest ih =>
      rw [List.foldl_cons, ih, handle_fst]

/-- Nor does a record that is handed to all of them. -/
theorem deliver_fst (time : String) (state : Router × Disk) (record : LogRecord) :
    (deliver time state record).1 = { state.1 with console := (deliver time state record).1.console } := by
  unfold deliver
  split_ifs
  · exact foldl_handle_fst time record state.1.handlers state
  · rfl

end Router

/-! ## Contexts -/

/-- The handlers there are while contexts are open, the innermost first. -/
def nested (before : List Handler) : List LogContext → List Handler
  | [] => before
  | context :: outer =>
    if context.exclusive then [context.handler] else nested before outer ++ [context.handler]

theorem mem_of_mem_nested {before : List Handler} {contexts : List LogContext} {h : Handler}
    (hmem : h ∈ nested before contexts) : h ∈ before ∨ ∃ context ∈ contexts, context.handler = h := by
  induction contexts with
  | nil => exact Or.inl hmem
  | cons context outer ih =>
      rw [nested] at hmem
      split_ifs at hmem
      · exact Or.inr ⟨context, List.mem_cons_self, (List.mem_singleton.1 hmem).symm⟩
      · rcases List.mem_append.1 hmem with hmem | hmem
        · rcases ih hmem with hbefore | ⟨other, hother, heq⟩
          · exact Or.inl hbefore
          · exact Or.inr ⟨other, List.mem_cons_of_mem context hother, heq⟩
        · exact Or.inr ⟨context, List.mem_cons_self, (List.mem_singleton.1 hmem).symm⟩

/-- Contexts that were entered one after another, the innermost first: each of them has a file that was no handler
before, and an exclusive one has put aside the handlers that it found. -/
inductive Nests (before : List Handler) : List LogContext → Prop
  | nil : Nests before []
  | cons {context : LogContext} {outer : List LogContext} (houter : Nests before outer)
      (hnew : context.handler ∉ nested before outer)
      (hsuspended : context.exclusive = true → context.suspended = nested before outer) :
      Nests before (context :: outer)

theorem Nests.nodup {before : List Handler} {contexts : List LogContext} (h : Nests before contexts)
    (hbefore : before.Nodup) : (nested before contexts).Nodup := by
  induction h with
  | nil => exact hbefore
  | cons _ hnew _ ih =>
      rw [nested]
      split_ifs
      · exact List.nodup_singleton _
      · exact List.nodup_append.2 ⟨ih, List.nodup_singleton _, by
          rintro a ha b hb rfl
          exact hnew (List.mem_singleton.1 hb ▸ ha)⟩

namespace BatchWork

/-- Enters a log context. -/
def openLog (path : Path) (exclusive : Bool) (level : LogLevel) : BatchWork LogContext := do
  let b ← get
  let (context, router, disk) ← lift (b.router.enter b.session.disk path exclusive level)
  set { b with router := router, session := { b.session with disk := disk } }
  return context

/-- Leaves a log context. -/
def closeLog (context : LogContext) : BatchWork Unit :=
  modify fun b => { b with router := b.router.leave context }

variable {b : Batch} {path : Path} {exclusive : Bool} {level : LogLevel}

/-- The context that is entered next. -/
def contextOf (b : Batch) (path : Path) (exclusive : Bool) (level : LogLevel) : LogContext where
  handler := .file b.router.opened path level
  exclusive := exclusive
  suspended := if exclusive then b.router.handlers else []

/-- A context whose file cannot be opened is not entered, and nothing has changed. -/
theorem runIn_openLog_of_error {fault : Fault}
    (h : b.session.disk.openFile (b.session.disk.absolute path) = .error fault) :
    (openLog path exclusive level).runIn b = (.error fault, b) := by
  unfold openLog Router.enter
  rw [runIn_bind_of_ok (runIn_get b), h]
  rfl

theorem runIn_openLog_of_ok {place : List String}
    (h : b.session.disk.openFile (b.session.disk.absolute path) = .ok place) :
    (openLog path exclusive level).runIn b = (.ok (contextOf b path exclusive level), { b with
      router := { b.router with
        handlers := Router.addHandler (if exclusive then [] else b.router.handlers) (.file b.router.opened path level)
        opened := b.router.opened + 1 }
      session := { b.session with disk := b.session.disk.append place "" } }) := by
  unfold openLog Router.enter
  rw [runIn_bind_of_ok (runIn_get b), h]
  rfl

end BatchWork

/-! ## Moments -/

/-- What code that nests log contexts has come to: the state, the contexts that are open, the innermost first, and the
fault that is raised, if one is. -/
structure Moment where
  batch : Batch
  contexts : List LogContext := []
  raised : Option Fault := none

namespace Moment

def handlers (m : Moment) : List Handler :=
  m.batch.router.handlers

/-- Opens a log file, if it can be opened. -/
def openFile (m : Moment) (path : Path) : Except Fault (List String) :=
  m.batch.session.disk.openFile (m.batch.session.disk.absolute path)

/-- Enters a log context, or raises what keeps it from being entered. -/
def enter (m : Moment) (path : Path) (exclusive : Bool) (level : LogLevel) : Moment :=
  match (BatchWork.openLog path exclusive level).runIn m.batch with
  | (.ok context, batch) => { m with batch, contexts := context :: m.contexts }
  | (.error fault, batch) => { m with batch, raised := some fault }

/-- Leaves the innermost log context.  What is raised stays raised. -/
def leave (m : Moment) : Moment :=
  match m.contexts with
  | [] => m
  | context :: outer =>
    { m with batch := ((BatchWork.closeLog context).runIn m.batch).2, contexts := outer }

end Moment

/-- A state with the handlers of another one, after which log files may have been opened. -/
structure Batch.Keeps (b b' : Batch) : Prop where
  handlers : b'.router.handlers = b.router.handlers
  opened : b.router.opened ≤ b'.router.opened

/-- What code does next: it does something else that leaves the handlers as they were, and returns or raises; it enters
a log context; it leaves the innermost one, on its way out of a body that has returned or raised; it takes care of what
was raised. -/
inductive Next : Moment → Moment → Prop
  | body {m : Moment} (hgoes : m.raised = none) {batch : Batch} (hkeeps : m.batch.Keeps batch)
      (raised : Option Fault) : Next m { m with batch, raised }
  | enter {m : Moment} (hgoes : m.raised = none) (path : Path) (exclusive : Bool) (level : LogLevel) :
      Next m (m.enter path exclusive level)
  | leave {m : Moment} (hopen : m.contexts ≠ []) : Next m m.leave
  | caught (m : Moment) : Next m { m with raised := none }

/-- Code that has gone from one moment to another. -/
def Runs : Moment → Moment → Prop :=
  Relation.ReflTransGen Next

/-- The handlers are those of the first moment, changed as the contexts say that are open. -/
structure Moment.Sound (before : List Handler) (m : Moment) : Prop where
  handlers : m.handlers = nested before m.contexts
  nests : Nests before m.contexts
  distinct : before.Nodup
  opened : ∀ h ∈ before, h.Opened m.batch.router.opened
  files : ∀ context ∈ m.contexts, context.handler.Opened m.batch.router.opened

namespace Moment

variable {before : List Handler} {m m' : Moment} {path : Path} {exclusive : Bool} {level : LogLevel}

theorem enter_of_error {fault : Fault} (h : m.openFile path = .error fault) :
    m.enter path exclusive level = { m with raised := some fault } := by
  unfold enter
  rw [BatchWork.runIn_openLog_of_error h]

theorem contexts_enter {place : List String} (h : m.openFile path = .ok place) :
    (m.enter path exclusive level).contexts = BatchWork.contextOf m.batch path exclusive level :: m.contexts := by
  unfold enter
  rw [BatchWork.runIn_openLog_of_ok h]

theorem opened_enter {place : List String} (h : m.openFile path = .ok place) :
    (m.enter path exclusive level).batch.router.opened = m.batch.router.opened + 1 := by
  unfold enter
  rw [BatchWork.runIn_openLog_of_ok h]

theorem handlers_enter {place : List String} (h : m.openFile path = .ok place) :
    (m.enter path exclusive level).handlers =
      Router.addHandler (if exclusive then [] else m.handlers) (.file m.batch.router.opened path level) := by
  unfold handlers enter
  rw [BatchWork.runIn_openLog_of_ok h]

theorem raised_leave (m : Moment) : m.leave.raised = m.raised := by
  unfold leave
  split <;> rfl

namespace Sound

theorem opened_of_mem (h : m.Sound before) {handler : Handler} (hmem : handler ∈ nested before m.contexts) :
    handler.Opened m.batch.router.opened := by
  rcases mem_of_mem_nested hmem with hbefore | ⟨context, hcontext, rfl⟩
  · exact h.opened handler hbefore
  · exact h.files context hcontext

/-- A log file that is opened next is no handler yet. -/
theorem notMem (h : m.Sound before) : Handler.file m.batch.router.opened path level ∉ nested before m.contexts :=
  fun hmem => absurd (h.opened_of_mem hmem) (Nat.lt_irrefl _)

theorem body (h : m.Sound before) {batch : Batch} (hkeeps : m.batch.Keeps batch) (raised : Option Fault) :
    Sound before { m with batch, raised } where
  handlers := hkeeps.handlers.trans h.handlers
  nests := h.nests
  distinct := h.distinct
  opened handler hhandler := (h.opened handler hhandler).mono hkeeps.opened
  files context hcontext := (h.files context hcontext).mono hkeeps.opened

theorem enter (h : m.Sound before) (path : Path) (exclusive : Bool) (level : LogLevel) :
    (m.enter path exclusive level).Sound before := by
  cases hfile : m.openFile path with
  | error fault =>
      rw [enter_of_error hfile]
      exact ⟨h.handlers, h.nests, h.distinct, h.opened, h.files⟩
  | ok place =>
      -- files are numbered as they are opened, so that the new handler is none of those there are
      have hnew : Handler.file m.batch.router.opened path level ∉ nested before m.contexts := h.notMem
      have hgrown : m.batch.router.opened ≤ (m.enter path exclusive level).batch.router.opened := by
        rw [opened_enter hfile]
        exact Nat.le_succ _
      refine ⟨?_, ?_, h.distinct, fun handler hhandler => (h.opened handler hhandler).mono hgrown, ?_⟩
      · rw [handlers_enter hfile, contexts_enter hfile, nested, h.handlers]
        cases exclusive with
        | true => rfl
        | false => exact Router.addHandler_of_notMem hnew
      · rw [contexts_enter hfile]
        refine .cons h.nests hnew fun hexclusive => ?_
        have htrue : exclusive = true := hexclusive
        subst htrue
        exact h.handlers
      · rw [contexts_enter hfile]
        intro context hcontext
        rcases List.mem_cons.1 hcontext with rfl | hcontext
        · rw [opened_enter hfile]
          exact Nat.lt_succ_self _
        · exact (h.files context hcontext).mono hgrown

/-- Leaving a context brings back the handlers there were without it. -/
theorem handlers_leave (h : m.Sound before) {context : LogContext} {outer : List LogContext}
    (hcontexts : m.contexts = context :: outer) : m.leave.handlers = nested before outer := by
  have hleft : m.leave.handlers = (m.batch.router.leave context).handlers := by
    unfold leave
    rw [hcontexts]
    rfl
  have hnests := h.nests
  have hhandlers : m.batch.router.handlers = nested before (context :: outer) := hcontexts ▸ h.handlers
  rw [hcontexts] at hnests
  cases hnests with
  | cons houter hnew hsuspended =>
      rw [hleft, Router.leave, hhandlers, nested]
      dsimp only
      by_cases hexclusive : context.exclusive = true
      · -- its file is alone, and what was put aside comes back in its old order
        have hback : ([] ++ nested before outer).Nodup := houter.nodup h.distinct
        rw [if_pos hexclusive, if_pos hexclusive, hsuspended hexclusive, List.erase_cons_head,
          Router.foldl_addHandler hback, List.nil_append]
      · -- its file stands last
        rw [if_neg hexclusive, if_neg hexclusive, List.erase_append_right _ hnew, List.erase_cons_head, List.append_nil]

theorem leave (h : m.Sound before) : m.leave.Sound before := by
  cases hcontexts : m.contexts with
  | nil =>
      unfold Moment.leave
      rw [hcontexts]
      exact h
  | cons context outer =>
      have hleft : m.leave.contexts = outer ∧ m.leave.batch.router.opened = m.batch.router.opened := by
        unfold Moment.leave
        rw [hcontexts]
        exact ⟨rfl, rfl⟩
      have hnests := h.nests
      rw [hcontexts] at hnests
      refine ⟨?_, ?_, h.distinct, ?_, ?_⟩
      · rw [h.handlers_leave hcontexts, hleft.1]
      · rw [hleft.1]
        cases hnests with
        | cons houter _ _ => exact houter
      · rw [hleft.2]
        exact h.opened
      · rw [hleft.1, hleft.2]
        intro other hother
        exact h.files other (hcontexts ▸ List.mem_cons_of_mem context hother)

theorem next (h : m.Sound before) (hnext : Next m m') : m'.Sound before := by
  cases hnext with
  | body _ hkeeps raised => exact h.body hkeeps raised
  | enter _ path exclusive level => exact h.enter path exclusive level
  | leave _ => exact h.leave
  | caught => exact ⟨h.handlers, h.nests, h.distinct, h.opened, h.files⟩

theorem runs (h : m.Sound before) (hruns : Runs m m') : m'.Sound before := by
  induction hruns with
  | refl => exact h
  | tail _ hnext ih => exact ih.next hnext

end Sound

end Moment

/-! ## The contexts of a batch -/

namespace Batch.Keeps

variable {b b' b'' : Batch}

theorem refl (b : Batch) : b.Keeps b :=
  ⟨rfl, Nat.le_refl _⟩

theorem trans (h : b.Keeps b') (h' : b'.Keeps b'') : b.Keeps b'' :=
  ⟨h'.handlers.trans h.handlers, h.opened.trans h'.opened⟩

end Batch.Keeps

namespace BatchWork

variable {α : Type} {b : Batch}

/-- Handing on a record changes no handler. -/
theorem keeps_deliver (record : LogRecord) (b : Batch) :
    ∃ b', (deliver record).runIn b = (.ok (), b') ∧ b.Keeps b' := by
  have hconsole := Router.deliver_fst b.time (b.router, b.session.disk) record
  have hhandlers : (Router.deliver b.time (b.router, b.session.disk) record).1.handlers = b.router.handlers := by
    rw [hconsole]
  have hopened : (Router.deliver b.time (b.router, b.session.disk) record).1.opened = b.router.opened := by
    rw [hconsole]
  exact ⟨_, rfl, hhandlers, hopened.ge⟩

theorem keeps_forM_deliver (records : List LogRecord) (b : Batch) :
    ∃ b', (records.forM deliver).runIn b = (.ok (), b') ∧ b.Keeps b' := by
  induction records generalizing b with
  | nil => exact ⟨b, rfl, .refl b⟩
  | cons record rest ih =>
      rcases keeps_deliver record b with ⟨b₁, hfirst, hone⟩
      rcases ih b₁ with ⟨b', hrest, hall⟩
      exact ⟨b', (runIn_bind_of_ok hfirst).trans hrest, hone.trans hall⟩

/-- A step of the session changes no handler, nor does handing on what it reports. -/
theorem keeps_attempt (step : Work Float α) (b : Batch) :
    ∃ outcome b', (attempt step).runIn b = (.ok outcome, b') ∧ b.Keeps b' := by
  rcases hstep : step.runIn b.session with ⟨outcome, session⟩
  rcases keeps_forM_deliver (session.journal.toList.drop b.session.journal.size) { b with session := session } with
    ⟨b', hrun, hkeeps⟩
  refine ⟨outcome, b', ?_, hkeeps.handlers, hkeeps.opened⟩
  unfold attempt
  rw [runIn_bind_of_ok (runIn_get b), hstep]
  dsimp only
  rw [runIn_bind_of_ok (runIn_set b _), runIn_bind_of_ok hrun, runIn_pure]

variable {processor : LevelProcessor Float} {plan : Plan} {file : Path}

/-- Makes the directory of a scene, and answers with it and with the place of its log file. -/
def prepareScene (plan : Plan) (file : Path) : BatchWork (Path × Path) := do
  let directory := (← lift plan.output.directory.asPath).child file.stem
  makeDirectory directory
  return (directory, directory ++ (← lift (pathEnd plan.output.logFile)))

/-- Imports a scene in its context, and answers with what the import of the scene is to return or raise. -/
def importInside (processor : LevelProcessor Float) (plan : Plan) (file directory : Path) :
    BatchWork (Except Fault Bool) := do
  match ← attempt (Work.importScene processor file directory plan.output plan.scene) with
  | .ok _ => return .ok false
  | .error fault =>
    if plan.scene.skipFailed.isSet then
      deliver {
        level := .error, logger := "main"
        message := "Error importing scene: " ++ file.text ++ " - error: " ++ fault.logText }
      return .ok true
    else return .error fault

/-- A scene is imported in a context that is left whatever the import comes to. -/
theorem importOne_eq_nested (processor : LevelProcessor Float) (plan : Plan) (file : Path) :
    importOne processor plan file = (do
      let (directory, logPath) ← prepareScene plan file
      let context ← openLog logPath false .debug
      let outcome ← importInside processor plan file directory
      closeLog context
      lift outcome) := by
  unfold importOne prepareScene openLog importInside closeLog
  simp only [bind_assoc, pure_bind]
  refine bind_congr fun out => bind_congr fun _ => bind_congr fun log => bind_congr fun b => ?_
  refine bind_congr fun entered => bind_congr fun _ => bind_congr fun outcome => ?_
  cases outcome with
  | ok _ => rfl
  | error fault =>
      dsimp only
      split
      · simp only [bind_assoc, pure_bind]
        rfl
      · rfl

theorem keeps_prepareScene (plan : Plan) (file : Path) (b : Batch) :
    ∃ outcome b', (prepareScene plan file).runIn b = (outcome, b') ∧ b.Keeps b' := by
  unfold prepareScene makeDirectory
  cases hout : plan.output.directory.asPath with
  | error fault => exact ⟨.error fault, b, rfl, .refl b⟩
  | ok out =>
      rw [runIn_lift_bind rfl, bind_assoc, runIn_bind_of_ok (runIn_get b)]
      cases hmade : b.session.disk.makeDirectory (out.child file.stem) with
      | error fault => exact ⟨.error fault, b, rfl, .refl b⟩
      | ok made =>
          rw [bind_assoc, runIn_lift_bind rfl, runIn_bind_of_ok (runIn_modify _ b)]
          cases hlog : pathEnd plan.output.logFile with
          | error fault => exact ⟨.error fault, _, rfl, rfl, Nat.le_refl _⟩
          | ok log => exact ⟨.ok (out.child file.stem, out.child file.stem ++ log), _, rfl, rfl, Nat.le_refl _⟩

theorem keeps_importInside (processor : LevelProcessor Float) (plan : Plan) (file directory : Path) (b : Batch) :
    ∃ answer b', (importInside processor plan file directory).runIn b = (.ok answer, b') ∧ b.Keeps b' := by
  unfold importInside
  rcases keeps_attempt (Work.importScene processor file directory plan.output plan.scene) b with
    ⟨outcome, b₁, hattempt, hkeeps⟩
  rw [runIn_bind_of_ok hattempt]
  cases outcome with
  | ok _ => exact ⟨.ok false, b₁, rfl, hkeeps⟩
  | error fault =>
      dsimp only
      split
      · rcases keeps_deliver { level := .error, logger := "main", message := "Error importing scene: " ++ file.text ++
          " - error: " ++ fault.logText } b₁ with ⟨b', hdeliver, hreported⟩
        exact ⟨.ok true, b', by rw [runIn_bind_of_ok hdeliver, runIn_pure], hkeeps.trans hreported⟩
      · exact ⟨.error fault, b₁, rfl, hkeeps⟩

/-- The import of one scene enters at most one context, and has left it in the end, whether it returns or raises. -/
theorem runs_importOne (processor : LevelProcessor Float) (plan : Plan) (file : Path) {m : Moment}
    (hgoes : m.raised = none) :
    ∃ raised, Runs m { m with batch := ((importOne processor plan file).runIn m.batch).2, raised } := by
  rw [importOne_eq_nested, runIn_bind]
  rcases keeps_prepareScene plan file m.batch with ⟨outcome, b₁, hprepare, hkeeps⟩
  rw [hprepare]
  cases outcome with
  | error fault => exact ⟨some fault, .single (.body hgoes hkeeps (some fault))⟩
  | ok places =>
      have hfirst : Runs m { m with batch := b₁, raised := none } := .single (.body hgoes hkeeps none)
      have henter := hfirst.tail (Next.enter rfl places.2 false .debug)
      unfold Moment.enter at henter
      dsimp only at henter ⊢
      rw [runIn_bind]
      rcases hopen : (openLog places.2 false .debug).runIn b₁ with ⟨fault | context, b₂⟩
      · rw [hopen] at henter
        exact ⟨some fault, henter⟩
      · rw [hopen] at henter
        dsimp only at henter ⊢
        rcases keeps_importInside processor plan file places.1 b₂ with ⟨answer, b₃, hinside, hkept⟩
        rw [runIn_bind_of_ok hinside]
        -- what the import of the scene raises is on its way out when the context is left
        have hleft : ∀ raised, Runs m { m with batch := ((closeLog context).runIn b₃).2, raised } := fun raised =>
          (henter.tail (Next.body rfl hkept raised)).tail (Next.leave (List.cons_ne_nil _ _))
        cases answer with
        | ok failed => exact ⟨none, hleft none⟩
        | error fault => exact ⟨some fault, hleft (some fault)⟩

/-- The import of one scene leaves the handlers as it found them. -/
theorem keeps_importOne (processor : LevelProcessor Float) (plan : Plan) (file : Path) {b : Batch}
    (hdistinct : b.router.handlers.Nodup) (hopened : ∀ h ∈ b.router.handlers, h.Opened b.router.opened) :
    ((importOne processor plan file).runIn b).2.router.handlers = b.router.handlers ∧
    ∀ h ∈ b.router.handlers, h.Opened ((importOne processor plan file).runIn b).2.router.opened := by
  have hsound : Moment.Sound b.router.handlers { batch := b } :=
    ⟨rfl, .nil, hdistinct, hopened, fun context hcontext => nomatch hcontext⟩
  rcases runs_importOne processor plan file (m := { batch := b }) rfl with ⟨raised, hruns⟩
  have hlast := hsound.runs hruns
  exact ⟨hlast.handlers, hlast.opened⟩

/-- So does the import of any number of scenes, wherever it ends. -/
theorem handlers_importAll (processor : LevelProcessor Float) (plan : Plan) (total number : Nat) (files : List Path)
    {b : Batch} (hdistinct : b.router.handlers.Nodup)
    (hopened : ∀ h ∈ b.router.handlers, h.Opened b.router.opened) :
    ((importAll processor plan total number files).runIn b).2.router.handlers = b.router.handlers := by
  induction files generalizing number b with
  | nil => rfl
  | cons file rest ih =>
      have hone := keeps_importOne processor plan file (b := b.printed [heading total number file]) hdistinct hopened
      unfold importAll
      rw [runIn_bind_of_ok (runIn_printLine _ b), runIn_bind]
      unfold heading at hone
      -- an import that raises ends the batch, and has left the handlers as they were
      rcases hrun : (importOne processor plan file).runIn (b.printed _) with ⟨fault | failed, b₁⟩
      · rw [hrun] at hone
        exact hone.1
      · rw [hrun] at hone
        dsimp only at hone ⊢
        rw [show b.router.handlers = b₁.router.handlers from hone.1.symm]
        have hrest := ih (number + 1) (b := b₁) (by rw [hone.1]; exact hdistinct) (by rw [hone.1]; exact hone.2)
        rw [runIn_bind]
        rcases hall : (importAll processor plan total (number + 1) rest).runIn b₁ with ⟨fault | others, b₂⟩
        · rw [hall] at hrest
          exact hrest
        · rw [hall] at hrest
          exact hrest

end BatchWork

/-! ## Handlers come back -/

/-- Wherever code that nests log contexts has come to: a context whose file cannot be opened is not entered, and nothing
but what is raised has changed.  Otherwise its file is a new handler, which stands behind the handlers there are, or
alone if the context is exclusive, at every moment at which the context is the innermost one; and however its body has
ended, leaving it brings back the handlers it was entered with.  A batch that is run there leaves the handlers as it
found them. -/
theorem handlers_restored {start m : Moment} (hstart : start.contexts = []) (hdistinct : start.handlers.Nodup)
    (hopened : ∀ h ∈ start.handlers, h.Opened start.batch.router.opened) (hruns : Runs start m) :
    (∀ path exclusive level fault, m.openFile path = .error fault →
      m.enter path exclusive level = { m with raised := some fault }) ∧
    (∀ path exclusive level place, m.openFile path = .ok place →
      ∃ context, (m.enter path exclusive level).contexts = context :: m.contexts ∧
        context.handler = .file m.batch.router.opened path level ∧ context.handler ∉ m.handlers ∧
        ∀ inside, Runs (m.enter path exclusive level) inside → inside.contexts = context :: m.contexts →
          inside.handlers = (if exclusive then [context.handler] else m.handlers ++ [context.handler]) ∧
          inside.leave.handlers = m.handlers ∧ inside.leave.contexts = m.contexts ∧
          inside.leave.raised = inside.raised) ∧
    ∀ processor plan total number files,
      ((BatchWork.importAll processor plan total number files).runIn m.batch).2.router.handlers = m.handlers := by
  have hfirst : start.Sound start.handlers := by
    refine ⟨?_, ?_, hdistinct, hopened, ?_⟩
    · rw [hstart]
      rfl
    · rw [hstart]
      exact .nil
    · rw [hstart]
      exact fun context hcontext => nomatch hcontext
  have hsound := hfirst.runs hruns
  refine ⟨fun path exclusive level fault hfile => Moment.enter_of_error hfile, ?_, ?_⟩
  · intro path exclusive level place hfile
    refine ⟨_, Moment.contexts_enter hfile, rfl, ?_, fun inside hinside hcontexts => ?_⟩
    · rw [hsound.handlers]
      exact hsound.notMem
    · have hthere := (hsound.enter path exclusive level).runs hinside
      refine ⟨?_, ?_, ?_, inside.raised_leave⟩
      · rw [hthere.handlers, hcontexts, nested, hsound.handlers]
        rfl
      · rw [hthere.handlers_leave hcontexts, hsound.handlers]
      · unfold Moment.leave
        rw [hcontexts]
  · intro processor plan total number files
    have hnested : m.batch.router.handlers = nested start.handlers m.contexts := hsound.handlers
    refine BatchWork.handlers_importAll processor plan total number files ?_ ?_
    · rw [hnested]
      exact hsound.nests.nodup hdistinct
    · rw [hnested]
      exact fun handler hhandler => hsound.opened_of_mem hhandler

/-- Code that logs to the console and to the file of the day. -/
def quayStart : Moment where
  batch := {
    session := { disk := { home := { anchor := .root false, parts := ["home"] } } }
    router := { handlers := [.console, .file 0 { parts := ["day.log"] } .info], opened := 1 }
    time := "" }

/-- The same code in the context of a ship. -/
def quayShip : Moment :=
  quayStart.enter { parts := ["ship.log"] } false .debug

/-- Within the context of the ship there is one of its cargo, which keeps all records to itself; something is raised
there, and the handlers are those of the ship again. -/
theorem handlers_restored_quay :
    quayStart.handlers.Nodup ∧ (∀ h ∈ quayStart.handlers, h.Opened 1) ∧ Runs quayStart quayShip ∧
      quayShip.handlers = quayStart.handlers ++ [.file 1 { parts := ["ship.log"] } .debug] ∧
      (∃ fault, quayShip.enter { parts := ["hold", "cargo.log"] } true .info =
        { quayShip with raised := some fault }) ∧
      ∃ inside, Runs (quayShip.enter { parts := ["cargo.log"] } true .info) inside ∧ inside.raised = some .malformed ∧
        inside.handlers = [.file 2 { parts := ["cargo.log"] } .info] ∧ inside.leave.handlers = quayShip.handlers := by
  have hdistinct : quayStart.handlers.Nodup := by decide
  have hopened : ∀ h ∈ quayStart.handlers, h.Opened 1 := by
    simp [quayStart, Moment.handlers, Handler.Opened]
  have hship : Runs quayStart quayShip := .single (.enter rfl _ false .debug)
  have hfile : quayShip.openFile { parts := ["cargo.log"] } = .ok ["home", "cargo.log"] := by rfl
  have hmissing : quayShip.openFile { parts := ["hold", "cargo.log"] } =
      .error (.noSuchFile "/home/hold/cargo.log") := by rfl
  obtain ⟨hrefused, hentered, -⟩ := handlers_restored rfl hdistinct hopened hship
  rcases hentered _ true .info _ hfile with ⟨context, hcontexts, hcontext, -, hinside⟩
  -- the body of the inner context raises
  let inside : Moment := { quayShip.enter { parts := ["cargo.log"] } true .info with raised := some .malformed }
  have hruns : Runs (quayShip.enter { parts := ["cargo.log"] } true .info) inside := .single (.body rfl (.refl _) _)
  obtain ⟨halone, hleft, -, -⟩ := hinside inside hruns hcontexts
  refine ⟨hdistinct, hopened, hship, by rfl, ⟨_, hrefused _ true .info _ hmissing⟩, inside, hruns, rfl, ?_, hleft⟩
  rw [halone, hcontext]
  rfl

end LevelPrep
