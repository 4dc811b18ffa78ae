import LevelPrep.Proofs.Batch.Running

/-!
# Log files of a batch

While a scene is attempted, its log file is one of the handlers.  Handing on what is reported touches nothing but
this file, which stays open (`handed_deliver`).  So an attempt of a scene leaves what its import leaves, but for the
log file (`attempted_of_attemptScene`).
-/

namespace LevelPrep

/-! ## Records -/

open Disk

/-- What handing on records does: nothing but a log file has changed, and the log file is still open. -/
structure Handed (p : Path) (place : List String) (state state' : Router × Disk) : Prop where
  handlers : state'.1.handlers = state.1.handlers
  logs : state'.2.LogsTo p place
  agree : Agree (· == place) state.2 state'.2
  lasts : Lasts state.2 state'.2

namespace Handed

variable {p : Path} {place : List String} {state state' state'' : Router × Disk}

theorem refl (h : state.2.LogsTo p place) : Handed p place state state :=
  ⟨rfl, h, .refl _ _, .refl _⟩

theorem trans (h : Handed p place state state') (h' : Handed p place state' state'') :
    Handed p place state state'' :=
  ⟨h'.handlers.trans h.handlers, h'.logs, h.agree.trans h'.agree, h.lasts.trans h'.lasts⟩

end Handed

/-- The console, or the log file of the given path. -/
def Handler.Serves (p : Path) (h : Handler) : Prop :=
  h = .console ∨ ∃ number level, h = .file number p level

variable {p : Path} {place : List String} {state : Router × Disk}

theorem handed_handle {handler : Handler} (hserves : handler.Serves p) (h : state.2.LogsTo p place) (time : String)
    (record : LogRecord) : Handed p place state (Router.handle time record state handler) := by
  rcases hserves with rfl | ⟨number, level, rfl⟩
  · exact ⟨rfl, h, .refl _ _, .refl _⟩
  · unfold Router.handle
    dsimp only
    split_ifs
    · rw [h.opened]
      exact ⟨rfl, logsTo_append h.opened _, agree_append (by simp) _ _, lasts_append (of_openFile h.opened).2 _⟩
    · exact .refl h

theorem handed_deliver (hserves : ∀ handler ∈ state.1.handlers, handler.Serves p) (h : state.2.LogsTo p place)
    (time : String) (record : LogRecord) : Handed p place state (Router.deliver time state record) := by
  have hall : ∀ (handlers : List Handler) (state : Router × Disk), (∀ handler ∈ handlers, handler.Serves p) →
      state.2.LogsTo p place → Handed p place state (handlers.foldl (Router.handle time record) state) := by
    intro handlers
    induction handlers with
    | nil => exact fun _ _ h => .refl h
    | cons handler rest ih =>
        intro state hserves h
        rw [List.forall_mem_cons] at hserves
        have hfirst := handed_handle hserves.1 h time record
        exact hfirst.trans (ih _ hserves.2 hfirst.logs)
  unfold Router.deliver
  split_ifs
  · exact hall _ _ hserves h
  · exact .refl h

/-- The state of a batch after records were handed on. -/
structure HandedOn (p : Path) (place : List String) (b b' : Batch) : Prop where
  session : b'.session = { b.session with disk := b'.session.disk }
  output : b'.output = b.output
  handed : Handed p place (b.router, b.session.disk) (b'.router, b'.session.disk)

/-- The state of a batch in which a scene is imported: its directory was made, and its log file is open. -/
def Batch.entered (b : Batch) (made : Disk) (p : Path) (place : List String) : Batch :=
  { b with
    router := { b.router with
      handlers := [.console, .file b.router.opened p .debug], opened := b.router.opened + 1 }
    session := { b.session with disk := made.append place "" } }

namespace BatchWork

variable {b b' b'' : Batch}

theorem handedOn_trans (h : HandedOn p place b b') (h' : HandedOn p place b' b'') : HandedOn p place b b'' := by
  refine ⟨?_, h'.output.trans h.output, h.handed.trans h'.handed⟩
  rw [h'.session, h.session]

theorem handedOn_deliver (hserves : ∀ handler ∈ b.router.handlers, handler.Serves p)
    (h : b.session.disk.LogsTo p place) (record : LogRecord) :
    ∃ b', (deliver record).runIn b = (.ok (), b') ∧ HandedOn p place b b' :=
  ⟨_, rfl, rfl, rfl, handed_deliver hserves h b.time record⟩

theorem handedOn_forM_deliver (hserves : ∀ handler ∈ b.router.handlers, handler.Serves p)
    (h : b.session.disk.LogsTo p place) (records : List LogRecord) :
    ∃ b', (records.forM deliver).runIn b = (.ok (), b') ∧ HandedOn p place b b' := by
  induction records generalizing b with
  | nil => exact ⟨b, rfl, rfl, rfl, .refl h⟩
  | cons record rest ih =>
      rcases handedOn_deliver hserves h record with ⟨b₁, hfirst, hone⟩
      have hserves₁ : ∀ handler ∈ b₁.router.handlers, handler.Serves p := by
        rw [hone.handed.handlers]
        exact hserves
      rcases ih hserves₁ hone.handed.logs with ⟨b', hrest, hall⟩
      exact ⟨b', (runIn_bind_of_ok hfirst).trans hrest, handedOn_trans hone hall⟩

/-! ## Attempts -/

variable {i : Importer} {file out log : Path} {made : Disk}

/-- What an attempt of a scene leaves of a batch: what its import leaves, but for its log file. -/
structure Attempted (i : Importer) (file directory : Path) (place : List String) (made : Disk) (b b' : Batch) :
    Prop where
  inOrder : b'.session.InOrder
  handlers : b'.router.handlers = [.console]
  output : b'.output = b.output
  agree : Agree (· == place) (i.result file directory (made.append place "")).2 b'.session.disk
  lasts : Lasts (i.result file directory (made.append place "")).2 b'.session.disk

theorem serves_entered (b : Batch) (made : Disk) (p : Path) (place : List String) :
    ∀ handler ∈ (b.entered made p place).router.handlers, handler.Serves p := by
  intro handler hhandler
  rcases List.mem_cons.1 hhandler with rfl | hlast
  · exact Or.inl rfl
  · exact Or.inr ⟨_, _, List.mem_singleton.1 hlast⟩

/-- A step of the session is attempted, and what it reports is handed on. -/
theorem handedOn_attempt {α : Type} {step : Work Float α} {outcome : Except Fault α} {session : Session Float}
    (hstep : step.runIn b.session = (outcome, session)) (hserves : ∀ handler ∈ b.router.handlers, handler.Serves p)
    (hlogs : session.disk.LogsTo p place) :
    ∃ b', (attempt step).runIn b = (.ok outcome, b') ∧ HandedOn p place { b with session := session } b' := by
  rcases handedOn_forM_deliver (b := { b with session := session }) hserves hlogs
    (session.journal.toList.drop b.session.journal.size) with ⟨b', hrun, hhanded⟩
  refine ⟨b', ?_, hhanded⟩
  unfold attempt
  rw [runIn_bind_of_ok (runIn_get b), hstep]
  dsimp only
  rw [runIn_bind_of_ok (runIn_set b _), runIn_bind_of_ok hrun, runIn_pure]

/-- An attempt whose directory can be made and whose log file can be opened goes on with the import. -/
theorem runIn_attemptScene {plan : Plan} {processor : LevelProcessor Float} {directory : Path}
    (hhandlers : b.router.handlers = [.console]) (hout : plan.output.directory.asPath = .ok out)
    (hdirectory : out.child file.stem = directory) (hlog : pathEnd plan.output.logFile = .ok log)
    (hmade : b.session.disk.makeDirectory directory = .ok made)
    (hopen : made.openFile (made.absolute (directory ++ log)) = .ok place) :
    (attemptScene processor plan file).runIn b =
      (attempt (Work.importScene processor file directory plan.output plan.scene) >>= fun outcome => do
        if let .error fault := outcome then
          deliver {
            level := .error, logger := "main"
            message := "Error importing scene: " ++ file.text ++ " - error: " ++ fault.logText }
        modify fun s => { s with router := s.router.leave {
          handler := .file b.router.opened (directory ++ log) .debug, exclusive := false } }
        return outcome).runIn (b.entered made (directory ++ log) place) := by
  unfold attemptScene makeDirectory
  rw [runIn_lift_bind hout, hdirectory]
  have hdisk : (do
      let disk ← lift ((← get).session.disk.makeDirectory directory)
      modify fun b => { b with session := { b.session with disk := disk } } : BatchWork PUnit).runIn b =
        (.ok ⟨⟩, { b with session := { b.session with disk := made } }) := by
    rw [runIn_bind_of_ok (runIn_get b), runIn_lift_bind hmade, runIn_modify]
  -- nothing but the console is there, so the file becomes the second handler
  have henter : Router.enter b.router made (directory ++ log) false .debug =
      .ok ({ handler := .file b.router.opened (directory ++ log) .debug, exclusive := false },
        { b.router with
          handlers := [.console, .file b.router.opened (directory ++ log) .debug]
          opened := b.router.opened + 1 }, made.append place "") := by
    unfold Router.enter
    rw [hopen, hhandlers]
    rfl
  rw [runIn_bind_of_ok hdisk, runIn_lift_bind hlog, runIn_bind_of_ok (runIn_get _), runIn_lift_bind henter]
  dsimp only
  rw [runIn_bind_of_ok (runIn_set _ _)]
  rfl

/-- A scene whose directory can be made and whose log file can be opened is attempted. -/
theorem attempted_of_attemptScene (hi : i.Sound) (hb : b.session.InOrder) (hhandlers : b.router.handlers = [.console])
    (hout : i.plan.output.directory.asPath = .ok out) (hlog : pathEnd i.plan.output.logFile = .ok log)
    (hmade : b.session.disk.makeDirectory (out.child file.stem) = .ok made)
    (hopen : made.openFile (made.absolute (out.child file.stem ++ log)) = .ok place) :
    ∃ outcome b', (attemptScene i.processor i.plan file).runIn b = (.ok outcome, b') ∧
      (i.result file (out.child file.stem) (made.append place "")).1 = outcome.toOption.isSome ∧
      Attempted i file (out.child file.stem) place made b b' := by
  rw [runIn_attemptScene hhandlers hout rfl hlog hmade hopen]
  generalize out.child file.stem = directory at hmade hopen ⊢
  have hserves := serves_entered b made (directory ++ log) place
  have hentered : (b.entered made (directory ++ log) place).session.InOrder := hb.of_stage rfl
  rcases himport : (Work.importScene i.processor file directory i.plan.output i.plan.scene).runIn
    (b.entered made (directory ++ log) place).session with ⟨outcome, session⟩
  rcases result_of_importScene hi hentered himport with ⟨hinOrder, hresult⟩
  -- an import takes nothing away, so the log file is still open after it
  have hlogs : session.disk.LogsTo (directory ++ log) place := by
    have hlasts := i.lasts_result file directory (b.entered made (directory ++ log) place).session.disk
    rw [hresult] at hlasts
    exact (logsTo_append hopen "").of_lasts hlasts
  rcases handedOn_attempt himport hserves hlogs with ⟨b₁, hattempt, hhanded⟩
  rw [runIn_bind_of_ok hattempt]
  have hanswer : (i.result file directory (made.append place "")).1 = outcome.toOption.isSome :=
    congrArg Prod.fst hresult
  have hdisk : (i.result file directory (made.append place "")).2 = session.disk := congrArg Prod.snd hresult
  -- whatever was handed on in the end, the log file is given up, and nothing else has changed
  have hdone : ∀ {b₂}, HandedOn (directory ++ log) place
      { b.entered made (directory ++ log) place with session := session } b₂ →
      Attempted i file directory place made b { b₂ with router := b₂.router.leave {
        handler := .file b.router.opened (directory ++ log) .debug, exclusive := false } } := by
    intro b₂ h₂
    refine ⟨?_, ?_, h₂.output, ?_, ?_⟩
    · rw [show ({ b₂ with router := b₂.router.leave _ } : Batch).session = b₂.session from rfl, h₂.session]
      exact hinOrder.of_stage rfl
    · show b₂.router.handlers.erase _ = _
      rw [h₂.handed.handlers]
      simp [Batch.entered]
    · rw [hdisk]
      exact h₂.handed.agree
    · rw [hdisk]
      exact h₂.handed.lasts
  cases outcome with
  | ok done => exact ⟨.ok done, _, rfl, hanswer, hdone hhanded⟩
  | error fault =>
      have hserves₁ : ∀ handler ∈ b₁.router.handlers, handler.Serves (directory ++ log) := by
        rw [hhanded.handed.handlers]
        exact hserves
      rcases handedOn_deliver hserves₁ hhanded.handed.logs {
          level := .error, logger := "main"
          message := "Error importing scene: " ++ file.text ++ " - error: " ++ fault.logText } with
        ⟨b₂, hdeliver, hreported⟩
      refine ⟨.error fault, _, ?_, hanswer, hdone (handedOn_trans hhanded hreported)⟩
      dsimp only
      rw [runIn_bind_of_ok hdeliver]
      rfl

end BatchWork

end LevelPrep
