import LevelPrep.Proofs.Batch.Isolation
import LevelPrep.Proofs.Pass.Order

/-!
# Batches that return

Whatever a plan says about scenes that fail, a batch that returned normally has attempted its scenes one after
another (`Started.exists_ran`).  Each attempt has made the directory of its scene and opened its log file, so that
the scene was visited (`visited_of_attemptScene`).
-/

namespace LevelPrep

open Disk

namespace BatchWork

variable {α β : Type} {b b' : Batch} {processor : LevelProcessor Float} {plan : Plan} {total number : Nat}
  {file : Path} {files : List Path}

/-! ## Steps that succeeded -/

theorem exists_of_runIn_bind {step : BatchWork α} {next : α → BatchWork β} {c : β}
    (h : (step >>= next).runIn b = (.ok c, b')) : ∃ a b₁, step.runIn b = (.ok a, b₁) ∧
      (next a).runIn b₁ = (.ok c, b') := by
  rw [runIn_bind] at h
  rcases hstep : step.runIn b with ⟨fault | a, b₁⟩
  · rw [hstep] at h
    cases h
  · rw [hstep] at h
    exact ⟨a, b₁, rfl, h⟩

theorem exists_of_runIn_lift_bind {outcome : Except Fault α} {next : α → BatchWork β} {c : β}
    (h : (lift outcome >>= next).runIn b = (.ok c, b')) : ∃ a, outcome = .ok a ∧
      (next a).runIn b = (.ok c, b') := by
  cases outcome with
  | error fault => cases h
  | ok a => exact ⟨a, rfl, h⟩

/-- An import that returned has attempted its scene. -/
theorem exists_attemptScene {failed : Bool} (h : (importOne processor plan file).runIn b = (.ok failed, b')) :
    ∃ outcome, (attemptScene processor plan file).runIn b = (.ok outcome, b') ∧
      failed = outcome.toOption.isNone := by
  -- the import is taken apart step by step, and the attempt takes the same steps
  unfold importOne at h
  rcases exists_of_runIn_lift_bind h with ⟨out, hout, h⟩
  rcases exists_of_runIn_bind h with ⟨⟨⟩, b₁, hmake, h⟩
  rcases exists_of_runIn_lift_bind h with ⟨log, hlog, h⟩
  rcases exists_of_runIn_bind h with ⟨_, _, hget, h⟩
  cases hget
  rcases exists_of_runIn_lift_bind h with ⟨entered, henter, h⟩
  rcases exists_of_runIn_bind h with ⟨⟨⟩, b₂, hset, h⟩
  rcases exists_of_runIn_bind h with ⟨outcome, b₃, hattempt, h⟩
  refine ⟨outcome, ?_⟩
  unfold attemptScene
  rw [runIn_lift_bind hout, runIn_bind_of_ok hmake, runIn_lift_bind hlog, runIn_bind_of_ok (runIn_get b₁),
    runIn_lift_bind henter, runIn_bind_of_ok hset, runIn_bind_of_ok hattempt]
  cases outcome with
  | ok done =>
      cases h
      exact ⟨rfl, rfl⟩
  | error fault =>
      dsimp only at h ⊢
      split at h
      · cases h
        exact ⟨rfl, rfl⟩
      · cases h

theorem exists_attempts_of_importAll {failed : List Path}
    (h : (importAll processor plan total number files).runIn b = (.ok failed, b')) :
    ∃ attempts, Attempts processor plan total number files attempts b b' ∧ failed = raised files attempts := by
  induction files generalizing number b failed with
  | nil =>
      cases h
      exact ⟨[], .nil, rfl⟩
  | cons file rest ih =>
      unfold importAll at h
      rw [runIn_bind_of_ok (runIn_printLine _ b)] at h
      rcases exists_of_runIn_bind h with ⟨first, b₁, hone, h⟩
      rcases exists_of_runIn_bind h with ⟨others, b₂, hall, hlast⟩
      cases hlast
      rcases exists_attemptScene hone with ⟨outcome, hattempt, rfl⟩
      rcases ih hall with ⟨attempts, hattempts, rfl⟩
      refine ⟨_ :: attempts, .cons hattempt hattempts, ?_⟩
      unfold raised
      cases outcome <;> rfl

end BatchWork

open BatchWork

/-! ## Batches -/

/-- A batch that starts in a session in order, with a valid configuration and tools that do no more than they
should. -/
structure Started (tools : Tools Float) (config : Config) (start : Batch) (i : Importer) (files : List Path) : Prop
    where
  plan : Plan.ofConfig config = .ok i.plan
  processor : LevelProcessor.ofSettings i.plan.settings tools = .ok i.processor
  scenes : i.plan.input.sceneFiles start.session.disk = .ok files
  adds : tools.OnlyAdds
  unwraps : .lightmap ∈ i.processor.passes → Lightmap.Computes tools.unwrap i.bake
  inOrder : start.session.InOrder
  console : start.router.handlers = [.console]

namespace Started

variable {tools : Tools Float} {config : Config} {start finish : Batch} {i : Importer} {files : List Path}

theorem tools_eq (h : Started tools config start i files) : i.processor.tools = tools :=
  (LevelProcessor.made_of_ofSettings h.processor).tools_eq

theorem sound (h : Started tools config start i files) : i.Sound :=
  ⟨h.tools_eq ▸ h.adds, h.tools_eq ▸ h.unwraps⟩

/-- A batch that returned has attempted its scenes one after another. -/
theorem exists_ran (h : Started tools config start i files)
    (hrun : (run tools config).runIn start = (.ok (), finish)) :
    ∃ attempts, Ran tools config i.processor i.plan files attempts start finish := by
  have hall := hrun
  rw [runIn_run h.plan h.processor h.scenes] at hall
  rcases exists_of_runIn_bind hall with ⟨failed, last, himport, hreport⟩
  rw [runIn_reportScenes] at hreport
  cases hreport
  rcases exists_attempts_of_importAll himport with ⟨attempts, hattempts, rfl⟩
  exact ⟨attempts, hrun, last, hattempts, rfl⟩

end Started

/-- A batch that nothing has happened in. -/
def Batch.new (disk : Disk) : Batch where
  session := { disk }
  time := ""

/-- The importer of a configuration with the standard tools. -/
def Importer.standard? (config : Config) : Option Importer := do
  let plan ← (Plan.ofConfig config).toOption
  let processor ← (LevelProcessor.ofSettings plan.settings Tools.standard).toOption
  return {
    processor, plan
    bake := fun mesh transform texel => Lightmap.packed Lightmap.gridPacker {} mesh transform (.float texel) }

/-- With the standard tools, a batch can be started wherever its configuration is valid. -/
theorem started_of_standard? {config : Config} {i : Importer} {disk : Disk} {files : List Path}
    (h : Importer.standard? config = some i) (hscenes : i.plan.input.sceneFiles disk = .ok files) :
    Started Tools.standard config (.new disk) i files := by
  rcases Option.bind_eq_some_iff.1 h with ⟨plan, hplan, hrest⟩
  rcases Option.bind_eq_some_iff.1 hrest with ⟨processor, hprocessor, hlast⟩
  cases hlast
  rw [toOption_eq_some_iff] at hplan hprocessor
  exact {
    plan := hplan, processor := hprocessor, scenes := hscenes
    adds := fun mesh transform texel r => Lightmap.extends_unwrap _ _ mesh transform _ r
    unwraps := fun _ => Lightmap.computes_unwrap _ _
    inOrder := Session.inOrder_new disk, console := rfl }

/-! ## Attempts -/

variable {i : Importer} {site : Site} {files : List Path} {file : Path} {b b' : Batch}

/-- An attempt that returned has visited its scene. -/
theorem visited_of_attemptScene (h : Named i site files) (hfile : file ∈ files) (hi : i.Sound)
    (hb : b.session.InOrder) (hhandlers : b.router.handlers = [.console])
    (hhome : b.session.disk.home = site.disk.home) {outcome : Except Fault Unit}
    (hrun : (attemptScene i.processor i.plan file).runIn b = (.ok outcome, b')) :
    Visited i site file b.session.disk b'.session.disk ∧
      (i.result file (site.directory file) (site.prepared b.session.disk file)).1 = outcome.toOption.isSome ∧
      b'.session.InOrder ∧ b'.router.handlers = [.console] := by
  -- the directory was made, and the log file opened
  have hentered : ∃ made place, b.session.disk.makeDirectory (site.directory file) = .ok made ∧
      made.openFile (made.absolute (site.directory file ++ site.log)) = .ok place := by
    have hsteps := hrun
    unfold attemptScene BatchWork.makeDirectory at hsteps
    rw [runIn_lift_bind h.directory] at hsteps
    rcases exists_of_runIn_bind hsteps with ⟨⟨⟩, b₁, hmake, hsteps⟩
    rw [runIn_bind_of_ok (runIn_get b)] at hmake
    rcases exists_of_runIn_lift_bind hmake with ⟨made, hmade, hmodify⟩
    cases hmodify
    rw [runIn_lift_bind h.logFile, runIn_bind_of_ok (runIn_get _)] at hsteps
    rcases exists_of_runIn_lift_bind hsteps with ⟨entered, henter, -⟩
    rcases bind_eq_ok_iff.1 henter with ⟨place, hplace, -⟩
    exact ⟨made, place, hmade, hplace⟩
  rcases hentered with ⟨made, place, hmade, hopen⟩
  rcases makeDirectory_spec hmade with ⟨-, hfounded, hstands⟩
  have htrail : b.session.disk.trail (site.directory file) = site.approach ++ [site.base file] := by
    rw [trail_congr hhome, h.trail_directory hfile]
  rw [htrail] at hfounded
  subst hfounded
  -- and the log file lies where the site says
  have hplace : place = site.logPlace file := by
    have hgrounded : Disk.Grounded (b.session.disk.founded (site.approach ++ [site.base file])) := by
      constructor <;> rw [home_founded, hhome]
      · exact h.grounded.absolute
      · exact h.grounded.plain
    rw [eq_goal_of_openFile hopen, goal_absolute hgrounded, goal_congr ((home_founded _ _).trans hhome)]
    rfl
  subst hplace
  rcases attempted_of_attemptScene hi hb hhandlers h.directory h.logFile hmade hopen with
    ⟨_, _, hagain, houtcome, hattempted⟩
  cases hrun.symm.trans hagain
  refine ⟨⟨hhome, fun l hl => ?_, (of_openFile hopen).2, hattempted.agree, hattempted.lasts⟩, houtcome,
    hattempted.inOrder, hattempted.handlers⟩
  refine hstands l ?_
  rw [trail_congr (home_founded _ _), htrail]
  exact List.mem_append_left _ hl

/-- How a scene was attempted in the course of a batch that went from one disk to another: only other scenes were
attempted before and afterwards. -/
structure Occurs (i : Importer) (site : Site) (files : List Path) (start finish : Disk) (file : Path)
    (attempt : Attempt) (after : Disk) : Prop where
  visited : Visited i site file attempt.before.session.disk after
  outcome : (i.result file (site.directory file) (site.prepared attempt.before.session.disk file)).1 =
    attempt.outcome.toOption.isSome
  earlier : ∃ others, (∀ other ∈ others, other ∈ files ∧ other ≠ file) ∧
    Changes site others start attempt.before.session.disk
  later : ∃ others, (∀ other ∈ others, other ∈ files ∧ other ≠ file) ∧ Changes site others after finish

/-- Attempts one after another change nothing but the places of their scenes. -/
theorem occurs_of_attempts (h : Spaced i site files) (hi : i.Sound) {total number : Nat} {done rest : List Path}
    {attempts : List Attempt} {start : Disk} (hattempts : Attempts i.processor i.plan total number rest attempts b b')
    (hparted : Parted files done rest) (hb : b.session.InOrder) (hhandlers : b.router.handlers = [.console])
    (hhome : start.home = site.disk.home) (hchanges : Changes site done start b.session.disk) :
    List.Forall₂ (fun file attempt => ∃ after, Occurs i site files start b'.session.disk file attempt after)
        rest attempts ∧
      Changes site rest b.session.disk b'.session.disk := by
  induction hattempts generalizing done with
  | nil => exact ⟨.nil, .refl _ _, .refl _⟩
  | @cons number file rest outcome attempts b b₁ b' hattempt _ ih =>
      have hhome' : b.session.disk.home = site.disk.home := hchanges.lasts.home.trans hhome
      rcases visited_of_attemptScene h.toNamed hparted.mem hi (b := b.printed [heading total number file]) hb
        hhandlers hhome' hattempt with ⟨hvisited, houtcome, hb₁, hhandlers₁⟩
      have hone := hvisited.changes h hparted.mem
      rcases ih hparted.step hb₁ hhandlers₁ (hchanges.trans hone) with ⟨hall, hlater⟩
      have hoccurs : Occurs i site files start b'.session.disk file
          { before := b.printed [heading total number file], outcome } b₁.session.disk :=
        ⟨hvisited, houtcome, ⟨done, hparted.earlier, hchanges⟩, ⟨rest, hparted.later, hlater⟩⟩
      exact ⟨.cons ⟨_, hoccurs⟩ hall, hone.trans hlater⟩

/-- In a batch that returned, every scene was attempted between the others. -/
theorem Started.exists_occurs {tools : Tools Float} {config : Config} {start finish : Batch}
    (h : Started tools config start i files) (hspaced : Spaced i site files)
    (hdisk : start.session.disk = site.disk) (hrun : (run tools config).runIn start = (.ok (), finish)) :
    ∃ attempts, Ran tools config i.processor i.plan files attempts start finish ∧
      List.Forall₂ (fun file attempt => ∃ after,
        Occurs i site files site.disk finish.session.disk file attempt after) files attempts := by
  rcases h.exists_ran hrun with ⟨attempts, hran⟩
  rcases hran.course with ⟨last, hattempts, rfl⟩
  have hstart : Changes site [] site.disk (start.printed (announcement files)).session.disk := by
    show Changes site [] site.disk start.session.disk
    rw [hdisk]
    exact ⟨.refl _ _, .refl _⟩
  have hparted : Parted files [] files := .start hspaced.stems.of_map
  exact ⟨attempts, hran,
    (occurs_of_attempts hspaced h.sound hattempts hparted h.inOrder h.console rfl hstart).1⟩

namespace Occurs

variable {start finish after : Disk} {attempt : Attempt} {place : List String}
variable (hoccurs : Occurs i site files start finish file attempt after)
include hoccurs

theorem home_result :
    (i.result file (site.directory file) (site.prepared attempt.before.session.disk file)).2.home = site.disk.home :=
  (i.lasts_result _ _ _).home.trans hoccurs.visited.home_prepared

theorem home_finish : finish.home = site.disk.home := by
  rcases hoccurs.later with ⟨others, -, hlater⟩
  exact hlater.lasts.home.trans (hoccurs.visited.lasts_end.home.trans hoccurs.visited.home_prepared)

variable (h : Named i site files) (hfile : file ∈ files)
include h hfile

/-- A file that an import leaves in the directory of its scene is still there when the batch is done. -/
theorem holds_finish {name : Path} (hname : name.Inward)
    (hlog : site.disk.goal (site.directory file ++ name) ≠ site.logPlace file) {text : String}
    (hholds : (i.result file (site.directory file) (site.prepared attempt.before.session.disk file)).2.Holds
      (site.directory file ++ name) text) : finish.Holds (site.directory file ++ name) text := by
  rcases hoccurs.later with ⟨others, hothers, hlater⟩
  have hafter : after.Holds (site.directory file ++ name) text := by
    refine hholds.of_lasts hoccurs.visited.lasts (hoccurs.visited.agree.entryAt?_eq ?_)
    rw [goal_congr hoccurs.home_result]
    simpa using hlog
  have hgoal : after.goal (site.directory file ++ name) = site.disk.goal (site.directory file ++ name) :=
    goal_congr (hoccurs.visited.lasts_end.home.trans hoccurs.visited.home_prepared) _
  have huntouched := h.touched_eq_false hfile hothers (site.base_prefix_goal file hname) hlog
  rw [← hgoal] at huntouched
  exact hafter.of_lasts hlater.lasts ((hlater.entryAt?_eq huntouched hafter.entry).trans hafter.entry.symm)

/-- Where no file was before a batch, none is when the import of the scene begins. -/
theorem free_prepared (hbase : site.base file <+: place) (hlog : place ≠ site.logPlace file)
    (hfree : start.Free place) : (site.prepared attempt.before.session.disk file).Free place := by
  rcases hoccurs.earlier with ⟨others, hothers, hearlier⟩
  have hbefore := hearlier.free (h.touched_eq_false hfile hothers hbase hlog) hfree
  intro content hentry
  rcases exists_append_eq (attempt.before.session.disk.founded (site.approach ++ [site.base file]))
    (site.logPlace file) "" with ⟨logged, heq⟩
  unfold Site.prepared at hentry
  rw [heq, entryAt?_put_of_ne hlog] at hentry
  exact hbefore.founded _ content hentry

/-- Where an import has left no file, none is when the batch is done. -/
theorem free_finish (hbase : site.base file <+: place) (hlog : place ≠ site.logPlace file)
    (hfree : (i.result file (site.directory file) (site.prepared attempt.before.session.disk file)).2.Free place) :
    finish.Free place := by
  rcases hoccurs.later with ⟨others, hothers, hlater⟩
  refine hlater.free (h.touched_eq_false hfile hothers hbase hlog) fun content hentry => ?_
  rw [hoccurs.visited.agree.entryAt?_eq (by simpa using hlog)] at hentry
  exact hfree content hentry

end Occurs

end LevelPrep
