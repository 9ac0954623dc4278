import Proctor.Proofs.Engine.Life
import Proctor.Proofs.Outcome
import Proctor.Session

/-!
# What comes of an attempt

Whether a test can be dispatched is decided by the *setting* of a session: the profiles,
the files, the configuration, and whether processes can be waited for at all. No attempt
changes the setting, so of some tests that are run one after the other each is decided as
if it were the only one.
-/

namespace Proctor

/-! ## A job that has just been created -/

/-- The world with a job dispatched, whose task is going to begin. -/
def World.dispatched (w : World) (id : Nat) (j : Job) (directory : Path) : World :=
  { w with engine := w.engine.dispatched w.moment id j directory }.plan id
    [(w.clock + w.startDelay, .launch)]

/-- A job that has just been created is dispatched, unless there is no way to wait for its
process or no directory to run it in. -/
theorem World.run_of_created {w : World} {id : Nat} {a : Attempt}
    (found : w.engine.attempts[id]? = some a) (created : a.job.state = .created) :
    w.run id =
      if !w.hasLoop then .error .noLoop
      else
        (WorkingDirectory.resolve w.tree w.registry w.engine.config.directory a.job.test
          a.job.options.directory).map (w.dispatched id a.job) := by
  rw [World.run, Engine.run_of_some w.tree w.registry w.hasLoop found,
    if_neg (not_not.mpr created)]
  by_cases loop : w.hasLoop = false
  · rw [if_pos loop, if_pos (by simpa using loop)]
    rfl
  · rw [if_neg loop, if_neg (by simpa using loop)]
    cases WorkingDirectory.resolve w.tree w.registry w.engine.config.directory a.job.test
        a.job.options.directory with
    | error why => rfl
    | ok directory => rfl

/-- What decides whether a test can be dispatched. -/
structure Session.Setting where
  registry : Registry
  tree : FileTree
  config : Config
  hasLoop : Bool

namespace Session

variable {s s' : Session} {t : TestInfo} {options : RunOptions} {command : List String}
  {directory : Path} {why : Error}

/-- The setting that a session finds itself in. -/
def setting (s : Session) : Setting :=
  ⟨s.registry, s.tree, s.world.engine.config, s.world.hasLoop⟩

/-- All that a dispatch needs: a command, a way to wait for its process, and a directory. -/
def clearance (s : Session) (t : TestInfo) (options : RunOptions) :
    Except Error (List String × Path) :=
  (s.commandFor t options.mode).2 >>= fun command =>
    if !s.world.hasLoop then .error .noLoop
    else
      (WorkingDirectory.resolve s.tree s.registry s.world.engine.config.directory t
        options.directory).map fun directory => (command, directory)

theorem clearance_congr (same : s'.setting = s.setting) :
    s'.clearance t options = s.clearance t options := by
  obtain ⟨registry, tree, config, hasLoop⟩ := Setting.mk.inj same
  simp only [clearance, commandFor, registry, tree, config, hasLoop]

/-! ## A dispatch -/

/-- The session with the job of a command, before it is dispatched. -/
def withCreated (s : Session) (t : TestInfo) (options : RunOptions) (command : List String) :
    Session :=
  let said := s.say (s.commandFor t options.mode).1
  { said with world := (said.world.create command t options).1 }

/-- The session with the job of a command dispatched. -/
def withDispatched (s : Session) (t : TestInfo) (options : RunOptions) (command : List String)
    (directory : Path) : Session :=
  { s with
    world := (s.withCreated t options command).world.dispatched s.world.engine.attempts.length
      { command, test := t, options } directory }

/-- The attempt at a test that has just been dispatched. -/
def firstAttempt (s : Session) (t : TestInfo) (options : RunOptions) (command : List String)
    (directory : Path) : Attempt where
  job := ({ command, test := t, options } : Job).asRunning directory s.world.moment
  task := some .fresh

/-- How far a dispatch can come: there is no command, or the job of the command cannot be
dispatched, or it is. -/
inductive Dispatches (s : Session) (t : TestInfo) (options : RunOptions) :
    Session × Except Error Nat → Prop
  | unbuilt {why : Error} (refused : s.clearance t options = .error why) :
      Dispatches s t options (s.say (s.commandFor t options.mode).1, .error why)
  | refused {command : List String} {why : Error}
      (refused : s.clearance t options = .error why) :
      Dispatches s t options (s.withCreated t options command, .error why)
  | dispatched {command : List String} {directory : Path}
      (cleared : s.clearance t options = .ok (command, directory)) :
      Dispatches s t options
        (s.withDispatched t options command directory, .ok s.world.engine.attempts.length)

theorem dispatch_of_unbuilt (built : (s.commandFor t options.mode).2 = .error why) :
    s.dispatch t options = (s.say (s.commandFor t options.mode).1, .error why) := by
  simp only [dispatch, built]

theorem dispatch_of_ran {world : World}
    (built : (s.commandFor t options.mode).2 = .ok command)
    (ran : (s.withCreated t options command).world.run s.world.engine.attempts.length =
      .ok world) :
    s.dispatch t options = ({ s with world }, .ok s.world.engine.attempts.length) := by
  simp only [withCreated, say, World.create, Engine.create, Engine.say] at ran
  simp only [dispatch, built, say, World.create, Engine.create, Engine.say, ran]

theorem dispatch_of_stuck (built : (s.commandFor t options.mode).2 = .ok command)
    (stuck : (s.withCreated t options command).world.run s.world.engine.attempts.length =
      .error why) :
    s.dispatch t options = (s.withCreated t options command, .error why) := by
  simp only [withCreated, say, World.create, Engine.create, Engine.say] at stuck ⊢
  simp only [dispatch, built, say, World.create, Engine.create, Engine.say, stuck]

theorem dispatches (s : Session) (t : TestInfo) (options : RunOptions) :
    s.Dispatches t options (s.dispatch t options) := by
  have found (command : List String) : (s.withCreated t options command).world.engine.attempts[
      s.world.engine.attempts.length]? = some { job := { command, test := t, options } } := by
    simp [withCreated, say, World.create, Engine.create, Engine.say]
  cases built : (s.commandFor t options.mode).2 with
  | error why =>
    rw [dispatch_of_unbuilt built]
    exact .unbuilt (by rw [clearance, built, Except.error_bind])
  | ok command =>
    let w := (s.withCreated t options command).world
    have cleared : s.clearance t options =
        (if !w.hasLoop then .error .noLoop
          else (WorkingDirectory.resolve w.tree w.registry w.engine.config.directory t
            options.directory).map fun directory => (command, directory)) := by
      rw [clearance, built]
      rfl
    have ran := World.run_of_created (w := w) (found command) rfl
    by_cases looped : w.hasLoop
    · simp only [looped] at ran cleared
      cases place : WorkingDirectory.resolve w.tree w.registry w.engine.config.directory t
          options.directory with
      | error why =>
        rw [place] at ran cleared
        rw [dispatch_of_stuck built ran]
        exact .refused cleared
      | ok directory =>
        rw [place] at ran cleared
        rw [dispatch_of_ran built ran]
        exact .dispatched cleared
    · simp only [looped] at ran cleared
      rw [dispatch_of_stuck built ran]
      exact .refused cleared

/-- A dispatch changes nothing of a session but the engine and the agendas. -/
theorem dispatch_kept (s : Session) (t : TestInfo) (options : RunOptions) :
    (s.dispatch t options).1.setting = s.setting ∧ (s.dispatch t options).1.last = s.last ∧
      (s.dispatch t options).1.selected = s.selected := by
  have dispatches := s.dispatches t options
  generalize s.dispatch t options = r at dispatches
  cases dispatches <;> exact ⟨rfl, rfl, rfl⟩

/-- A test that has all it needs is dispatched: its job is running, behind all jobs there
were. -/
theorem dispatch_of_ok (cleared : s.clearance t options = .ok (command, directory)) :
    (s.dispatch t options).2 = .ok s.world.engine.attempts.length ∧
      (s.dispatch t options).1.world.engine.attempts =
        s.world.engine.attempts ++ [s.firstAttempt t options command directory] := by
  have dispatches := s.dispatches t options
  generalize s.dispatch t options = r at dispatches
  cases dispatches with
  | unbuilt refused => simp [cleared] at refused
  | refused refused => simp [cleared] at refused
  | dispatched cleared' =>
    obtain ⟨rfl, rfl⟩ := Prod.mk.inj (Except.ok.inj (cleared'.symm.trans cleared))
    refine ⟨rfl, ?_⟩
    simp [withDispatched, World.dispatched, World.plan, Engine.dispatched, Engine.say,
      Engine.setAttempt, withCreated, say, World.create, Engine.create, firstAttempt,
      World.moment]

/-- What a test lacks is the answer to its dispatch. A job whose command could be built is
left as it was created. -/
theorem dispatch_of_error (refused : s.clearance t options = .error why) :
    (s.dispatch t options).2 = .error why ∧
      ∃ left : List Attempt, (∀ a ∈ left, a.job.state = .created) ∧
        (s.dispatch t options).1.world.engine.attempts = s.world.engine.attempts ++ left := by
  have dispatches := s.dispatches t options
  generalize s.dispatch t options = r at dispatches
  cases dispatches with
  | unbuilt refused' =>
    obtain rfl := Except.error.inj (refused'.symm.trans refused)
    exact ⟨rfl, [], by simp, by simp [say, Engine.say]⟩
  | @refused command _ refused' =>
    obtain rfl := Except.error.inj (refused'.symm.trans refused)
    exact ⟨rfl, [{ job := { command, test := t, options } }], by simp,
      by simp [withCreated, say, World.create, Engine.create, Engine.say]⟩
  | dispatched cleared => simp [cleared] at refused

/-! ## An attempt -/

/-- Is the error of an attempt reported in the journal and then forgotten? -/
def reports (why : Error) : Bool := why.isConfiguration || why.isBuild || why.isUnfit

/-- What is answered to a test that is run, from the answer to its dispatch. -/
def answerFor : Except Error Nat → Except Error (Option Nat)
  | .ok id => .ok (some id)
  | .error why => if reports why then .ok none else .error why

/-- To run a test is to remember it, to dispatch it, and to report what stood in the way. -/
theorem runTest_eq (s : Session) (t : TestInfo) (options : RunOptions) :
    ∃ records, s.runTest t options =
      ((({ s with last := some t } : Session).dispatch t options).1.say records,
        answerFor (({ s with last := some t } : Session).dispatch t options).2) := by
  unfold runTest
  split
  · rename_i s' id done
    exact ⟨[], by simp [done, answerFor, say, Engine.say]⟩
  · rename_i s' why failed
    rw [failed]
    split
    · rename_i told
      exact ⟨_, by simp [answerFor, reports, told, note]; rfl⟩
    · split
      · rename_i told
        exact ⟨_, by simp [answerFor, reports, told, note]; rfl⟩
      · exact ⟨[], by simp_all [answerFor, reports, say, Engine.say]⟩

/-- An attempt is remembered, whatever comes of it, and leaves the selection as it is. -/
theorem runTest_kept (s : Session) (t : TestInfo) (options : RunOptions) :
    (s.runTest t options).1.setting = s.setting ∧ (s.runTest t options).1.last = some t ∧
      (s.runTest t options).1.selected = s.selected := by
  obtain ⟨records, run⟩ := s.runTest_eq t options
  rw [run]
  exact dispatch_kept { s with last := some t } t options

theorem runTest_of_ok (cleared : s.clearance t options = .ok (command, directory)) :
    (s.runTest t options).2 = .ok (some s.world.engine.attempts.length) ∧
      (s.runTest t options).1.world.engine.attempts =
        s.world.engine.attempts ++ [s.firstAttempt t options command directory] := by
  obtain ⟨records, run⟩ := s.runTest_eq t options
  obtain ⟨answer, attempts⟩ := dispatch_of_ok (s := { s with last := some t }) cleared
  rw [run, answer]
  exact ⟨rfl, attempts⟩

theorem runTest_of_error (refused : s.clearance t options = .error why) :
    (s.runTest t options).2 = (if reports why then .ok none else .error why) ∧
      ∃ left : List Attempt, (∀ a ∈ left, a.job.state = .created) ∧
        (s.runTest t options).1.world.engine.attempts = s.world.engine.attempts ++ left := by
  obtain ⟨records, run⟩ := s.runTest_eq t options
  obtain ⟨answer, left⟩ := dispatch_of_error (s := { s with last := some t }) refused
  rw [run, answer]
  exact ⟨rfl, left⟩

/-- Whether an attempt ends with an error that is not reported is a matter of the setting. -/
theorem isOk_runTest_congr (same : s'.setting = s.setting) :
    (s'.runTest t options).2.isOk = (s.runTest t options).2.isOk := by
  have clearance : s'.clearance t options = s.clearance t options := clearance_congr same
  cases cleared : s.clearance t options with
  | error why =>
    rw [(runTest_of_error cleared).1, (runTest_of_error (clearance.trans cleared)).1]
  | ok needs =>
    rw [(runTest_of_ok cleared).1, (runTest_of_ok (clearance.trans cleared)).1]
    rfl

/-! ## Several attempts -/

/-- The jobs there were stay where they are. -/
theorem runTest_grows (s : Session) (t : TestInfo) (options : RunOptions) :
    s.world.engine.attempts <+: (s.runTest t options).1.world.engine.attempts := by
  cases cleared : s.clearance t options with
  | error why =>
    obtain ⟨-, left, -, grown⟩ := runTest_of_error cleared
    exact ⟨left, grown.symm⟩
  | ok needs =>
    obtain ⟨command, directory⟩ := needs
    exact ⟨_, (runTest_of_ok cleared).2.symm⟩

theorem runEach_grows (options : RunOptions) (tests : List TestInfo) (s : Session) :
    s.world.engine.attempts <+: (runEach options tests s).1.world.engine.attempts := by
  induction tests generalizing s with
  | nil => exact List.prefix_rfl
  | cons t rest ih =>
    have grown := s.runTest_grows t options
    unfold runEach
    split
    · rename_i s' why failed
      rwa [failed] at grown
    · rename_i s' id done
      rw [done] at grown
      exact grown.trans (ih s')

/-- Where all attempts are answered with a job or with none, so is the first, and the others
go on from there. -/
theorem runEach_cons_of_ok {rest : List TestInfo} {ids : List Nat}
    (done : (runEach options (t :: rest) s).2 = .ok ids) :
    ∃ id later, (s.runTest t options).2 = .ok id ∧
      (runEach options rest (s.runTest t options).1).2 = .ok later ∧ ids = id.toList ++ later ∧
      (runEach options (t :: rest) s).1 = (runEach options rest (s.runTest t options).1).1 := by
  rw [runEach] at done ⊢
  cases first : s.runTest t options with
  | mk s' answer =>
    rw [first] at done
    cases answer with
    | error why => cases done
    | ok id =>
      obtain ⟨later, others, same⟩ := Except.map_eq_ok.mp done
      exact ⟨id, later, rfl, others, same.symm, rfl⟩

/-- Of some tests that are run one after the other, each that has all it needs has a job among
those that are given back. -/
theorem exists_job_runEach {tests : List TestInfo} {ids : List Nat}
    (done : (runEach options tests s).2 = .ok ids) (mem : t ∈ tests)
    (cleared : s.clearance t options = .ok (command, directory)) :
    ∃ id ∈ ids, ∃ j, (runEach options tests s).1.world.engine.jobs[id]? = some j ∧
      j.test = t := by
  induction tests generalizing s ids with
  | nil => cases mem
  | cons u rest ih =>
    obtain ⟨id, later, first, others, rfl, same⟩ := runEach_cons_of_ok done
    rw [same]
    obtain rfl | mem := List.mem_cons.mp mem
    · obtain ⟨answer, attempts⟩ := runTest_of_ok cleared
      obtain rfl := Except.ok.inj (answer.symm.trans first)
      obtain ⟨left, grown⟩ := runEach_grows options rest (s.runTest t options).1
      refine ⟨s.world.engine.attempts.length, by simp,
        (s.firstAttempt t options command directory).job, ?_, rfl⟩
      simp [Engine.jobs, ← grown, attempts]
    · have cleared' := (clearance_congr (s.runTest_kept u options).1).trans cleared
      obtain ⟨id', mem', found⟩ := ih others mem cleared'
      exact ⟨id', List.mem_append_right _ mem', found⟩

end Session

end Proctor
