import Proctor.CommandLine.Run
import Proctor.Machine.Process
import Proctor.Proofs.CommandLine.Print
import Proctor.Proofs.CommandLine.Reading
import Proctor.Proofs.Session.Profiles

/-!
# What a dry run tells

A run with and one without the dry-run option come to the same test, in the same session. From
there the one prints the command of the test, and the other dispatches a job with it. The two
succeed together, because whatever else a dispatch needs is there: the tool can wait for
processes, and the root of the project, which every command asks for, can be found. So what is
printed is what would be run, but for the control sequences of terminals.
-/

namespace Proctor.CommandLine

/-- The status that the caller of the tool gets. -/
def Exit.status : Exit → Int
  | .code n => n
  | .escaped _ => 1

/-- Can the request be made on the command line? -/
def RunRequest.IsAccepted (r : RunRequest) : Prop :=
  ∃ setting words rs spare, (Form.ofVerb .run).read setting words = .readings rs spare ∧
    r = .ofReadings rs

namespace Desk

variable {d : Desk} {own : LogOptions} {r : RunRequest} {s : Session} {t : TestInfo}
  {options : RunOptions}

/-! ## Coming to a test -/

/-- A session in which nothing has been done yet but to look for tests. -/
structure IsIdle (s : Session) : Prop where
  hasLoop : s.world.hasLoop
  table : s.world.engine.table = []
  processes : s.world.processes = []
  deliveries : s.world.engine.deliveries = []

theorem IsIdle.say (idle : IsIdle s) (records : List Log.Record) : IsIdle (s.say records) :=
  ⟨idle.hasLoop, idle.table, idle.processes, idle.deliveries⟩

theorem IsIdle.follow (idle : IsIdle s) (d : Desk) : IsIdle (d.follow s).2 :=
  ⟨idle.hasLoop, idle.table, idle.processes, rfl⟩

theorem stdout_log (d : Desk) (records : List Log.Record) : (d.log records).stdout = d.stdout := rfl

/-- Without deliveries the output stays as it is. -/
theorem IsIdle.stdout_follow (idle : IsIdle s) (d : Desk) : (d.follow s).1.stdout = d.stdout := by
  simp [Desk.follow, idle.deliveries, stdout_log]

theorem status_openSession {d' : Desk} {given : Option Path} {exit : Exit}
    (failed : d.openSession given = (d', .error exit)) : exit.status = 1 := by
  unfold openSession at failed
  split at failed
  · cases failed
  · split at failed
    · obtain rfl := Except.error.inj (Prod.mk.inj failed).2
      rfl
    · obtain rfl := Except.error.inj (Prod.mk.inj failed).2
      rfl

theorem isIdle_openSession {d' : Desk} {given : Option Path}
    (opened : d.openSession given = (d', .ok s)) : IsIdle s ∧ d'.stdout = d.stdout := by
  unfold openSession at opened
  split at opened
  · rename_i d₁ config loaded
    have quiet : d₁.stdout = d.stdout := by rw [← (Prod.mk.inj loaded).1]; rfl
    have fresh (d₂ : Desk) (same : d₂.stdout = d.stdout)
        (opened : ((d₂.follow (.create config none d₂.tree d₂.call.environment d₂.width)).1,
          Except.ok (d₂.follow (.create config none d₂.tree d₂.call.environment d₂.width)).2) =
          (d', (.ok s : Except Exit Session))) : IsIdle s ∧ d'.stdout = d.stdout := by
      have idle : IsIdle (.create config none d₂.tree d₂.call.environment d₂.width) :=
        ⟨rfl, rfl, rfl, rfl⟩
      obtain ⟨rfl, session⟩ := Prod.mk.inj opened
      obtain rfl := Except.ok.inj session
      exact ⟨idle.follow d₂, (idle.stdout_follow d₂).trans same⟩
    cases level : d₁.shared.setupFor config.logLevel with
    | none =>
      rw [level] at opened
      exact fresh d₁ quiet opened
    | some setup =>
      rw [level] at opened
      exact fresh (d₁.configure setup) quiet opened
  · split at opened <;> cases opened

/-- Where a run comes to a test, nothing has been printed and nothing has begun. -/
theorem isIdle_reach {d' : Desk} (reached : d.reach own r = .ok (d', s, t)) :
    IsIdle s ∧ d'.stdout = d.stdout := by
  unfold reach at reached
  split at reached
  · cases reached
  · rename_i d₁ s₁ opened
    obtain ⟨idle, quiet⟩ := isIdle_openSession opened
    split at reached
    · cases reached
    · rename_i lines read
      obtain ⟨records, said⟩ := s₁.locate_says r.file.text (some lines)
        (cursorFor r.line lines) r.language
      dsimp only at reached
      rw [said] at reached
      split at reached
      · split at reached <;> cases reached
      · cases reached
      · obtain ⟨rfl, rfl, rfl⟩ := by simpa using reached
        refine ⟨(idle.say records).follow d₁, ?_⟩
        exact ((idle.say records).stdout_follow d₁).trans quiet

/-- Where a run comes to no test, it ends with status one and nothing printed. -/
theorem status_reach {ended : Desk × Exit} (missed : d.reach own r = .error ended) :
    ended.2.status = 1 := by
  unfold reach at missed
  split at missed
  · rename_i d₁ exit failed
    obtain rfl := Except.error.inj missed
    exact status_openSession failed
  · split at missed
    · obtain rfl := Except.error.inj missed
      rfl
    · dsimp only at missed
      split at missed
      · split at missed <;> (obtain rfl := Except.error.inj missed; rfl)
      · obtain rfl := Except.error.inj missed
        rfl
      · cases missed

/-! ## What else a dispatch needs -/

theorem directory_of_isAccepted (accepted : r.IsAccepted) {name : String}
    (given : r.options.directory = some name) : name ∈ DirectoryRule.names := by
  obtain ⟨setting, words, rs, spare, read, rfl⟩ := accepted
  refine Form.mem_of_text? read ?_ given
  decide

theorem exists_ruleFor (accepted : r.IsAccepted) (configured : DirectoryRule) :
    ∃ rule, WorkingDirectory.ruleFor configured r.options.directory = .ok rule := by
  have known : ∀ name ∈ DirectoryRule.names, (DirectoryRule.named? name).isSome := by decide
  unfold WorkingDirectory.ruleFor
  cases chosen : r.options.directory.filter (!·.isEmpty) with
  | none => exact ⟨configured, rfl⟩
  | some name =>
    have given := (Option.filter_eq_some_iff.mp chosen).1
    obtain ⟨rule, named⟩ :=
      Option.isSome_iff_exists.mp (known name (directory_of_isAccepted accepted given))
    exact ⟨rule, by simp only [named]⟩

/-- Every command asks for the root of the project, so where there is a command there is also
the directory that its rule chooses. -/
theorem exists_directory {p : Profile} {mode : Mode} {command : List String} {tree : FileTree}
    {registry : Registry} (known : registry.find? t.language = some p)
    (built : Command.build tree p t mode none = .ok command) (rule : DirectoryRule) :
    ∃ directory, WorkingDirectory.ofRule tree registry t rule = .ok directory := by
  cases rule with
  | current => exact ⟨_, rfl⟩
  | fileDirectory => exact ⟨_, rfl⟩
  | projectRoot =>
    obtain ⟨templates, -, built⟩ := Except.bind_eq_ok.mp built
    obtain ⟨root, found, -⟩ := Except.bind_eq_ok.mp built
    have markers : WorkingDirectory.markersOf registry t.language = p.rootMarkers := by
      simp [WorkingDirectory.markersOf, known]
    have found : ProjectRoot.ofFile tree p.rootMarkers t.file = .ok root := found
    exact ⟨root.getD t.file.parent, by rw [WorkingDirectory.ofRule, markers, found]; rfl⟩

/-- In an idle session a test that has a command gets a job with that command. -/
theorem exists_clearance (idle : IsIdle s) (accepted : r.IsAccepted) {command : List String}
    (built : (s.commandFor t r.options.mode).2 = .ok command) :
    ∃ directory, s.clearance t r.options = .ok (command, directory) := by
  obtain ⟨p, mode, known, -, made⟩ := Session.commandFor_eq_ok.mp built
  obtain ⟨rule, ruled⟩ := exists_ruleFor accepted s.world.engine.config.directory
  obtain ⟨directory, place⟩ := exists_directory known made rule
  refine ⟨directory, Session.clearance_eq_ok.mpr ⟨idle.hasLoop, built, ?_⟩⟩
  rw [WorkingDirectory.resolve, ruled]
  exact place

/-! ## The two ends -/

theorem printCommand_of_ok {mode : Value} {words : List String}
    (built : (s.commandFor t mode).2 = .ok words) :
    (d.printCommand s t mode).2 = .code 0 ∧
      (d.printCommand s t mode).1.stdout = d.stdout ++ lineOf (Command.line words) := by
  constructor
  · simp only [printCommand, built]
  · simp only [printCommand, built]
    rfl

theorem printCommand_of_error {mode : Value} {why : Error}
    (unbuilt : (s.commandFor t mode).2 = .error why) :
    (d.printCommand s t mode).2.status = 1 := by
  simp only [printCommand, unbuilt]
  split <;> rfl

/-- A run that dispatches no job ends with what the attempt has left, or gives that up. -/
theorem runToEnd_of_error [Host] {why : Error} (refused : s.clearance t options = .error why) :
    s.runToEnd t options = ((s.runTest t options).1, .ok none) ∨
      ∃ why', s.runToEnd t options = ((s.runTest t options).1.abandon, .error why') := by
  have answer := (Session.runTest_of_error refused).1
  rw [Session.runToEnd]
  split at answer
  · exact .inl (by rw [← Prod.eta (s.runTest t options), answer])
  · exact .inr ⟨why, by rw [← Prod.eta (s.runTest t options), answer]⟩

theorem status_tellRun_of_error [Host] {why : Error}
    (refused : s.clearance t options = .error why) :
    (d.tellRun t (s.runToEnd t options)).2.status = 1 := by
  obtain same | ⟨why', same⟩ := runToEnd_of_error refused
  · rw [same]
    rfl
  · rw [same]
    rfl

theorem runUntilReady_of_isReady [Host] {w : World} {number : Nat} (ready : w.isReady number)
    (n : Nat) : World.runUntilReady number n w = w := by
  cases n with
  | zero => rfl
  | succ n => rw [World.runUntilReady, if_pos ready]

/-- Where no job is at work, nothing happens when a session gives up. -/
theorem processes_abandon [Host] (table : s.world.engine.table = []) :
    s.abandon.world.processes = s.world.processes := by
  have ready : World.isReady { s.world with engine := (s.world.engine.wait []).1 }
      (s.world.engine.wait []).2 := by
    simp [World.isReady, Engine.wait]
  simp only [Session.abandon, World.abandon, table, List.foldl_nil, World.wait]
  rw [runUntilReady_of_isReady ready]

/-- A job that could not be dispatched leaves an idle session without processes. -/
theorem processes_runToEnd_of_error [Host] {why : Error} (idle : IsIdle s)
    (refused : s.clearance t options = .error why) :
    (s.runToEnd t options).1.world.processes = [] := by
  obtain ⟨records, run⟩ := s.runTest_eq t options
  have dispatches := Session.dispatches { s with last := some t } t options
  have kept : (s.runTest t options).1.world.engine.table = [] ∧
      (s.runTest t options).1.world.processes = [] := by
    rw [run]
    generalize ({ s with last := some t } : Session).dispatch t options = r at dispatches
    cases dispatches with
    | unbuilt => exact ⟨idle.table, idle.processes⟩
    | refused => exact ⟨idle.table, idle.processes⟩
    | dispatched cleared =>
      have cleared : s.clearance t options = .ok _ := cleared
      simp [refused] at cleared
  obtain same | ⟨why', same⟩ := runToEnd_of_error refused
  · rw [same]
    exact kept.2
  · rw [same]
    exact (processes_abandon kept.1).trans kept.2

/-! ## Both runs -/

/-- The job that a run dispatches, if it dispatches one. -/
def jobFor (d : Desk) (own : LogOptions) (r : RunRequest) : Option Job :=
  match d.reach own r with
  | .error _ => none
  | .ok (_, s, t) => s.jobOf r.options t

/-- The processes that a run starts. -/
def processesOf [Host] (d : Desk) (own : LogOptions) (r : RunRequest) : List (Nat × Started) :=
  (d.runIn own r).2.elim [] (·.world.processes)

/-- The two runs come to the same end where they come to no test, -/
theorem runIn_of_error [Host] {ended : Desk × Exit} (missed : d.reach own r = .error ended)
    (isDryRun : Bool) : d.runIn own { r with isDryRun } = (ended, none) := by
  have missed : d.reach own { r with isDryRun } = .error ended := missed
  simp only [runIn, missed]

/-- and part only where they have come to one. -/
theorem runIn_of_ok [Host] {d' : Desk} (reached : d.reach own r = .ok (d', s, t)) :
    d.runIn own { r with isDryRun := true } =
        (d'.printCommand s t r.options.mode, some s) ∧
      d.runIn own { r with isDryRun := false } =
        (d'.tellRun t (s.runToEnd t r.options), some (s.runToEnd t r.options).1) := by
  have reached (isDryRun : Bool) : d.reach own { r with isDryRun } = .ok (d', s, t) := reached
  simp [runIn, reached]

theorem lineOf_line_eq_iff (words : List String) :
    lineOf (Command.line words) = Command.line words ++ "\n" ↔
      ∀ w ∈ words, hasSequence w.toList = false := by
  rw [lineOf_eq_iff, hasSequence_line, List.any_eq_false]
  simp only [Bool.not_eq_true]

/-- A dry run tells what a run would do. It ends well exactly if the run dispatches a job. What
it prints is then the command of that job, quoted so that the shell reads back the same words,
and nothing is left out of it unless one of them has a control sequence of terminals in it.
Otherwise both end with status one, and no process is started. -/
theorem dry_run_tells [Host] (d : Desk) (own : LogOptions) (accepted : r.IsAccepted) :
    let dry := d.run own { r with isDryRun := true }
    let real := d.run own { r with isDryRun := false }
    d.processesOf own { r with isDryRun := true } = [] ∧
    (dry.2.status = 0 ↔ (d.jobFor own r).isSome) ∧
    (∀ j, d.jobFor own r = some j →
      dry.1.stdout = d.stdout ++ lineOf (Command.line j.command) ∧
      Command.shellWords? (Command.line j.command) = some j.command ∧
      (lineOf (Command.line j.command) = Command.line j.command ++ "\n" ↔
        ∀ w ∈ j.command, hasSequence w.toList = false)) ∧
    (d.jobFor own r = none → dry.2.status = 1 ∧ real.2.status = 1 ∧
      d.processesOf own { r with isDryRun := false } = []) := by
  intro dry real
  cases reached : d.reach own r with
  | error ended =>
    have missing : d.jobFor own r = none := by simp only [jobFor, reached]
    have one := status_reach reached
    have ends (isDryRun : Bool) : d.runIn own { r with isDryRun } = (ended, none) :=
      runIn_of_error reached isDryRun
    have dryEnds : dry = ended := congrArg Prod.fst (ends true)
    have realEnds : real = ended := congrArg Prod.fst (ends false)
    have idle (isDryRun : Bool) : d.processesOf own { r with isDryRun } = [] := by
      rw [processesOf, ends]
      rfl
    rw [dryEnds, realEnds, one, missing]
    refine ⟨idle true, by simp, ?_, fun _ => ⟨rfl, rfl, idle false⟩⟩
    intro j some_
    cases some_
  | ok came =>
    obtain ⟨d', s, t⟩ := came
    obtain ⟨idle, quiet⟩ := isIdle_reach reached
    obtain ⟨dryRun, realRun⟩ := runIn_of_ok reached
    have dryEnds : dry = d'.printCommand s t r.options.mode := congrArg Prod.fst dryRun
    have realEnds : real = d'.tellRun t (s.runToEnd t r.options) := congrArg Prod.fst realRun
    have job : d.jobFor own r = s.jobOf r.options t := by simp only [jobFor, reached]
    rw [dryEnds, realEnds, job, processesOf, processesOf, dryRun, realRun]
    refine ⟨idle.processes, ?_⟩
    cases built : (s.commandFor t r.options.mode).2 with
    | ok words =>
      obtain ⟨directory, cleared⟩ := exists_clearance idle accepted built
      obtain ⟨zero, printed⟩ := printCommand_of_ok (d := d') built
      rw [Session.jobOf_of_ok cleared, zero, printed, quiet]
      refine ⟨by simp [Exit.status], ?_, fun none_ => by cases none_⟩
      intro j same
      have command : j.command = words := by rw [← Option.some.inj same]; rfl
      rw [command]
      exact ⟨rfl, Command.shellWords?_line words, lineOf_line_eq_iff words⟩
    | error why =>
      have refused : s.clearance t r.options = .error why := by
        rw [Session.clearance, built]
        rfl
      have one := printCommand_of_error (d := d') built
      rw [Session.jobOf_of_error refused]
      refine ⟨by simp [one], ?_, fun _ => ⟨one, status_tellRun_of_error refused,
        processes_runToEnd_of_error idle refused⟩⟩
      intro j some_
      cases some_

/-! A file with one test, whose command has a quote in it or a control sequence. -/

def singleTree (template : String) : FileTree where
  top := .directory [
    ("testatpoint.toml",
      .file (Text.Utf8.encode ("[languages]\npython.commands = \"" ++ template ++ "\"\n")) false),
    ("t.py", .file (Text.Utf8.encode "def test_x(): pass\n") false)]
  current := ⟨.slash, []⟩

def singleDesk (template : String) : Desk where
  call := { words := [], environment := [], tree := singleTree template, time := "" }
  tree := singleTree template

def singleReadings : Readings := [(.file, .path ⟨.relative, ["t.py"]⟩), (.mode, .text "normal")]

def singleRequest : RunRequest := .ofReadings singleReadings

theorem isAccepted_single : singleRequest.IsAccepted := by
  have read : ((Form.ofVerb .run).read ⟨singleTree "true", []⟩ ["t.py"]).values? =
      some (singleReadings, []) := by decide +kernel
  exact ⟨_, _, _, _, Read.eq_of_values? read, rfl⟩

/-- The quote is printed so that the shell takes it for itself. -/
theorem dry_run_tells_quote :
    singleRequest.IsAccepted ∧
    ((singleDesk "echo it's %S").jobFor {} singleRequest).map Job.command =
      some ["echo", "it's", "test_x"] ∧
    ((singleDesk "echo it's %S").run {} { singleRequest with isDryRun := true }).1.stdout =
      "echo 'it'\"'\"'s' test_x\n" := by
  have command : ((singleDesk "echo it's %S").jobFor {} singleRequest).map Job.command =
      some ["echo", "it's", "test_x"] := by decide +kernel
  obtain ⟨j, job, words⟩ := Option.map_eq_some_iff.mp command
  obtain ⟨-, -, tells, -⟩ := dry_run_tells (singleDesk "echo it's %S") {} isAccepted_single
  obtain ⟨printed, -, -⟩ := tells j job
  refine ⟨isAccepted_single, command, printed.trans ?_⟩
  rw [words]
  decide +kernel

/-- The control sequence is left out of what is printed, and stays in the command of the job. -/
theorem dry_run_omits_sequence :
    ((singleDesk "echo \\u001B[1m%S").jobFor {} singleRequest).map Job.command =
      some ["echo", "\x1b[1mtest_x"] ∧
    ((singleDesk "echo \\u001B[1m%S").run {} { singleRequest with isDryRun := true }).1.stdout =
      "echo 'test_x'\n" ∧
    Command.line ["echo", "\x1b[1mtest_x"] = "echo '\x1b[1mtest_x'" := by
  decide +kernel

end Desk

end Proctor.CommandLine
