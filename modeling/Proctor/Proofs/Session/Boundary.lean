import Proctor.Proofs.Detection.Failure
import Proctor.Proofs.ProjectRoot
import Proctor.Proofs.Session.Registers

/-!
# What stays inside a session

No operation that runs, selects or lists tests passes on an error of configuration or of
building; it is reported, and the operation answers that nothing was done. An attempt that
fails leaves nothing behind that another attempt could notice, so of the selected tests each
gets the job that it would get alone.
-/

namespace Proctor

namespace Session

/-- An error that an operation may pass on: one neither of configuration nor of building. -/
def IsPassedOn (why : Error) : Prop := why.isConfiguration = false ∧ why.isBuild = false

variable {s s' : Session} {t : TestInfo} {options : RunOptions} {file : String}
  {lines : Option (List String)} {language : Option String} {cursor : Int}

/-! ## Lookups -/

theorem isPassedOn_of_unresolved {why : Error} (flaw : Detection.Unresolved why) :
    IsPassedOn why := by
  cases flaw <;> exact ⟨rfl, rfl⟩

theorem failsOnly_withContext (source : Source) (registry : Registry) (t : TestInfo) :
    (source.withContext registry t).FailsOnly IsPassedOn :=
  ((Detection.failsOnly_resolve _ _ _ _ _).mono fun _ => isPassedOn_of_unresolved).map

/-- To open a source no command is built. -/
theorem failsOnly_source :
    (s.source file lines language).FailsOnly fun why => why.isBuild = false := by
  refine .bind ?_ fun tag _ => .bind ?_ fun p _ => .bind ?_ fun buffer _ => Except.failsOnly_ok _
  · unfold Source.languageOf
    split
    · exact Except.failsOnly_ok _
    · split
      · exact Except.failsOnly_ok _
      · exact Except.failsOnly_error rfl
  · unfold Registry.get
    split
    · exact Except.failsOnly_ok _
    · exact Except.failsOnly_error rfl
  · cases lines with
    | some given => exact Except.failsOnly_ok given
    | none =>
      refine .mapError ?_
      intro why _
      obtain (_ | _) | _ := why <;> rfl

theorem failsOnly_locate :
    (s.locate file lines cursor language).2.FailsOnly fun why => why.isBuild = false := by
  cases opened : s.source file lines language with
  | error why =>
    rw [locate, opened]
    exact Except.failsOnly_error (failsOnly_source why opened)
  | ok source =>
    rw [locate_of_source opened]
    unfold Source.nearest
    split
    · exact ((failsOnly_withContext _ _ _).mono fun _ passed => passed.2).map
    · exact Except.failsOnly_ok none

/-- An operation at a place reports what the lookup finds wrong with the configuration, so it
passes on no more than what is done with the test does. -/
theorem failsOnly_atPoint {α : Type}
    {action : Session → TestInfo → Session × Except Error (Option α)}
    (inner : ∀ s t, (action s t).2.FailsOnly IsPassedOn) :
    (s.atPoint file lines cursor language action).2.FailsOnly IsPassedOn := by
  have unbuilt : (s.locate file lines cursor language).2.FailsOnly fun why =>
      why.isBuild = false := failsOnly_locate
  unfold atPoint
  split
  case h_1 s' t found => exact inner s' t
  case h_2 s' missed => exact Except.failsOnly_ok none
  case h_3 s' why failed =>
    rw [failed] at unbuilt
    split
    · exact Except.failsOnly_ok none
    · rename_i foreign
      exact Except.failsOnly_error ⟨by simpa using foreign, unbuilt why rfl⟩

theorem failsOnly_findAll : (s.findAll file lines language).2.FailsOnly IsPassedOn := by
  cases opened : s.source file lines language with
  | error why =>
    simp only [findAll, opened]
    split
    · exact Except.failsOnly_ok []
    · rename_i foreign
      exact Except.failsOnly_error ⟨by simpa using foreign, failsOnly_source why opened⟩
  | ok source =>
    rw [findAll_of_source opened]
    exact Except.failsOnly_mapM fun t _ => failsOnly_withContext source s.registry t

/-! ## Attempts -/

theorem failsOnly_runTest (s : Session) (t : TestInfo) (options : RunOptions) :
    (s.runTest t options).2.FailsOnly IsPassedOn := by
  cases cleared : s.clearance t options with
  | ok needs =>
    rw [(runTest_of_ok cleared).1]
    exact Except.failsOnly_ok _
  | error why =>
    rw [(runTest_of_error cleared).1]
    split
    · exact Except.failsOnly_ok none
    · rename_i silent
      simp only [reports, Bool.or_eq_true, not_or, Bool.not_eq_true] at silent
      exact Except.failsOnly_error silent.1

theorem failsOnly_runAtPoint :
    (s.runAtPoint file lines cursor language options).2.FailsOnly IsPassedOn :=
  failsOnly_atPoint fun s t => s.failsOnly_runTest t options

theorem failsOnly_selectAtPoint :
    (s.selectAtPoint file lines cursor language).2.FailsOnly IsPassedOn :=
  failsOnly_atPoint fun _ _ => Except.failsOnly_ok _

theorem failsOnly_runLast : (s.runLast options).2.FailsOnly IsPassedOn := by
  unfold runLast
  split
  · exact Except.failsOnly_ok none
  · exact s.failsOnly_runTest _ options

theorem failsOnly_runEach (options : RunOptions) (tests : List TestInfo) (s : Session) :
    (runEach options tests s).2.FailsOnly IsPassedOn := by
  induction tests generalizing s with
  | nil => exact Except.failsOnly_ok []
  | cons t rest ih =>
    have first := s.failsOnly_runTest t options
    unfold runEach
    split
    · rename_i s' why failed
      rw [failed] at first
      exact Except.failsOnly_error (first why rfl)
    · rename_i s' id done
      exact (ih s').map

theorem failsOnly_runSelected : (s.runSelected options).2.FailsOnly IsPassedOn := by
  unfold runSelected
  split
  · exact Except.failsOnly_ok []
  · exact failsOnly_runEach options s.selected s

/-! ## Jobs that begin to run -/

/-- Is the job of a number running? -/
def IsRunning (s : Session) (id : Nat) : Prop :=
  ∃ j, s.world.engine.jobs[id]? = some j ∧ j.state = .running

theorem isRunning_iff {id : Nat} :
    s.IsRunning id ↔ ∃ a, s.world.engine.attempts[id]? = some a ∧ a.job.state = .running := by
  simp [IsRunning, Engine.jobs]

/-- A job that is running among more attempts is one of those before or one of the others. -/
theorem isRunning_append {left : List Attempt} {id : Nat}
    (grown : s'.world.engine.attempts = s.world.engine.attempts ++ left) :
    s'.IsRunning id ↔ s.IsRunning id ∨
      s.world.engine.attempts.length ≤ id ∧
        ∃ a, left[id - s.world.engine.attempts.length]? = some a ∧ a.job.state = .running := by
  simp only [isRunning_iff, grown]
  by_cases old : id < s.world.engine.attempts.length
  · simp [List.getElem?_append_left old, Nat.not_le.mpr old]
  · have old := Nat.not_lt.mp old
    simp [List.getElem?_append_right old, old]

theorem IsRunning.of_prefix {id : Nat} (running : s.IsRunning id)
    (grown : s.world.engine.attempts <+: s'.world.engine.attempts) : s'.IsRunning id := by
  obtain ⟨left, grown⟩ := grown
  exact (isRunning_append grown.symm).mpr (.inl running)

/-- The answer to an attempt is a job exactly if that job has begun to run. -/
theorem runTest_eq_job_iff {id : Nat} :
    (s.runTest t options).2 = .ok (some id) ↔
      ¬ s.IsRunning id ∧ (s.runTest t options).1.IsRunning id := by
  cases cleared : s.clearance t options with
  | ok needs =>
    obtain ⟨command, directory⟩ := needs
    obtain ⟨answer, grown⟩ := runTest_of_ok cleared
    have fresh : ¬ s.IsRunning s.world.engine.attempts.length := by
      rintro ⟨j, found, -⟩
      simp [Engine.jobs] at found
    rw [answer, isRunning_append grown]
    constructor
    · intro same
      obtain rfl : s.world.engine.attempts.length = id := by simpa using same
      exact ⟨fresh, .inr ⟨Nat.le_refl _, _, by simp; rfl, rfl⟩⟩
    · rintro ⟨idle, running | ⟨above, a, found, -⟩⟩
      · exact absurd running idle
      · obtain ⟨inside, -⟩ := List.getElem?_eq_some_iff.mp found
        rw [List.length_singleton] at inside
        rw [show s.world.engine.attempts.length = id by omega]
  | error why =>
    obtain ⟨answer, left, created, grown⟩ := runTest_of_error cleared
    rw [isRunning_append grown]
    constructor
    · intro same
      rw [answer] at same
      split at same <;> simp at same
    · rintro ⟨idle, running | ⟨-, a, found, running⟩⟩
      · exact absurd running idle
      · rw [created a (List.mem_of_getElem? found)] at running
        cases running

/-! ## Several attempts -/

/-- The job that a test gets when it is run, if it gets one. -/
def jobOf (s : Session) (options : RunOptions) (t : TestInfo) : Option Job :=
  (s.runTest t options).2.toOption.join.bind fun id =>
    (s.runTest t options).1.world.engine.jobs[id]?

theorem jobOf_of_ok {command : List String} {directory : Path}
    (cleared : s.clearance t options = .ok (command, directory)) :
    s.jobOf options t = some (s.firstAttempt t options command directory).job := by
  obtain ⟨answer, grown⟩ := runTest_of_ok cleared
  simp [jobOf, answer, Except.toOption, Engine.jobs, grown]

theorem jobOf_of_error {why : Error} (refused : s.clearance t options = .error why) :
    s.jobOf options t = none := by
  rw [jobOf, (runTest_of_error refused).1]
  split <;> rfl

/-- No time passes while a test is dispatched. -/
theorem moment_runTest (s : Session) (t : TestInfo) (options : RunOptions) :
    (s.runTest t options).1.world.moment = s.world.moment := by
  obtain ⟨records, run⟩ := s.runTest_eq t options
  have dispatches := dispatches { s with last := some t } t options
  rw [run]
  generalize ({ s with last := some t } : Session).dispatch t options = r at dispatches
  cases dispatches <;> rfl

/-- The job that a test gets is a matter of the setting and of the moment alone. -/
theorem jobOf_congr (setting : s'.setting = s.setting)
    (moment : s'.world.moment = s.world.moment) : s'.jobOf options = s.jobOf options := by
  funext t
  have clearance : s'.clearance t options = s.clearance t options := clearance_congr setting
  cases cleared : s.clearance t options with
  | error why => rw [jobOf_of_error cleared, jobOf_of_error (clearance.trans cleared)]
  | ok needs =>
    obtain ⟨command, directory⟩ := needs
    rw [jobOf_of_ok cleared, jobOf_of_ok (clearance.trans cleared), firstAttempt, firstAttempt,
      moment]

/-- The session after each of some tests has been run, whatever came of it. -/
def afterEach (options : RunOptions) (tests : List TestInfo) (s : Session) : Session :=
  tests.foldl (fun s t => (s.runTest t options).1) s

/-- What is known of an attempt at several tests that comes to its end. -/
structure RanAll (options : RunOptions) (tests : List TestInfo) (s : Session) (ids : List Nat) :
    Prop where
  answer : (runEach options tests s).2 = .ok ids
  attempted : (runEach options tests s).1 = afterEach options tests s
  /-- The jobs given back are those the tests would get alone, in the same order. -/
  jobs : ids.map (fun id => (runEach options tests s).1.world.engine.jobs[id]?) =
    (tests.filterMap (s.jobOf options)).map some
  /-- No other job has begun to run. -/
  running : ∀ id, id ∈ ids ↔ ¬ s.IsRunning id ∧ (runEach options tests s).1.IsRunning id

theorem job_runEach {tests : List TestInfo} {id : Nat} {j : Job}
    (found : s.world.engine.jobs[id]? = some j) :
    (runEach options tests s).1.world.engine.jobs[id]? = some j := by
  obtain ⟨left, grown⟩ := runEach_grows options tests s
  obtain ⟨a, here, rfl⟩ : ∃ a, s.world.engine.attempts[id]? = some a ∧ a.job = j := by
    simpa [Engine.jobs] using found
  obtain ⟨inside, -⟩ := List.getElem?_eq_some_iff.mp here
  rw [Engine.jobs, ← grown, List.getElem?_map, List.getElem?_append_left inside, here]
  rfl

/-- Where every error of a dispatch would be reported, all tests are run, and each is run as if
it were the only one. -/
theorem exists_ranAll {tests : List TestInfo}
    (told : ∀ t ∈ tests, ∀ why, s.clearance t options = .error why → reports why) :
    ∃ ids, RanAll options tests s ids := by
  induction tests generalizing s with
  | nil =>
    refine ⟨[], rfl, rfl, rfl, fun id => ?_⟩
    rw [runEach]
    exact ⟨fun mem => absurd mem List.not_mem_nil, fun moved => absurd moved.2 moved.1⟩
  | cons t rest ih =>
    obtain ⟨answer, first⟩ : ∃ answer, (s.runTest t options).2 = .ok answer := by
      cases cleared : s.clearance t options with
      | ok needs => exact ⟨_, (runTest_of_ok cleared).1⟩
      | error why =>
        exact ⟨none, by rw [(runTest_of_error cleared).1,
          if_pos (told t List.mem_cons_self why cleared)]⟩
    obtain ⟨setting, -, -⟩ := s.runTest_kept t options
    have alone : (s.runTest t options).1.jobOf options = s.jobOf options :=
      jobOf_congr setting (s.moment_runTest t options)
    obtain ⟨later, ran⟩ := ih (s := (s.runTest t options).1) fun u mem why refused =>
      told u (List.mem_cons_of_mem t mem) why ((clearance_congr setting).symm.trans refused)
    have unfolded : runEach options (t :: rest) s =
        ((runEach options rest (s.runTest t options).1).1, .ok (answer.toList ++ later)) := by
      rw [runEach]
      have pair : s.runTest t options = ((s.runTest t options).1, .ok answer) :=
        Prod.ext rfl first
      rw [pair]
      simp [ran.answer, Except.map]
    refine ⟨answer.toList ++ later, ?_⟩
    constructor
    case answer => rw [unfolded]
    case attempted =>
      rw [unfolded]
      exact ran.attempted
    case jobs =>
      rw [unfolded, List.map_append, ran.jobs, alone]
      cases answer with
      | none =>
        have missing : s.jobOf options t = none := by simp [jobOf, first, Except.toOption]
        simp [missing]
      | some id =>
        obtain ⟨-, j, found, -⟩ := runTest_eq_job_iff.mp first
        have job : s.jobOf options t = some j := by simp [jobOf, first, Except.toOption, found]
        simp [job, job_runEach found]
    case running =>
      intro id
      have grown := s.runTest_grows t options
      have later := ran.running id
      have here : id ∈ answer.toList ↔ ¬ s.IsRunning id ∧ (s.runTest t options).1.IsRunning id := by
        rw [← runTest_eq_job_iff, first, Option.mem_toList, Except.ok.injEq]
      have stays : s.IsRunning id → (s.runTest t options).1.IsRunning id := fun running =>
        running.of_prefix grown
      have stays' : (s.runTest t options).1.IsRunning id →
          (runEach options rest (s.runTest t options).1).1.IsRunning id := fun running =>
        running.of_prefix (runEach_grows options rest _)
      rw [unfolded, List.mem_append, here, later]
      tauto

/-! ## What can stand in the way of a test -/

variable {p : Profile} {mode : Mode}

theorem failsOnly_ofFile {tree : FileTree} {markers : List Value} {place : Path}
    (texts : ∀ m ∈ markers, m.asText? ≠ none) :
    (ProjectRoot.ofFile tree markers place).FailsOnly (reports ·) := by
  intro why failed
  obtain ⟨m, mem, odd⟩ := ProjectRoot.exists_of_ofFile failed
  exact absurd odd (texts m mem)

theorem failsOnly_templatesFor : (Command.templatesFor p mode).FailsOnly (reports ·) := by
  unfold Command.templatesFor
  split
  · split
    · exact Except.failsOnly_error rfl
    · exact Except.failsOnly_ok _
  · exact Except.failsOnly_ok _

theorem failsOnly_build {tree : FileTree} (texts : ∀ m ∈ p.rootMarkers, m.asText? ≠ none) :
    (Command.build tree p t mode none).FailsOnly (reports ·) := by
  refine .bind failsOnly_templatesFor fun templates _ =>
    .bind (failsOnly_ofFile texts) fun root _ => ?_
  split
  · exact Except.failsOnly_error rfl
  · exact Except.failsOnly_ok _

theorem failsOnly_commandFor {v : Value}
    (texts : ∀ tag p, s.registry.find? tag = some p → ∀ m ∈ p.rootMarkers, m.asText? ≠ none) :
    (s.commandFor t v).2.FailsOnly (reports ·) := by
  unfold commandFor
  split
  case h_1 p mode known named =>
    refine failsOnly_build (texts t.language p ?_)
    unfold Registry.get at known
    split at known
    · rename_i p' found
      rw [found, Except.ok.inj known]
    · cases known
  case h_2 why named unknown =>
    unfold Registry.get at unknown
    split at unknown
    · cases unknown
    · obtain rfl := Except.error.inj unknown
      exact Except.failsOnly_error rfl
  case h_3 p why known unnamed =>
    unfold Mode.ofValue at unnamed
    split at unnamed
    · cases unnamed
    · obtain rfl := Except.error.inj unnamed
      exact Except.failsOnly_error rfl

theorem failsOnly_directory {configured : DirectoryRule} {strategy : Option String}
    (texts : ∀ tag p, s.registry.find? tag = some p → ∀ m ∈ p.rootMarkers, m.asText? ≠ none) :
    (WorkingDirectory.resolve s.tree s.registry configured t strategy).FailsOnly (reports ·) := by
  have markers : ∀ m ∈ WorkingDirectory.markersOf s.registry t.language, m.asText? ≠ none := by
    unfold WorkingDirectory.markersOf
    cases known : s.registry.find? t.language with
    | none => simp
    | some p => exact texts t.language p known
  refine .bind ?_ fun rule _ => ?_
  · unfold WorkingDirectory.ruleFor
    split
    · exact Except.failsOnly_ok _
    · split
      · exact Except.failsOnly_ok _
      · exact Except.failsOnly_error rfl
  · cases rule with
    | current => exact Except.failsOnly_ok _
    | fileDirectory => exact Except.failsOnly_ok _
    | projectRoot => exact (failsOnly_ofFile markers).map

/-- Where the markers of all profiles are texts and processes can be waited for, whatever stands
in the way of a test is reported. -/
theorem failsOnly_clearance (looped : s.world.hasLoop)
    (texts : ∀ tag p, s.registry.find? tag = some p → ∀ m ∈ p.rootMarkers, m.asText? ≠ none) :
    (s.clearance t options).FailsOnly (reports ·) := by
  refine .bind (failsOnly_commandFor texts) fun command _ => ?_
  rw [looped]
  exact (failsOnly_directory texts).map

/-! ## The boundary -/

theorem runSelected_eq (chosen : s.selected ≠ []) :
    s.runSelected options = runEach options s.selected s := by
  rw [runSelected, if_neg (by simpa using chosen)]

/-- What happens at the boundary of a session. No operation on tests passes on an error of
configuration or of building. The answer to an attempt is a job exactly if that job has begun to
run. Where processes can be waited for and the markers of all profiles are texts, running the
selected tests means to run each of them in the order of their selection; the answer is the jobs
that the tests would get if each were run alone, in that order, and no other job has begun to
run. -/
theorem errors_stay_inside (s : Session) :
    (∀ t options, (s.runTest t options).2.FailsOnly IsPassedOn) ∧
    (∀ file lines cursor language options,
      (s.runAtPoint file lines cursor language options).2.FailsOnly IsPassedOn ∧
      (s.debugAtPoint file lines cursor language options).2.FailsOnly IsPassedOn) ∧
    (∀ file lines cursor language,
      (s.selectAtPoint file lines cursor language).2.FailsOnly IsPassedOn) ∧
    (∀ options, (s.runLast options).2.FailsOnly IsPassedOn ∧
      (s.runSelected options).2.FailsOnly IsPassedOn) ∧
    (∀ file lines language, (s.findAll file lines language).2.FailsOnly IsPassedOn) ∧
    (∀ t options id, (s.runTest t options).2 = .ok (some id) ↔
      ¬ s.IsRunning id ∧ (s.runTest t options).1.IsRunning id) ∧
    (s.world.hasLoop →
      (∀ tag p, s.registry.find? tag = some p → ∀ m ∈ p.rootMarkers, m.asText? ≠ none) →
      ∀ options, ∃ ids, (s.runSelected options).2 = .ok ids ∧
        (s.selected ≠ [] → (s.runSelected options).1 = afterEach options s.selected s) ∧
        ids.map (fun id => (s.runSelected options).1.world.engine.jobs[id]?) =
          (s.selected.filterMap (s.jobOf options)).map some ∧
        ∀ id, id ∈ ids ↔ ¬ s.IsRunning id ∧ (s.runSelected options).1.IsRunning id) := by
  refine ⟨s.failsOnly_runTest, fun _ _ _ _ _ => ⟨failsOnly_runAtPoint, failsOnly_runAtPoint⟩,
    fun _ _ _ _ => failsOnly_selectAtPoint, fun _ => ⟨failsOnly_runLast, failsOnly_runSelected⟩,
    fun _ _ _ => failsOnly_findAll, fun _ _ _ => runTest_eq_job_iff, ?_⟩
  intro looped texts options
  by_cases chosen : s.selected = []
  · have spoken : s.runSelected options = (s.note .warning "No tests selected" [], .ok []) := by
      rw [runSelected, chosen]
      rfl
    refine ⟨[], by rw [spoken], fun some => absurd chosen some, by rw [chosen]; rfl, fun id => ?_⟩
    rw [spoken]
    exact ⟨fun mem => absurd mem List.not_mem_nil, fun moved => absurd moved.2 moved.1⟩
  · obtain ⟨ids, ran⟩ : ∃ ids, RanAll options s.selected s ids :=
      exists_ranAll fun t _ => failsOnly_clearance looped texts
    rw [runSelected_eq chosen]
    exact ⟨ids, ran.answer, fun _ => ran.attempted, ran.jobs, ran.running⟩

/-! Three selected tests, of which the second is of a language without a profile. -/

def strayTest : TestInfo := { goTest "Stray" 3 with language := "cobol" }

def goChosen : Session :=
  { goSession with selected := [goTest "TestSum" 2, strayTest, goTest "BenchmarkSum" 4] }

/-- The first and the third test have their jobs, as if the second had not been selected. -/
theorem errors_stay_inside_go :
    goChosen.world.hasLoop ∧
    (∀ tag p, goChosen.registry.find? tag = some p → ∀ m ∈ p.rootMarkers, m.asText? ≠ none) ∧
    ∃ ids, (goChosen.runSelected {}).2 = .ok ids ∧
      ids.map (fun id => (goChosen.runSelected {}).1.world.engine.jobs[id]?.map fun j =>
        (j.test, j.command)) =
      [some (goTest "TestSum" 2, ["go", "test", "-v", "-run", "^TestSum$", "./..."]),
        some (goTest "BenchmarkSum" 4, ["go", "test", "-v", "-run", "^BenchmarkSum$", "./..."])]
    := by
  have texts : ∀ tag p, goChosen.registry.find? tag = some p →
      ∀ m ∈ p.rootMarkers, m.asText? ≠ none := by
    intro tag p known
    have held : p = goProfile := by
      by_cases same : tag = "go"
      · subst same
        exact (Option.some.inj known).symm
      · have other : (tag == "go") = false := by simpa using same
        simp [goChosen, goSession, registry, Registry.find?, List.lookup_cons, other] at known
    rw [held]
    decide +kernel
  obtain ⟨ids, answer, -, jobs, -⟩ := (errors_stay_inside goChosen).2.2.2.2.2.2 rfl texts {}
  refine ⟨rfl, texts, ids, answer, ?_⟩
  have seen := congrArg (List.map (Option.map fun j : Job => (j.test, j.command))) jobs
  rw [List.map_map] at seen
  have alone : (goChosen.selected.filterMap (goChosen.jobOf {})).map
      (fun j => (j.test, j.command)) =
      [(goTest "TestSum" 2, ["go", "test", "-v", "-run", "^TestSum$", "./..."]),
        (goTest "BenchmarkSum" 4, ["go", "test", "-v", "-run", "^BenchmarkSum$", "./..."])] := by
    decide +kernel
  refine seen.trans (Eq.trans ?_ (congrArg (List.map some) alone))
  rw [List.map_map, List.map_map]
  rfl

end Session

end Proctor
