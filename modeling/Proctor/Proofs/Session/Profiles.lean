import Proctor.Proofs.Registry
import Proctor.Proofs.Session.Boundary

/-!
# Where a session looks profiles up

A session has one registry. It is the one the session was made with, with the profiles that
were registered since, and whatever the session is asked for, that registry tells the language
of a file, the patterns and the strategy that apply to it, the templates and the markers for a
command and its directory, and which files are tests. A registry that is given to a new session
is replaced by that of the configuration if it is empty.
-/

namespace Proctor

namespace Session

variable {s : Session} {op : Operation} {p : Place} {α : Type}

/-! ## What leaves the setting alone -/

theorem setting_findAll (s : Session) (file : String) (lines : Option (List String))
    (language : Option String) : (s.findAll file lines language).1.setting = s.setting := by
  cases opened : s.source file lines language with
  | error why =>
    simp only [findAll, opened]
    split <;> rfl
  | ok source =>
    simp only [findAll, opened]
    split <;> rfl

theorem setting_counterpart (s : Session) (file : String) :
    (s.counterpart file).1.setting = s.setting := by
  unfold counterpart
  lift_lets
  intro path said
  cases Counterpart.of said.tree said.registry path with
  | error why => rfl
  | ok other => cases other <;> rfl

theorem setting_select (s : Session) (t : TestInfo) : (s.select t).1.setting = s.setting := by
  unfold select
  split <;> rfl

theorem setting_stop (s : Session) (id : Nat) : (s.stop id).1.setting = s.setting := by
  have config : (s.world.engine.stop s.world.moment id).1.config = s.world.engine.config := by
    unfold Engine.stop
    split
    · rfl
    · split <;> rfl
  simp only [setting, Setting.mk.injEq]
  simp only [stop, World.stop]
  refine ⟨?_, ?_, ?_, ?_⟩
  case refine_3 => split <;> exact config
  all_goals split <;> rfl

theorem setting_atPoint {action : Session → TestInfo → Session × Except Error (Option α)}
    (kept : ∀ s t, (action s t).1.setting = s.setting) :
    (s.atPoint p.file p.lines p.cursor p.language action).1.setting = s.setting := by
  cases found : s.found p with
  | none =>
    obtain ⟨records, said⟩ : ∃ records,
        (s.atPoint p.file p.lines p.cursor p.language action).1 = s.say records :=
      atPoint_says_of_missed found
    rw [said, setting_say]
  | some t =>
    obtain ⟨records, said⟩ := s.locate_says p.file p.lines p.cursor p.language
    rw [atPoint_of_found found, kept, said, setting_say]

theorem setting_runTest (s : Session) (t : TestInfo) (options : RunOptions) :
    (s.runTest t options).1.setting = s.setting :=
  (s.runTest_kept t options).1

theorem setting_runLast (s : Session) (options : RunOptions) :
    (s.runLast options).1.setting = s.setting := by
  unfold runLast
  split
  · rfl
  · exact s.setting_runTest _ options

theorem setting_runEach (options : RunOptions) (tests : List TestInfo) (s : Session) :
    (runEach options tests s).1.setting = s.setting := by
  induction tests generalizing s with
  | nil => rfl
  | cons t rest ih =>
    have first := s.setting_runTest t options
    unfold runEach
    split
    · rename_i s' why failed
      rwa [failed] at first
    · rename_i s' id done
      rw [done] at first
      exact (ih s').trans first

theorem setting_runSelected (s : Session) (options : RunOptions) :
    (s.runSelected options).1.setting = s.setting := by
  unfold runSelected
  split
  · rfl
  · exact setting_runEach options s.selected s

/-! ## Registrations -/

/-- The profile that an operation registers, with its tag. -/
def Operation.registered : Operation → Option (String × Profile)
  | .register tag p => some (tag, p)
  | _ => none

/-- Are all profiles registered by the session itself? The world it finds itself in has then
always the registry that the session left. -/
def RegistersAlone : Session → List Operation → Prop
  | _, [] => True
  | s, op :: rest =>
    (∀ world, op = .meanwhile world → world.registry = s.registry) ∧
      (s.perform op).RegistersAlone rest

/-- An operation registers what it says, and nothing else changes the registry. -/
theorem registry_perform (alone : ∀ world, op = .meanwhile world → world.registry = s.registry) :
    (s.perform op).registry = s.registry.registerAll op.registered.toList := by
  have kept {s' : Session} (same : s'.setting = s.setting) : s'.registry = s.registry :=
    congrArg Setting.registry same
  cases op with
  | register tag p => rfl
  | languageOf | listSelected => rfl
  | locate p =>
    obtain ⟨records, said⟩ := s.locate_says p.file p.lines p.cursor p.language
    exact kept ((congrArg setting said).trans (setting_say records))
  | findAll file lines language => exact kept (s.setting_findAll file lines language)
  | run t options => exact kept (s.setting_runTest t options)
  | runAtPoint p options => exact kept (setting_atPoint fun s t => s.setting_runTest t options)
  | debugAtPoint p options => exact kept (setting_atPoint fun s t => s.setting_runTest t _)
  | runLast options => exact kept (s.setting_runLast options)
  | stop id => exact kept (s.setting_stop id)
  | select t => exact kept (s.setting_select t)
  | selectAtPoint p => exact kept (s.setting_selectAtPoint p)
  | clearSelected => rfl
  | runSelected options => exact kept (s.setting_runSelected options)
  | counterpart file => exact kept (s.setting_counterpart file)
  | meanwhile world => exact alone world rfl

theorem registry_play {ops : List Operation} (alone : s.RegistersAlone ops) :
    (ops.foldl perform s).registry =
      s.registry.registerAll (ops.filterMap Operation.registered) := by
  induction ops generalizing s with
  | nil => rfl
  | cons op rest ih =>
    obtain ⟨here, later⟩ := alone
    rw [List.foldl_cons, ih later, registry_perform here, ← Registry.registerAll_append]
    cases register : op.registered with
    | none => rw [List.filterMap_cons_none register, Option.toList_none, List.nil_append]
    | some e => rw [List.filterMap_cons_some register, Option.toList_some, List.singleton_append]

@[simp] theorem registry_create (config : Config) (given : Option Registry) (tree : FileTree)
    (environment : Environment) (width : Nat) :
    (create config given tree environment width).registry = registryFor config given := rfl

/-- A registry that is given to a new session is used unless it is empty. The profiles that are
registered later hide that it was replaced exactly if every language of the configuration is
among them. -/
theorem find?_registryFor {config : Config} {given : Registry} {ps : List (String × Profile)} :
    (∀ tag, ((registryFor config (some given)).registerAll ps).find? tag =
      (given.registerAll ps).find? tag) ↔
    given.entries ≠ [] ∨ ∀ e ∈ config.languages, e.1 ∈ ps.map (·.1) := by
  obtain ⟨entries⟩ := given
  cases entries with
  | cons e rest =>
    have used : registryFor config (some ⟨e :: rest⟩) = ⟨e :: rest⟩ := rfl
    simp [used]
  | nil =>
    have replaced : registryFor config (some ⟨[]⟩) = .ofList config.languages := rfl
    rw [replaced, Registry.find?_registerAll_congr]
    simp only [ne_eq, not_true_eq_false, false_or]
    have known (tag : String) : (Registry.ofList config.languages).find? tag ≠ none ↔
        ∃ e ∈ config.languages, e.1 = tag := by
      rw [Registry.ofList, Registry.find?_registerAll, ne_eq, Option.or_eq_none_iff,
        Registry.lookup_reverse_eq_none_iff]
      simp [Registry.find?]
    have bare (tag : String) : (⟨[]⟩ : Registry).find? tag = none := rfl
    simp only [bare, known]
    constructor
    · intro hidden e mem
      exact hidden e.1 ⟨e, mem, rfl⟩
    · rintro hidden tag ⟨e, mem, rfl⟩
      exact hidden e mem

/-! ## Answers -/

/-- The answers of a session are those that the profiles of a registry give. -/
structure Consults (s : Session) (r : Registry) : Prop where
  /-- The language of a file. -/
  language : ∀ file given, s.languageOf file given = Source.languageOf r file given
  /-- The patterns that tests are looked for with. -/
  patterns : ∀ file lines given source, s.source file lines given = .ok source →
    ∃ p, r.find? source.language = some p ∧
      (∀ cursor, source.bareNearest cursor =
        Detection.nearest source.lines cursor p.patterns source.file source.language) ∧
      source.bareAll = Detection.all source.lines p.patterns source.file source.language
  /-- The strategy for what encloses a test that is looked up, -/
  lookup : ∀ file lines cursor given, (s.locate file lines cursor given).2 =
    Source.ofFile s.tree r file lines given >>= fun source => source.nearest r cursor
  /-- and for each test of a list. -/
  listing : ∀ file lines given, (s.findAll file lines given).2 =
    match Source.ofFile s.tree r file lines given with
    | .ok source => source.all r
    | .error why => if why.isConfiguration then .ok [] else .error why
  /-- The templates and the markers for a command, and the markers for its directory. -/
  job : ∀ t options j, s.jobOf options t = some j ↔
    s.world.hasLoop ∧ ∃ p mode command directory, r.find? t.language = some p ∧
      Mode.ofValue options.mode = .ok mode ∧
      Command.build s.tree p t mode none = .ok command ∧
      WorkingDirectory.resolve s.tree r s.world.engine.config.directory t options.directory =
        .ok directory ∧
      j = ({ command, test := t, options } : Job).asRunning directory s.world.moment
  /-- The rules that tell tests from other files. -/
  counterpart : ∀ file, (s.counterpart file).2 =
    Counterpart.of s.tree r (Path.resolve s.tree.current (Path.parse file))

theorem commandFor_eq_ok {t : TestInfo} {v : Value} {command : List String} :
    (s.commandFor t v).2 = .ok command ↔
      ∃ p mode, s.registry.find? t.language = some p ∧ Mode.ofValue v = .ok mode ∧
        Command.build s.tree p t mode none = .ok command := by
  simp only [← Registry.get_eq_ok]
  unfold commandFor
  split <;> simp_all

theorem jobOf_eq_some {t : TestInfo} {options : RunOptions} {j : Job} :
    s.jobOf options t = some j ↔
      ∃ command directory, s.clearance t options = .ok (command, directory) ∧
        j = ({ command, test := t, options } : Job).asRunning directory s.world.moment := by
  cases cleared : s.clearance t options with
  | error why => simp [jobOf_of_error cleared]
  | ok needs =>
    obtain ⟨command, directory⟩ := needs
    rw [jobOf_of_ok cleared, Option.some_inj]
    constructor
    · rintro rfl
      exact ⟨command, directory, rfl, rfl⟩
    · rintro ⟨command', directory', same, rfl⟩
      obtain ⟨rfl, rfl⟩ := Prod.mk.inj (Except.ok.inj same)
      rfl

theorem clearance_eq_ok {t : TestInfo} {options : RunOptions} {command : List String}
    {directory : Path} :
    s.clearance t options = .ok (command, directory) ↔
      s.world.hasLoop ∧ (s.commandFor t options.mode).2 = .ok command ∧
        WorkingDirectory.resolve s.tree s.registry s.world.engine.config.directory t
          options.directory = .ok directory := by
  unfold clearance
  rw [Except.bind_eq_ok]
  by_cases looped : s.world.hasLoop
  · simp [looped, Except.map_eq_ok]
  · simp [looped]

/-- A session consults its registry, whatever it is asked for. -/
theorem consults_registry (s : Session) : s.Consults s.registry := by
  constructor
  case language => exact fun _ _ => rfl
  case patterns =>
    intro file lines given source opened
    obtain ⟨tag, -, opened⟩ := Except.bind_eq_ok.mp opened
    obtain ⟨p, known, opened⟩ := Except.bind_eq_ok.mp opened
    obtain ⟨buffer, -, opened⟩ := Except.bind_eq_ok.mp opened
    obtain rfl := Except.ok.inj opened
    exact ⟨p, Registry.get_eq_ok.mp known, fun _ => rfl, rfl⟩
  case lookup => exact s.locate_answer
  case listing =>
    intro file lines given
    cases opened : s.source file lines given with
    | error why =>
      have failed : Source.ofFile s.tree s.registry file lines given = .error why := opened
      simp only [findAll, opened, failed]
      split <;> rfl
    | ok source =>
      have done : Source.ofFile s.tree s.registry file lines given = .ok source := opened
      rw [findAll_of_source opened, done]
  case job =>
    intro t options j
    simp only [jobOf_eq_some, clearance_eq_ok, commandFor_eq_ok]
    constructor
    · rintro ⟨command, directory, ⟨looped, ⟨p, mode, known, named, built⟩, place⟩, made⟩
      exact ⟨looped, p, mode, command, directory, known, named, built, place, made⟩
    · rintro ⟨looped, p, mode, command, directory, known, named, built, place, made⟩
      exact ⟨command, directory, ⟨looped, ⟨p, mode, known, named, built⟩, place⟩, made⟩
  case counterpart =>
    intro file
    unfold counterpart
    lift_lets
    intro path said
    have same : Counterpart.of said.tree said.registry path =
      Counterpart.of s.tree s.registry path := rfl
    cases found : Counterpart.of s.tree s.registry path with
    | error why => rw [same, found]
    | ok other => cases other <;> rw [same, found]

/-- A session has one registry. Whatever a new session is asked for, if all profiles are
registered by the session itself, every later answer is that of the registry it was made with
and the profiles registered since. The registry that was given is used unless it is empty. The
one that takes the place of an empty registry holds the languages of the configuration, so it
has the same profiles in the end exactly if each of these was registered anew. -/
theorem consults_given (config : Config) (given : Registry) (tree : FileTree)
    (environment : Environment) (width : Nat) (ops : List Operation)
    (alone : (create config (some given) tree environment width).RegistersAlone ops) :
    let s := ops.foldl perform (create config (some given) tree environment width)
    let registered := ops.filterMap Operation.registered
    s.Consults ((registryFor config (some given)).registerAll registered) ∧
    (given.entries ≠ [] ∨ config.languages = [] → s.Consults (given.registerAll registered)) ∧
    ((∀ tag, s.registry.find? tag = (given.registerAll registered).find? tag) ↔
      given.entries ≠ [] ∨ ∀ e ∈ config.languages, e.1 ∈ registered.map (·.1)) := by
  intro s registered
  have held : s.registry = (registryFor config (some given)).registerAll registered :=
    registry_play alone
  have consults : s.Consults ((registryFor config (some given)).registerAll registered) :=
    held ▸ s.consults_registry
  refine ⟨consults, fun harmless => ?_, held ▸ find?_registryFor⟩
  have used : registryFor config (some given) = given := by
    obtain ⟨entries⟩ := given
    cases entries with
    | cons e rest => rfl
    | nil =>
      have bare : config.languages = [] := harmless.resolve_left fun some => some rfl
      rw [registryFor, bare]
      rfl
  exact used ▸ consults

/-! A session that is given a registry with the Go language under another tag, and one that is
given an empty registry. -/

def golangRegistry : Registry := ⟨[("golang", goProfile)]⟩

def golangNew : Session :=
  create { languages := [("go", goProfile)] } (some golangRegistry) goSession.tree [] 80

def emptyNew : Session :=
  create { languages := [("go", goProfile)] } (some {}) goSession.tree [] 80

/-- The language of the configuration is not known, and the one registered later is. -/
theorem consults_given_golang :
    golangNew.RegistersAlone [.clearSelected, .register "zig" goProfile] ∧
    ([.clearSelected, .register "zig" goProfile].foldl perform golangNew).Consults
      (golangRegistry.registerAll [("zig", goProfile)]) := by
  have alone : golangNew.RegistersAlone [.clearSelected, .register "zig" goProfile] := by
    refine ⟨?_, ?_, trivial⟩ <;> (intro world same; cases same)
  exact ⟨alone, (consults_given _ golangRegistry _ _ _ _ alone).2.1 (.inl (by decide))⟩

/-- The session that is given an empty registry knows the language of the configuration, which
the given registry does not. -/
theorem not_consults_given_empty :
    emptyNew.languageOf "sum_test.go" none = .ok "go" ∧
    Source.languageOf {} "sum_test.go" none =
      .error (.misconfigured (.unknownKind "sum_test.go")) ∧
    ¬ emptyNew.Consults {} := by
  have known : emptyNew.languageOf "sum_test.go" none = .ok "go" :=
    Except.toOption_eq_some.mp (by decide +kernel)
  refine ⟨known, rfl, fun consults => ?_⟩
  rw [consults.language] at known
  cases known

end Session

end Proctor
