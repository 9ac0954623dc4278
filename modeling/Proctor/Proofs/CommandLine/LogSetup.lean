import Proctor.Machine.Process
import Proctor.Proofs.CommandLine.LogOptions

/-!
# The setup of the log

The log is set up up to three times in a call: by the options of the tool, by those of the
command, and once the configuration is loaded; what a command does with its session leaves it
alone. The tool and the command both look into the environment, so its options come between a
command's own and the tool's; and only the level of a command is kept for the last setup, which
is made only where no level was given before.
-/

namespace Proctor.CommandLine

variable {d d' : Desk} {s : Session} {own : LogOptions} {config : Config} {exit : Exit}

/-! ## What changes the setup -/

namespace Desk

/-- When a session is opened, the log is set up anew if the configuration is to say how. -/
theorem exists_openSession {given : Option Path}
    (loaded : Config.load d.tree d.call.environment (d.configPath given) none = .ok config) :
    ∃ d' s, d.openSession given = (d', .ok s) ∧
      d'.setup = (d.shared.setupFor config.logLevel).getD d.setup := by
  have shared (records : List Log.Record) : (d.log records).shared = d.shared := rfl
  unfold openSession loadConfig
  rw [loaded]
  dsimp only
  rw [shared]
  cases d.shared.setupFor config.logLevel with
  | none => exact ⟨_, _, rfl, rfl⟩
  | some setup => exact ⟨_, _, rfl, rfl⟩

theorem setup_printCommand (d : Desk) (s : Session) (t : TestInfo) (mode : Value) :
    (d.printCommand s t mode).1.setup = d.setup := by
  unfold printCommand
  dsimp only
  split
  · rfl
  · split <;> rfl

theorem setup_tellRun (d : Desk) (t : TestInfo) (ran : Session × Except Error (Option Nat)) :
    (d.tellRun t ran).1.setup = d.setup := by
  unfold tellRun
  split <;> rfl

theorem setup_of_reach_ok {r : RunRequest} {d₁ : Desk} {s₁ : Session} {t : TestInfo}
    (opened : (d.configureFor own).openSession r.config = (d', .ok s))
    (reached : d.reach own r = .ok (d₁, s₁, t)) : d₁.setup = d'.setup := by
  unfold reach at reached
  rw [opened] at reached
  dsimp only at reached
  split at reached
  · cases reached
  · split at reached
    · split at reached <;> cases reached
    · cases reached
    · cases reached
      rfl

theorem setup_of_reach_error {r : RunRequest} {ended : Desk × Exit}
    (opened : (d.configureFor own).openSession r.config = (d', .ok s))
    (missed : d.reach own r = .error ended) : ended.1.setup = d'.setup := by
  unfold reach at missed
  rw [opened] at missed
  dsimp only at missed
  split at missed
  · cases missed
    rfl
  · split at missed
    · split at missed
      · cases missed
        rfl
      · cases missed
        rfl
    · cases missed
      rfl
    · cases missed

theorem setup_run [Host] {r : RunRequest}
    (opened : (d.configureFor own).openSession r.config = (d', .ok s)) :
    (d.run own r).1.setup = d'.setup := by
  unfold run runIn
  split
  · rename_i ended missed
    exact setup_of_reach_error opened missed
  · rename_i d₁ s₁ t reached
    have same := setup_of_reach_ok opened reached
    split
    · exact (setup_printCommand _ _ _ _).trans same
    · exact (setup_tellRun _ _ _).trans same

theorem setup_list {r : FileRequest}
    (opened : (d.configureFor own).openSession r.config = (d', .ok s)) :
    (d.list own r).1.setup = d'.setup := by
  have printed (tests : List TestInfo) (d : Desk) :
      (tests.foldl (fun d t => d.print (entryOf t)) d).setup = d.setup := by
    induction tests generalizing d with
    | nil => rfl
    | cons t rest ih => exact ih _
  unfold list
  rw [opened]
  dsimp only
  split
  · rfl
  · rfl
  · exact printed _ _

theorem setup_switch {r : FileRequest}
    (opened : (d.configureFor own).openSession r.config = (d', .ok s)) :
    (d.switch own r).1.setup = d'.setup := by
  unfold switch
  rw [opened]
  dsimp only
  cases s.counterpart r.file.text with
  | mk s₁ found =>
    dsimp only
    split
    · rfl
    · rfl
    · rfl

theorem setup_selectTargets (language : Option String) (targets : List Target) (d : Desk)
    (s : Session) : (selectTargets language targets d s).1.setup = d.setup := by
  induction targets generalizing d s with
  | nil => rfl
  | cons target rest ih =>
    rw [selectTargets]
    split
    · rfl
    · rename_i s' sighting _
      dsimp only
      rw [ih]
      split <;> rfl

theorem setup_runSelected [Host] (d : Desk) (s : Session) (options : RunOptions) :
    (d.runSelected s options).1.setup = d.setup := by
  unfold runSelected
  split <;> rfl

theorem setup_batch [Host] {r : BatchRequest} {targets : List Target}
    (parsed : r.targets.mapM Target.parse = .ok targets)
    (opened : (d.configureFor own).openSession r.config = (d', .ok s)) :
    (d.batch own r).1.setup = d'.setup := by
  have selected := setup_selectTargets r.language targets d' s
  unfold batch
  rw [parsed]
  dsimp only
  rw [opened]
  dsimp only
  split
  · rename_i d₁ why chose
    rw [chose] at selected
    exact selected
  · rename_i d₁ s₁ chose
    rw [chose] at selected
    split
    · exact selected
    · exact (setup_runSelected _ _ _).trans selected

/-- Once a session is loaded, its command leaves the setup of the log as it is. -/
theorem setup_perform [Host] {verb : Verb} {rs : Readings} (session : verb ≠ .showConfig)
    (hasTargets : verb = .batch → ∃ targets, (rs.texts .targets).mapM Target.parse = .ok targets)
    (opened : (d.configureFor (.ofReadings rs)).openSession (rs.path? .config) = (d', .ok s)) :
    (d.perform verb rs).1.setup = d'.setup := by
  cases verb with
  | run =>
    rw [perform]
    exact setup_run (r := .ofReadings rs) opened
  | list =>
    rw [perform]
    exact setup_list (r := .ofReadings rs) opened
  | switch =>
    rw [perform]
    exact setup_switch (r := .ofReadings rs) opened
  | batch =>
    obtain ⟨targets, parsed⟩ := hasTargets rfl
    have same := setup_batch (r := .ofReadings rs) parsed opened
    rw [perform]
    cases ended : d.batch (.ofReadings rs) (.ofReadings rs) with
    | mk d₁ outcome =>
      rw [ended] at same
      cases outcome with
      | ok exit => exact same
      | error why => exact same
  | showConfig => exact absurd rfl session

end Desk

/-! ## Sources in their order -/

/-- The rank of a level; an unknown level counts as that of warnings. -/
def rankOf (level : String) : Nat := (Log.rankNamed? level).getD 30

theorem rank_ofLevel (level : String) (json : Bool) (file : Option Path) :
    (Log.Setup.ofLevel level json file).rank = rankOf level := by
  unfold Log.Setup.ofLevel rankOf
  cases Log.rankNamed? level <;> rfl

theorem json_ofLevel (level : String) (json : Bool) (file : Option Path) :
    (Log.Setup.ofLevel level json file).json = json := by
  unfold Log.Setup.ofLevel
  cases Log.rankNamed? level <;> rfl

theorem file_ofLevel (level : String) (json : Bool) (file : Option Path) :
    (Log.Setup.ofLevel level json file).file = file := by
  unfold Log.Setup.ofLevel
  cases Log.rankNamed? level <;> rfl

/-- The setup that options ask for; without a level in them that of the configuration counts. -/
def LogOptions.setup (o : LogOptions) (configured : String) : Log.Setup :=
  .ofLevel (o.level.getD configured) (o.json.getD false) o.file

/-- Do two setups have the same effect? By which name the level was asked for does not count. -/
def SameEffect (a b : Log.Setup) : Prop := a.rank = b.rank ∧ a.json = b.json ∧ a.file = b.file

/-- The setup of the log once a session is loaded. -/
def SharedLog.settled (shared : SharedLog) (own : LogOptions) (configured : String) : Log.Setup :=
  ((shared.withLevelOf own).setupFor configured).getD ((shared.withLevelOf own).setup own)

/-- With a level from anywhere all options count, a command's own before the tool's; without one
those of the tool alone. -/
theorem settled_ofOptions (tool own : LogOptions) (configured : String) :
    (SharedLog.ofOptions tool).settled own configured =
      if (own.or tool).level.isSome then (own.or tool).setup configured
      else tool.setup configured := by
  obtain ⟨level, file, json⟩ := tool
  obtain ⟨level', file', json'⟩ := own
  cases level <;> cases level' <;> cases json <;> cases json' <;> rfl

theorem sameEffect_setup {a b : LogOptions} {configured : String} :
    SameEffect (a.setup configured) (b.setup configured) ↔
      rankOf (a.level.getD configured) = rankOf (b.level.getD configured) ∧
        a.json.getD false = b.json.getD false ∧ a.file = b.file := by
  simp only [SameEffect, LogOptions.setup, rank_ofLevel, json_ofLevel, file_ofLevel]

/-- The third source may come before the second one only where the first one decides or the
second and the third do not differ. -/
theorem apply_or_iff {α β : Type} (effect : Option α → β) (o t e : Option α) :
    effect ((o.or e).or (t.or e)) = effect (o.or (t.or e)) ↔
      (o = none → ∀ a ∈ t, ∀ b ∈ e, effect (some a) = effect (some b)) := by
  cases o <;> cases t <;> cases e <;> simp [eq_comm]

/-- The setup has the effect that the sources ask for in their order exactly if they do not
dispute it: where the command gives no option itself, tool and environment give the same, and
where nothing gives a level, the command gives nothing that they do not. -/
theorem sameEffect_settled_iff (own tool env : LogOptions) (configured : String) :
    SameEffect ((SharedLog.ofOptions (tool.or env)).settled (own.or env) configured)
        ((own.or (tool.or env)).setup configured) ↔
      (own.level = none → ∀ a ∈ tool.level, ∀ b ∈ env.level, rankOf a = rankOf b) ∧
      if (own.or (tool.or env)).level.isSome then
        (own.json = none → ∀ a ∈ tool.json, ∀ b ∈ env.json, a = b) ∧
          (own.file = none → ∀ a ∈ tool.file, ∀ b ∈ env.file, a = b)
      else
        (∀ a ∈ own.json, a = (tool.or env).json.getD false) ∧
          ∀ a ∈ own.file, (tool.or env).file = some a := by
  have levels : ((own.or env).or (tool.or env)).level.isSome =
      (own.or (tool.or env)).level.isSome := by
    simp only [LogOptions.or]
    cases own.level <;> cases tool.level <;> cases env.level <;> rfl
  rw [settled_ofOptions, levels]
  split
  · rw [sameEffect_setup]
    refine and_congr ?_ (and_congr ?_ ?_)
    · exact apply_or_iff (fun level => rankOf (level.getD configured)) _ _ _
    · exact apply_or_iff (fun json => json.getD false) _ _ _
    · exact (apply_or_iff (fun file => file) _ _ _).trans (by simp)
  · rename_i unset
    obtain ⟨⟨ownUnset, toolUnset⟩, envUnset⟩ :
        (own.level = none ∧ tool.level = none) ∧ env.level = none := by
      simpa [LogOptions.or, and_assoc] using unset
    rw [sameEffect_setup]
    refine and_congr ?_ (and_congr ?_ ?_)
    · simp [LogOptions.or, ownUnset, toolUnset, envUnset]
    · cases given : own.json <;> simp [LogOptions.or, given, eq_comm]
    · cases given : own.file <;> simp [LogOptions.or, given]

/-! ## Calls that load a session -/

theorem toolVerb_ne_showConfig {name : String} {verb : Verb}
    (named : Form.toolVerb? name = some verb) : verb ≠ .showConfig := by
  have values : ∀ v ∈ [("run", Verb.run), ("batch", .batch), ("list", .list), ("switch", .switch)],
      v.2 ≠ .showConfig := by decide
  obtain ⟨before, after, entries, -⟩ := List.lookup_eq_some_iff.mp named
  exact values (name, verb) (entries ▸ List.mem_append_right _ List.mem_cons_self)

/-- A command is named only where there are words. -/
theorem words_ne_nil {setting : Setting} {words spare : List String} {f : Form} {rs : Readings}
    (read : f.read setting words = .readings rs spare) (named : spare ≠ []) : words ≠ [] := by
  rintro rfl
  obtain ⟨scan, scanned, -, rfl⟩ := Form.exists_scan_of_read read
  obtain rfl := Except.ok.inj scanned
  exact named List.drop_nil

theorem logs_tool : ∀ p ∈ Parameter.logging,
    p ∈ Form.tool.parameters ∧ ∀ q ∈ Form.tool.parameters, q.key = p.key → q = p := by
  decide

theorem logs_ofVerb (verb : Verb) : ∀ p ∈ Parameter.logging,
    p ∈ (Form.ofVerb verb).parameters ∧
      ∀ q ∈ (Form.ofVerb verb).parameters, q.key = p.key → q = p := by
  cases verb <;> decide

theorem isGroup_ofVerb (verb : Verb) : (Form.ofVerb verb).isGroup = false := by
  cases verb <;> rfl

/-- A call of a command that loads a session, with what is read on the way. -/
structure Invocation (c : Call) where
  verb : Verb
  /-- The options of the tool, and those of the command, as they stand in the words. -/
  tool : Scan
  own : Scan
  toolReadings : Readings
  readings : Readings
  name : String
  rest : List String
  spare : List String
  config : Config
  readsTool : Form.tool.read ⟨c.tree, c.environment⟩ c.words = .readings toolReadings (name :: rest)
  scansTool : Scan.ofWords Form.tool.parameters true false c.words = .ok tool
  isVerb : Form.toolVerb? name = some verb
  reads : (Form.ofVerb verb).read ⟨c.tree, c.environment⟩ rest = .readings readings spare
  scans : Scan.ofWords (Form.ofVerb verb).parameters false false rest = .ok own
  loads : Config.load c.tree c.environment
    ((Desk.ofCall c).configPath (readings.path? .config)) none = .ok config
  hasTargets : verb = .batch → ∃ targets, (readings.texts .targets).mapM Target.parse = .ok targets

namespace Invocation

variable {c : Call} (i : Invocation c)

/-- The options on the log that are given to the command. -/
def ownOptions : LogOptions := .given c.tree i.own

/-- The options on the log that are given to the tool. -/
def toolOptions : LogOptions := .given c.tree i.tool

/-- The options on the log that the environment gives. -/
def environmentOptions (_ : Invocation c) : LogOptions := .ofEnvironment c.tree c.environment

/-- The setup that the sources ask for in their order: the command, the tool, the environment,
the configuration, which has a level of its own if its file gives none. -/
def wanted : Log.Setup :=
  (i.ownOptions.or (i.toolOptions.or i.environmentOptions)).setup i.config.logLevel

theorem ofReadings_tool :
    LogOptions.ofReadings i.toolReadings = i.toolOptions.or i.environmentOptions :=
  LogOptions.ofReadings_eq logs_tool i.readsTool i.scansTool

theorem ofReadings_own :
    LogOptions.ofReadings i.readings = i.ownOptions.or i.environmentOptions :=
  LogOptions.ofReadings_eq (logs_ofVerb i.verb) i.reads (isGroup_ofVerb i.verb ▸ i.scans)

/-- The desk at which the command begins. -/
def begun : Desk := (Desk.ofCall c).begin (.ofReadings i.toolReadings)

theorem setup_perform [Host] : (i.begun.perform i.verb i.readings).1.setup =
    (SharedLog.ofOptions (.ofReadings i.toolReadings)).settled (.ofReadings i.readings)
      i.config.logLevel := by
  have loads : Config.load (i.begun.configureFor (.ofReadings i.readings)).tree c.environment
      ((i.begun.configureFor (.ofReadings i.readings)).configPath (i.readings.path? .config)) none =
      .ok i.config := i.loads
  obtain ⟨d', s, opened, setup⟩ := Desk.exists_openSession loads
  have settled : d'.setup = (SharedLog.ofOptions (.ofReadings i.toolReadings)).settled
      (.ofReadings i.readings) i.config.logLevel := setup
  rw [← settled]
  exact Desk.setup_perform (toolVerb_ne_showConfig i.isVerb) i.hasTargets opened

theorem work_eq [Host] : (work c).1 = (i.begun.perform i.verb i.readings).1 := by
  have readsTool : Form.tool.read (Desk.ofCall c).setting c.words =
      .readings i.toolReadings (i.name :: i.rest) := i.readsTool
  have reads : (Form.ofVerb i.verb).read i.begun.setting i.rest =
      .readings i.readings i.spare := i.reads
  have some : c.words.isEmpty = false := by
    simpa using words_ne_nil i.readsTool (List.cons_ne_nil _ _)
  have other : i.name ≠ "config" := by
    intro same
    have named := i.isVerb
    rw [same] at named
    cases named
  rw [work, some, if_neg Bool.false_ne_true, readsTool]
  dsimp only
  rw [Desk.dispatch.eq_3 _ _ _ _ (by simpa using other), i.isVerb]
  dsimp only
  rw [← begun, Desk.command, reads]

end Invocation

/-- Once a session is loaded, the log is set up as the sources ask for in their order exactly if
the tool and the environment give the same where the command gives nothing, and, where no level
is given at all, the command gives no more than they do. -/
theorem log_precedence_iff [Host] {c : Call} (i : Invocation c) :
    SameEffect (work c).1.setup i.wanted ↔
      (i.ownOptions.level = none → ∀ a ∈ i.toolOptions.level, ∀ b ∈ i.environmentOptions.level,
        rankOf a = rankOf b) ∧
      if (i.ownOptions.or (i.toolOptions.or i.environmentOptions)).level.isSome then
        (i.ownOptions.json = none → ∀ a ∈ i.toolOptions.json, ∀ b ∈ i.environmentOptions.json,
          a = b) ∧
        (i.ownOptions.file = none → ∀ a ∈ i.toolOptions.file, ∀ b ∈ i.environmentOptions.file,
          a = b)
      else
        (∀ a ∈ i.ownOptions.json, a = (i.toolOptions.or i.environmentOptions).json.getD false) ∧
          ∀ a ∈ i.ownOptions.file, (i.toolOptions.or i.environmentOptions).file = some a := by
  rw [i.work_eq, i.setup_perform, i.ofReadings_tool, i.ofReadings_own]
  exact sameEffect_settled_iff _ _ _ _

/-! Calls that list the tests of a file with nothing in it. -/

def emptyFile : FileTree := ⟨.directory [("t.py", .file [] false)], ⟨.slash, []⟩⟩

def listCall (environment : Environment) (words : List String) : Call :=
  ⟨words, environment, emptyFile, ""⟩

def debugging : Environment := [("TESTATPOINT_LOG_LEVEL", "debug")]

theorem isSome_load_emptyFile : ∀ environment ∈ [[], debugging],
    (Config.load emptyFile environment none none).toOption.isSome := by
  decide +kernel

theorem exists_invocation (environment : Environment) (words rest : List String)
    (tool own : Scan) (toolReadings readings : Readings)
    (known : environment ∈ [[], debugging])
    (readsTool : (Form.tool.read ⟨emptyFile, environment⟩ words).values? =
      some (toolReadings, "list" :: rest))
    (scansTool : (Scan.ofWords Form.tool.parameters true false words).toOption = some tool)
    (reads : ((Form.ofVerb .list).read ⟨emptyFile, environment⟩ rest).values? =
      some (readings, []))
    (scans : (Scan.ofWords (Form.ofVerb .list).parameters false false rest).toOption = some own)
    (usual : readings.path? .config = none) :
    ∃ i : Invocation (listCall environment words), i.ownOptions = .given emptyFile own ∧
      i.toolOptions = .given emptyFile tool ∧
      i.environmentOptions = .ofEnvironment emptyFile environment := by
  have absent : (Desk.ofCall (listCall environment words)).configPath none = none := rfl
  obtain ⟨config, loaded⟩ := Option.isSome_iff_exists.mp (isSome_load_emptyFile _ known)
  exact ⟨{
    verb := .list
    tool, own, toolReadings, readings, rest, config
    name := "list"
    spare := []
    readsTool := Read.eq_of_values? readsTool
    scansTool := Except.toOption_eq_some.mp scansTool
    isVerb := rfl
    reads := Read.eq_of_values? reads
    scans := Except.toOption_eq_some.mp scans
    loads := by rw [usual, absent]; exact Except.toOption_eq_some.mp loaded
    hasTargets := nofun }, rfl, rfl, rfl⟩

/-- With a level from anywhere, an option of the command counts. -/
theorem log_precedence_iff_debug :
    ∃ i : Invocation (listCall [] ["-l", "debug", "list", "t.py", "--json-logs"]),
      SameEffect (work (listCall [] ["-l", "debug", "list", "t.py", "--json-logs"])).1.setup
        i.wanted := by
  obtain ⟨i, own, tool, env⟩ := exists_invocation []
    ["-l", "debug", "list", "t.py", "--json-logs"] ["t.py", "--json-logs"]
    ⟨[⟨.logLevel, some "debug"⟩], ["list", "t.py", "--json-logs"]⟩
    ⟨[⟨.jsonLogs, none⟩], ["t.py"]⟩ [(.logLevel, .text "DEBUG")]
    [(.jsonLogs, .truth true), (.file, .path ⟨.relative, ["t.py"]⟩)]
    (by decide) (by decide +kernel) (by decide +kernel) (by decide +kernel) (by decide +kernel)
    (by decide)
  refine ⟨i, (log_precedence_iff i).mpr ?_⟩
  rw [own, tool, env]
  decide +kernel

/-- Without a level the option of the command is dropped, and the level that the tool is given
is not that of the log where the environment has another. -/
theorem log_precedence_broken :
    (∃ i : Invocation (listCall [] ["list", "t.py", "--json-logs"]),
      ¬ SameEffect (work (listCall [] ["list", "t.py", "--json-logs"])).1.setup i.wanted) ∧
    ∃ i : Invocation (listCall debugging ["-l", "error", "list", "t.py"]),
      ¬ SameEffect (work (listCall debugging ["-l", "error", "list", "t.py"])).1.setup
        i.wanted := by
  constructor
  · obtain ⟨i, own, tool, env⟩ := exists_invocation []
      ["list", "t.py", "--json-logs"] ["t.py", "--json-logs"]
      ⟨[], ["list", "t.py", "--json-logs"]⟩ ⟨[⟨.jsonLogs, none⟩], ["t.py"]⟩ []
      [(.jsonLogs, .truth true), (.file, .path ⟨.relative, ["t.py"]⟩)]
      (by decide) (by decide +kernel) (by decide +kernel) (by decide +kernel) (by decide +kernel)
      (by decide)
    refine ⟨i, ?_⟩
    rw [i.work_eq, i.setup_perform, i.ofReadings_tool, i.ofReadings_own, Invocation.wanted,
      sameEffect_settled_iff, own, tool, env]
    decide +kernel
  · obtain ⟨i, own, tool, env⟩ := exists_invocation debugging
      ["-l", "error", "list", "t.py"] ["t.py"]
      ⟨[⟨.logLevel, some "error"⟩], ["list", "t.py"]⟩ ⟨[], ["t.py"]⟩
      [(.logLevel, .text "ERROR")]
      [(.file, .path ⟨.relative, ["t.py"]⟩), (.logLevel, .text "DEBUG")]
      (by decide) (by decide +kernel) (by decide +kernel) (by decide +kernel) (by decide +kernel)
      (by decide)
    refine ⟨i, ?_⟩
    rw [i.work_eq, i.setup_perform, i.ofReadings_tool, i.ofReadings_own, Invocation.wanted,
      sameEffect_settled_iff, own, tool, env]
    decide +kernel

end Proctor.CommandLine
