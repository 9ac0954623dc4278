import Proctor.Engine.World
import Proctor.Journal.Building
import Proctor.Journal.Lookup

/-!
# Sessions

A session is the tool as an editor or a command uses it: an engine with a registry,
and two registers, the *last test* and the *selected tests*. Every operation answers
with the session after it, also when it fails. Errors of configuration and of
building are not passed on by the operations that run or select tests: they become
records of the journal, and the operation answers that nothing was done.
-/

namespace Proctor

/-- The state of the tool. -/
structure Session where
  world : World
  /-- The test of the latest attempt to run one, whatever came of it. -/
  last : Option TestInfo := none
  /-- The selected tests, in the order of their selection. -/
  selected : List TestInfo := []

namespace Session

/-- The part of the tool that speaks in the journal. -/
def logger : String := "session"

/-- The profiles that are known. -/
def registry (s : Session) : Registry := s.world.registry

/-- The files there are. -/
def tree (s : Session) : FileTree := s.world.tree

/-- The session with more records in its journal. -/
def say (s : Session) (records : List Log.Record) : Session :=
  { s with world := { s.world with engine := s.world.engine.say records } }

/-- The session with one more record of its own. -/
def note (s : Session) (level : Log.Level) (event : String) (entries : Log.Entries) : Session :=
  s.say [.plain level logger event entries]

/-- The registry of a session: the given one, unless it is empty, or else that of the
configuration. -/
def registryFor (config : Config) (given : Option Registry) : Registry :=
  match given.filter (!·.entries.isEmpty) with
  | some registry => registry
  | none => .ofList config.languages

/-- What is said about a profile that is registered. -/
def registration (tag : String) (replaced : Bool) : Log.Record :=
  .plain .debug "config.registry" "Registered language profile"
    [("language", .text tag), ("replaced", .bool replaced)]

/-- A fresh session. -/
def create (config : Config) (given : Option Registry) (tree : FileTree)
    (environment : Environment) (width : Nat) : Session :=
  let registry := registryFor config given
  let s : Session := { world := { engine := { config, width }, registry, tree, environment } }
  ((s.say (registry.tags.map fun tag => registration tag false)).say
    [.plain .debug Engine.logger "ExecutionEngine initialized." []]).note .debug
      "Session initialized" [("languages", .list (registry.sortedTags.map .text))]

/-- Register a profile under a tag. -/
def register (s : Session) (tag : String) (p : Profile) : Session :=
  let s := s.say [registration tag (s.registry.contains tag)]
  { s with world := { s.world with registry := s.registry.register tag p } }

/-- The language of a file. -/
def languageOf (s : Session) (file : String) (language : Option String) : Except Error String :=
  Source.languageOf s.registry file language

/-! ## Looking for tests -/

/-- The source of a file. -/
def source (s : Session) (file : String) (lines : Option (List String))
    (language : Option String) : Except Error Source :=
  Source.ofFile s.tree s.registry file lines language

/-- The test that governs a line of a file. -/
def locate (s : Session) (file : String) (lines : Option (List String)) (cursor : Int)
    (language : Option String) : Session × Except Error (Option TestInfo) :=
  match s.source file lines language with
  | .error e => (s, .error e)
  | .ok source =>
    ((s.say (Journal.ofNearest source cursor)).say
      (((source.bareNearest cursor).map (Journal.ofContext source s.registry)).getD []),
     source.nearest s.registry cursor)

/-- All tests of a file. A file without a language, or whose language has no profile,
has none. -/
def findAll (s : Session) (file : String) (lines : Option (List String))
    (language : Option String) : Session × Except Error (List TestInfo) :=
  let path := Value.text (Path.resolve s.tree.current (Path.parse file)).text
  match s.source file lines language with
  | .error e =>
    if e.isConfiguration then
      (s.note .warning "No configuration found for file"
        [("file", path), ("error", .text e.message)], .ok [])
    else (s, .error e)
  | .ok source =>
    let s := s.say (Journal.ofAll source)
    let s := if source.bareAll.isEmpty then
        s.note .warning "No tests found in file" [("file", path)]
      else s
    (s.say (Journal.ofContexts source s.registry source.bareAll), source.all s.registry)

/-! ## Running tests -/

/-- The command for a test, and what is said while it is built. -/
def commandFor (s : Session) (t : TestInfo) (mode : Value) :
    List Log.Record × Except Error (List String) :=
  match s.registry.get t.language, Mode.ofValue mode with
  | .ok p, .ok mode => (Journal.ofCommand s.tree p t mode, Command.build s.tree p t mode none)
  | .error e, _ | .ok _, .error e => ([], .error e)

/-- Build the command of a test, create its job and dispatch it. A job that cannot be
dispatched stays in the engine as it was created. -/
def dispatch (s : Session) (t : TestInfo) (options : RunOptions) : Session × Except Error Nat :=
  let (records, command) := s.commandFor t options.mode
  let s := s.say records
  match command with
  | .error e => (s, .error e)
  | .ok command =>
    let (world, id) := s.world.create command t options
    match world.run id with
    | .ok world => ({ s with world }, .ok id)
    | .error e => ({ s with world }, .error e)

/-- Run a test: its job, if it was dispatched. -/
def runTest (s : Session) (t : TestInfo) (options : RunOptions) :
    Session × Except Error (Option Nat) :=
  match ({ s with last := some t } : Session).dispatch t options with
  | (s, .ok id) => (s, .ok (some id))
  | (s, .error e) =>
    if e.isConfiguration || e.isBuild then
      (s.note .error "Failed to run test" [("test", t.nameValue), ("error", .text e.message)],
       .ok none)
    else if e.isUnfit then
      (s.note .error "Invalid run mode"
        [("test", t.nameValue), ("mode", options.mode), ("error", .text e.message)], .ok none)
    else (s, .error e)

/-- Do something with the test that governs a line, if there is one. -/
def atPoint {α : Type} (s : Session) (file : String) (lines : Option (List String))
    (cursor : Int) (language : Option String)
    (action : Session → TestInfo → Session × Except Error (Option α)) :
    Session × Except Error (Option α) :=
  match s.locate file lines cursor language with
  | (s, .ok (some t)) => action s t
  | (s, .ok none) =>
    (s.note .warning "No test found at cursor position"
      [("file", .text file), ("line", .int cursor)], .ok none)
  | (s, .error e) =>
    if e.isConfiguration then
      (s.note .error "Cannot locate test" [("file", .text file), ("error", .text e.message)],
       .ok none)
    else (s, .error e)

/-- Run the test that governs a line. -/
def runAtPoint (s : Session) (file : String) (lines : Option (List String)) (cursor : Int)
    (language : Option String) (options : RunOptions) : Session × Except Error (Option Nat) :=
  s.atPoint file lines cursor language fun s t => s.runTest t options

/-- Debug the test that governs a line. -/
def debugAtPoint (s : Session) (file : String) (lines : Option (List String)) (cursor : Int)
    (language : Option String) (options : RunOptions) : Session × Except Error (Option Nat) :=
  s.runAtPoint file lines cursor language { options with mode := .text Mode.debug.name }

/-- Run the last test once more. -/
def runLast (s : Session) (options : RunOptions) : Session × Except Error (Option Nat) :=
  match s.last with
  | none => (s.note .warning "No previous test to run" [], .ok none)
  | some t => s.runTest t options

/-- Run some tests one after the other: the jobs of those that were dispatched. -/
def runEach (options : RunOptions) : List TestInfo → Session → Session × Except Error (List Nat)
  | [], s => (s, .ok [])
  | t :: rest, s =>
    match s.runTest t options with
    | (s, .error e) => (s, .error e)
    | (s, .ok id) =>
      let (s, ids) := runEach options rest s
      (s, ids.map (id.toList ++ ·))

/-- Wait until some jobs have been delivered. -/
def wait [Host] (s : Session) (ids : List Nat) : Session := { s with world := s.world.wait ids }

/-- Cancel whatever is still at work, and deliver it. -/
def abandon [Host] (s : Session) : Session := { s with world := s.world.abandon }

/-- Run a test and wait for its job. Where that fails, all is abandoned. -/
def runToEnd [Host] (s : Session) (t : TestInfo) (options : RunOptions) :
    Session × Except Error (Option Nat) :=
  match s.runTest t options with
  | (s, .error why) => (s.abandon, .error why)
  | (s, .ok none) => (s, .ok none)
  | (s, .ok (some id)) => (s.wait [id], .ok (some id))

/-- Stop a job, and say whether it was running. -/
def stop (s : Session) (id : Nat) : Session × Bool :=
  let (world, stopped) := s.world.stop id
  ({ s with world }, stopped)

/-- Record by hand that a job is completed. -/
def complete (s : Session) (id : Nat) (outcome : Outcome) : Session × Except Error Unit :=
  let engine := s.world.engine
  match engine.attempts[id]? with
  | none => (s, .error .outOfRange)
  | some a =>
    match a.job.markCompleted outcome s.world.moment with
    | .error e => (s, .error e)
    | .ok job =>
      ({ s with world := { s.world with engine := engine.setAttempt id { a with job } } },
       .ok ())

/-- The jobs that were dispatched, in order. -/
def dispatched (s : Session) : List Nat :=
  let jobs := s.world.engine.jobs
  (List.range jobs.length).filter fun id => jobs[id]?.any fun j => j.state != .created

/-! ## Selecting tests -/

/-- Is a test like this one selected? -/
def hasSelected (s : Session) (t : TestInfo) : Bool := s.selected.any fun u => u.key == t.key

/-- Select a test, and say whether it was not selected yet. -/
def select (s : Session) (t : TestInfo) : Session × Bool :=
  if s.hasSelected t then
    (s.note .info "Test already selected" [("test", t.nameValue)], false)
  else
    let selected := s.selected ++ [t]
    (({ s with selected } : Session).note .info "Selected test"
      [("test", t.nameValue), ("total", .int selected.length)], true)

/-- Select the test that governs a line: that test, selected before or not. -/
def selectAtPoint (s : Session) (file : String) (lines : Option (List String)) (cursor : Int)
    (language : Option String) : Session × Except Error (Option TestInfo) :=
  s.atPoint file lines cursor language fun s t => ((s.select t).1, .ok (some t))

/-- Select nothing any more. -/
def clearSelected (s : Session) : Session :=
  ({ s with selected := [] } : Session).note .info "Cleared selected tests" []

/-- Run all selected tests at once: the jobs of those that were dispatched. -/
def runSelected (s : Session) (options : RunOptions) : Session × Except Error (List Nat) :=
  if s.selected.isEmpty then (s.note .warning "No tests selected" [], .ok [])
  else runEach options s.selected s

/-! ## Switching files -/

/-- The counterpart of a file. -/
def counterpart (s : Session) (file : String) : Session × Except Error (Option Path) :=
  let path := Path.resolve s.tree.current (Path.parse file)
  let s := s.say (Journal.ofCounterpart s.tree s.registry path)
  match Counterpart.of s.tree s.registry path with
  | .ok none => (s.note .warning "No counterpart file found" [("file", .text file)], .ok none)
  | r => (s, r)

end Session

end Proctor
