import Proctor.Engine
import Proctor.Engine.Host
import Proctor.Timeline

/-!
# Engines at work

An engine together with the files its processes work on, and a clock. What is going
to happen to each task is known in advance and kept as its *agenda*; time goes on from
one entry of an agenda to the next. A request changes the agendas at once, but nothing
of them happens before time goes on. What processes are going to do to the files is kept
apart from the agendas, because processes may outlive their tasks.
-/

namespace Proctor

/-- An entry of an agenda. -/
inductive Agenda.Entry where
  /-- The task begins: only now it turns out whether a process can be started. -/
  | launch
  | event (e : TaskEvent)
  /-- The callbacks of a task that is over run. -/
  | callbacks

/-- What is going to happen to a task, in order of time. -/
abbrev Agenda := List (Nat × Agenda.Entry)

/-- A process that was started. -/
structure Started where
  launch : Host.Launch
  life : Host.Life

/-- What the processes of a job are going to do to the files, and when. -/
structure Deed where
  moment : Nat
  job : Nat
  change : FileTree.Change

/-- An engine at work. -/
structure World where
  engine : Engine
  registry : Registry
  tree : FileTree
  /-- The environment the tool itself runs in. -/
  environment : List (String × String)
  /-- Can processes be waited for at all? -/
  hasLoop : Bool := true
  /-- How long it takes for a process to start, in milliseconds. -/
  startDelay : Nat := 1
  /-- How long a group of processes has for terminating, in milliseconds. -/
  grace : Nat := 2000
  /-- The current moment, in milliseconds. -/
  clock : Nat := 0
  agendas : List (Nat × Agenda) := []
  processes : List (Nat × Started) := []
  /-- What has not been done to the files yet. -/
  deeds : List Deed := []

namespace World

/-- The current moment as it is recorded. -/
def moment (w : World) : Moment := ⟨w.clock, 1000⟩

/-- Put an entry in the place of the one with its key, or at the end. -/
def put {α : Type} (id : Nat) (a : α) : List (Nat × α) → List (Nat × α)
  | [] => [(id, a)]
  | (k, b) :: rest => if k = id then (id, a) :: rest else (k, b) :: put id a rest

/-- The world with the agenda of a task. -/
def plan (w : World) (id : Nat) (agenda : Agenda) : World :=
  { w with agendas := put id agenda w.agendas }

/-- The world without an agenda for a task. -/
def unplan (w : World) (id : Nat) : World :=
  { w with agendas := w.agendas.filter (·.1 != id) }

/-- The agenda of a task. -/
def agendaOf (w : World) (id : Nat) : Agenda := (w.agendas.lookup id).getD []

/-! ## Files -/

/-- The world in which the processes of a job do nothing to the files any more. -/
def withoutDeeds (w : World) (id : Nat) : World :=
  { w with deeds := w.deeds.filter (·.job != id) }

/-- The world in which the processes of a job go on to do what a trace of their life tells,
but for so much of it as they have done already. -/
def withDeeds (w : World) (id : Nat) (s : Started) (done : Nat) (t : Host.Trace) : World :=
  let later := (t.changes.drop done).map fun c => Deed.mk (s.launch.moment + c.1) id c.2
  { w with deeds := (w.withoutDeeds id).deeds ++ later }

/-- The world at a later moment, with everything done to the files until then. -/
def advance (w : World) (moment : Nat) : World :=
  let clock := max w.clock moment
  let due := Timeline.sort Deed.moment (w.deeds.filter (·.moment ≤ clock))
  { w with
    clock
    tree := due.foldl (fun tree deed => tree.after deed.change) w.tree
    deeds := w.deeds.filter (clock < ·.moment) }

/-! ## Environments of processes -/

/-- Is there a zero character in the text? -/
def hasZero (s : String) : Bool := s.toList.contains '\x00'

/-- What is wrong with a variable of an environment, if something is. -/
def variableFault? (name : String) (value : Value) : Option String :=
  if name.toList.contains '=' then some "illegal environment variable name"
  else match value with
    | .text _ => none
    | v => some ("expected str, bytes or os.PathLike object, not " ++ v.typeName)

/-- An environment whose values must be texts. -/
def checkedEnvironment (entries : List (String × Value)) :
    Except String (List (String × String)) :=
  entries.mapM fun e =>
    match variableFault? e.1 e.2, e.2 with
    | none, .text s => .ok (e.1, s)
    | some fault, _ => .error fault
    | none, _ => .error ""

/-- The environment of a job's process: that of the tool, the configured additions, and
those of the run, later ones laid over earlier ones. -/
def environmentFor (w : World) (j : Job) : Except String (List (String × String)) :=
  match w.engine.config.env with
  | .table configured => do
    let lay (base upper : List (String × Value)) : List (String × Value) :=
      upper.foldl (fun acc e => acc.filter (·.1 != e.1) ++ [e]) base
    let base := w.environment.map fun e => (e.1, Value.text e.2)
    checkedEnvironment (lay (lay base configured) j.options.env)
  | v => .error ("'" ++ v.typeName ++ "' object is not a mapping")

/-- Try to start the process of a job. -/
def launch [Host] (w : World) (id : Nat) (j : Job) : Spawn × Option Started :=
  match w.environmentFor j with
  | .error detail => (.failed (.crashed detail), none)
  | .ok environment =>
    let directory := j.directory.getD Path.here
    if j.command.isEmpty then
      (.failed (.crashed
        "create_subprocess_exec() missing 1 required positional argument: 'program'"), none)
    else if j.command.any hasZero || hasZero directory.text ||
        environment.any fun e => hasZero e.1 || hasZero e.2 then
      (.failed (.crashed "embedded null byte"), none)
    else
      let l : Host.Launch := ⟨id, w.clock, j.command, directory, environment, w.tree⟩
      match Host.start l with
      | .error .missing => (.failed .missing, none)
      | .error (.because reason) => (.failed (.refused reason), none)
      | .ok life => (.started, some ⟨l, life⟩)

/-! ## Agendas -/

/-- The events of a process's life from a moment of it on, in order of time. -/
def eventsOf (start from_ : Nat) (t : Host.Trace) : Agenda :=
  let event (time : Nat) (e : TaskEvent) : Nat × Agenda.Entry := (start + time, .event e)
  let all := (t.others.map fun o => event o.1 (.process .forked)) ++
    (t.emissions.map fun e => event e.time (.output e.stream e.bytes)) ++
    (t.others.filterMap fun o => o.2.map fun time => event time (.process .otherExited)) ++
    (t.stdoutClosed.toList.map fun time => event time (.closed .stdout)) ++
    (t.stderrClosed.toList.map fun time => event time (.closed .stderr)) ++
    (t.exit.toList.map fun e => event e.1 (.process (.exited e.2)))
  Timeline.sort Prod.fst (all.filter fun e => start + from_ ≤ e.1)

/-- An agenda with one more entry, behind those of the same moment. -/
def withEntry (a : Agenda) (time : Nat) (e : TaskEvent) : Agenda :=
  Timeline.sort Prod.fst (a ++ [(time, .event e)])

/-- The agenda of a process that was started just now. -/
def firstAgenda (s : Started) (timeout : Int) : Agenda :=
  let start := s.launch.moment
  let events := eventsOf start 0 (s.life none)
  match timeout with
  | .ofNat (t + 1) => withEntry events (start + t + 1) .timeUp
  | _ => (start, .event .timeUp) :: events

/-- The agenda of a process that has been asked to terminate. A task that does not know yet
that the process has ended goes on only when nobody can write to the outputs any more. -/
def lastAgenda (s : Started) (known : Bool) (now grace : Nat) : Agenda :=
  let start := s.launch.moment
  let passed := now - start
  let t := s.life (some passed)
  let back := if known then some passed
    else Timeline.last? [t.exit.map (·.1), t.stdoutClosed, t.stderrClosed]
  let events := eventsOf start passed t
  let events := match back with
    | some time => withEntry events (start + time) .resumed
    | none => events
  withEntry events (now + grace) .graceOver

/-- The world in which the processes of a job have just been asked to terminate: up to now
they have lived as if they never were, and from now on they live as they do after that. -/
def afterRequest (w : World) (id : Nat) (s : Started) : World :=
  let known := (w.engine.group? id).any (·.exitCode.isSome)
  let passed := w.clock - s.launch.moment
  let done := ((s.life none).changes.takeWhile (·.1 ≤ passed)).length
  (w.plan id (lastAgenda s known w.clock w.grace)).withDeeds id s done (s.life (some passed))

/-- The world in which the processes of a job, if they have been killed, do nothing more. -/
def afterKill (w : World) (id : Nat) : World :=
  if (w.engine.group? id).any (·.signals.any (· != .terminate)) then w.withoutDeeds id else w

/-- The agenda of a task as its phase requires it, after something has happened. -/
def replan (w : World) (id : Nat) (before : Option Phase) : World :=
  let w := w.afterKill id
  match w.engine.task? id with
  | none => w.unplan id
  | some t =>
    match t.phase with
    | .ended _ => if t.callbacks.isEmpty then w.unplan id else w.plan id [(w.clock, .callbacks)]
    | .terminating cause =>
      if before == some (.terminating cause) then w
      else match w.processes.lookup id with
        | some s => w.afterRequest id s
        | none => w
    | .killing _ | .dropping _ =>
      if before == some t.phase then w
      else w.plan id [(w.clock, .event (.process (.exited (-9))))]
    | .pending | .starting | .collecting | .breaking _ => w

/-- What a task goes on with at once, without any time passing. -/
def followUp? (w : World) (id : Nat) : Option TaskEvent :=
  match w.engine.task? id, w.engine.group? id with
  | some t, some g =>
    match t.phase with
    | .starting => some (.attached .started)
    | .collecting => if g.completed?.isSome then some .resumed else none
    | .breaking _ => some .resumed
    | .killing _ | .dropping _ => if g.exitCode.isSome then some .resumed else none
    | .pending | .terminating _ | .ended _ => none
  | _, _ => none

/-- Let a task go on as far as it comes at once; the second argument bounds the steps. -/
def goOn (id : Nat) : Nat → World → World
  | 0, w => w
  | n + 1, w =>
    match (w.followUp? id).bind (w.engine.handle? w.moment id) with
    | some engine => goOn id n { w with engine }
    | none => w

/-- How many steps a task can take at once: to begin, to break off its reading, to
terminate its group, and to end. -/
def stride : Nat := 4

/-- Let an event happen to a task. -/
def happen (w : World) (id : Nat) (e : TaskEvent) : World :=
  let before := (w.engine.task? id).map Task.phase
  let engine := (w.engine.handle? w.moment id e).getD w.engine
  (goOn id stride { w with engine }).replan id before

/-- Let the callbacks of a task run, one after the other. -/
def callBack (id : Nat) : Nat → World → World
  | 0, w => w.replan id none
  | n + 1, w =>
    match w.engine.callBack? w.moment id with
    | some engine => callBack id n { w with engine }
    | none => w.replan id none

/-- Let a task begin. -/
def begin [Host] (w : World) (id : Nat) : World :=
  match w.engine.jobs[id]? with
  | none => w
  | some j =>
    match w.launch id j with
    | (spawn, none) => w.happen id (.begin spawn)
    | (spawn, some s) =>
      let w := { w with processes := put id s w.processes }.withDeeds id s 0 (s.life none)
      (w.plan id (firstAgenda s (Attempt.timeoutFor w.engine.config j))).happen id (.begin spawn)

/-! ## Time -/

/-- The earliest of all entries. -/
def earliest? (w : World) : Option (Nat × Nat × Agenda.Entry) :=
  w.agendas.foldl (fun best a =>
    match a.2.head?, best with
    | none, best => best
    | some (time, entry), none => some (a.1, time, entry)
    | some (time, entry), some (id, least, e) =>
      if time < least then some (a.1, time, entry) else some (id, least, e)) none

/-- Let the earliest entry happen. -/
def next? [Host] (w : World) (limit : Option Nat) : Option World :=
  match w.earliest? with
  | none => none
  | some (id, time, entry) =>
    if limit.any fun l => l < time then none
    else
      let w := w.advance time
      let w := w.plan id ((w.agendaOf id).drop 1)
      some (match entry with
        | .launch => w.begin id
        | .event e => w.happen id e
        | .callbacks => callBack id ((w.engine.task? id).elim 0 (·.callbacks.length)) w)

/-- Let all entries up to a moment happen; the first argument bounds their number. -/
def runUntil [Host] (limit : Nat) : Nat → World → World
  | 0, w => w
  | n + 1, w =>
    match w.next? (some limit) with
    | some w => runUntil limit n w
    | none => w

/-- Has nobody any more to call back on account of a wait? -/
def isReady (w : World) (number : Nat) : Bool :=
  w.engine.waits[number]?.all fun wait => wait.pending.isEmpty

/-- Let entries happen until a wait can come to its end; the second argument bounds
their number. -/
def runUntilReady [Host] (number : Nat) : Nat → World → World
  | 0, w => w
  | n + 1, w =>
    if w.isReady number then w
    else match w.next? none with
      | some w => runUntilReady number n w
      | none => w

/-- How many entries are let happen at most. -/
def patience : Nat := 10000000

/-! ## Requests -/

/-- Create a job. -/
def create (w : World) (command : List String) (test : TestInfo) (options : RunOptions) :
    World × Nat :=
  let (engine, id) := w.engine.create command test options
  ({ w with engine }, id)

/-- Dispatch a job. -/
def run (w : World) (id : Nat) : Except Error World := do
  let engine ← w.engine.run w.tree w.registry w.hasLoop w.moment id
  return { w with engine }.plan id [(w.clock + w.startDelay, .launch)]

/-- Stop a job, and say whether it was running. -/
def stop (w : World) (id : Nat) : World × Bool :=
  let (engine, stopped) := w.engine.stop w.moment id
  let w := { w with engine }
  if stopped && (w.engine.task? id).any (·.cancelRequested) then
    (w.plan id ((w.clock, .event .cancelled) :: w.agendaOf id), true)
  else (w, stopped)

/-- Wait until some jobs have been delivered, as far as they were dispatched. -/
def wait [Host] (w : World) (ids : List Nat) : World :=
  let (engine, number) := w.engine.wait ids
  let w := runUntilReady number patience { w with engine }
  { w with engine := (w.engine.resume? number).getD w.engine }

/-- Let some time pass. -/
def sleep [Host] (w : World) (ms : Nat) : World :=
  let finish := w.clock + ms
  (runUntil finish patience w).advance finish

/-- Cancel a task that is not over. -/
def cancelTask (w : World) (id : Nat) : World :=
  match w.engine.cancel? id with
  | some engine =>
    { w with engine }.plan id ((w.clock, .event .cancelled) :: w.agendaOf id)
  | none => w

/-- Cancel all tasks and wait until their jobs have been delivered. -/
def abandon [Host] (w : World) : World := (w.engine.table.foldl cancelTask w).wait w.engine.table

end World

end Proctor
