import Proctor.Capture

/-!
# Groups of processes

The processes of one job: the one that was started, and those it has started itself.
All of them live in one group, so one signal reaches them all. What they do is not
in the hands of the tool; it reads what they write and takes note of their ends.
-/

namespace Proctor

/-- A signal, and whom it is sent to. -/
inductive Signal where
  /-- The whole group is asked to terminate. -/
  | terminate
  /-- The whole group is killed. -/
  | kill
  /-- The process that was started is killed, and no other. -/
  | killFirst
  deriving DecidableEq, Repr

/-- The processes of one job. -/
structure Group where
  /-- What has been read of the two outputs. -/
  stdout : Capture := {}
  stderr : Capture := {}
  /-- May more be written? -/
  stdoutOpen : Bool := true
  stderrOpen : Bool := true
  /-- The exit code of the process that was started, once it has ended. -/
  exitCode : Option Int := none
  /-- How many other processes are alive. -/
  others : Nat := 0
  /-- The signals sent, the last one first. -/
  signals : List Signal := []
  deriving DecidableEq, Repr

/-- What processes do of their own accord. -/
inductive ProcessEvent where
  /-- A process of the group has started another one. -/
  | forked
  /-- A process other than the first one has ended. -/
  | otherExited
  /-- The first process has ended. -/
  | exited (code : Int)
  deriving DecidableEq, Repr

namespace Group

/-- One more piece of output. -/
def write (g : Group) (bytes : List UInt8) : Stream → Group
  | .stdout => { g with stdout := g.stdout.feed bytes }
  | .stderr => { g with stderr := g.stderr.feed bytes }

/-- The end of an output. What is still pending becomes a line. -/
def close (g : Group) : Stream → Group
  | .stdout => { g with stdout := g.stdout.finish, stdoutOpen := false }
  | .stderr => { g with stderr := g.stderr.finish, stderrOpen := false }

/-- Is the output still open? -/
def isOpen (g : Group) : Stream → Bool
  | .stdout => g.stdoutOpen
  | .stderr => g.stderrOpen

/-- Have all processes ended? -/
def isGone (g : Group) : Bool := g.exitCode.isSome && g.others == 0

/-- The group with one more signal sent; nothing can be sent to a group without
processes. -/
def signal (g : Group) (s : Signal) : Group :=
  if g.isGone then g else { g with signals := s :: g.signals }

@[simp] theorem signal_exitCode (g : Group) (s : Signal) :
    (g.signal s).exitCode = g.exitCode := by
  unfold signal
  split <;> rfl

@[simp] theorem signal_isOpen (g : Group) (s : Signal) (stream : Stream) :
    (g.signal s).isOpen stream = g.isOpen stream := by
  unfold signal
  split <;> cases stream <;> rfl

/-- The exit code, once both outputs have been read to their ends. -/
def completed? (g : Group) : Option Int :=
  if g.stdoutOpen || g.stderrOpen then none else g.exitCode

theorem read_iff {g : Group} :
    (g.stdoutOpen || g.stderrOpen) = false ↔ ∀ stream, g.isOpen stream = false := by
  rw [Bool.or_eq_false_iff]
  constructor
  · rintro ⟨stdout, stderr⟩ stream
    cases stream with
    | stdout => exact stdout
    | stderr => exact stderr
  · exact fun closed => ⟨closed .stdout, closed .stderr⟩

theorem completed?_eq_some {g : Group} {code : Int} :
    g.completed? = some code ↔
      (∀ stream, g.isOpen stream = false) ∧ g.exitCode = some code := by
  rw [← read_iff]
  unfold completed?
  cases g.stdoutOpen || g.stderrOpen <;> simp

/-- What the processes have done, if there was one that could do it. -/
def after? (g : Group) : ProcessEvent → Option Group
  | .forked => if g.isGone then none else some { g with others := g.others + 1 }
  | .otherExited => if g.others = 0 then none else some { g with others := g.others - 1 }
  | .exited code => if g.exitCode.isSome then none else some { g with exitCode := some code }

@[simp] theorem write_isOpen (g : Group) (bytes : List UInt8) (written stream : Stream) :
    (g.write bytes written).isOpen stream = g.isOpen stream := by
  cases written <;> cases stream <;> rfl

@[simp] theorem write_exitCode (g : Group) (bytes : List UInt8) (stream : Stream) :
    (g.write bytes stream).exitCode = g.exitCode := by
  cases stream <;> rfl

@[simp] theorem close_isOpen (g : Group) (closed stream : Stream) :
    (g.close closed).isOpen stream = (g.isOpen stream && closed != stream) := by
  cases closed <;> cases stream <;> simp [close, isOpen]

@[simp] theorem close_exitCode (g : Group) (stream : Stream) :
    (g.close stream).exitCode = g.exitCode := by
  cases stream <;> rfl

theorem after?_isOpen {g g' : Group} {event : ProcessEvent} (done : g.after? event = some g')
    (stream : Stream) : g'.isOpen stream = g.isOpen stream := by
  cases event <;> simp only [after?, Option.ite_none_left_eq_some, Option.some.injEq] at done <;>
    obtain ⟨-, rfl⟩ := done <;> cases stream <;> rfl

/-- The first process ends once, and nothing else that processes do is its end. -/
theorem after?_exitCode {g g' : Group} {event : ProcessEvent}
    (done : g.after? event = some g') :
    (∃ code, event = .exited code ∧ g.exitCode = none ∧ g'.exitCode = some code) ∨
      ((∀ code, event ≠ .exited code) ∧ g'.exitCode = g.exitCode) := by
  cases event <;> simp only [after?, Option.ite_none_left_eq_some, Option.some.injEq] at done <;>
    obtain ⟨open_, rfl⟩ := done
  case exited code => exact .inl ⟨code, rfl, by simpa using open_, rfl⟩
  case forked => exact .inr ⟨nofun, rfl⟩
  case otherExited => exact .inr ⟨nofun, rfl⟩

end Group

end Proctor
