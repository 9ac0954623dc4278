import Proctor.Capture
import Proctor.Glob
import Proctor.Machine.Grammar
import Proctor.Machine.Utility
import Proctor.Timeline

/-!
# Shell processes

The state of a shell on a machine whose time is a number. A shell writes *chunks*,
each at its moment; what it starts in the background is worked out at once, as far
as it goes, and its chunks find their places by their moments. A request to
terminate arrives at a moment that is known from the beginning, so that the whole
life of a process is a function of that moment.
-/

namespace Proctor.Machine

/-- Where what is written goes. -/
inductive Sink where
  | stream (s : Stream)
  /-- What is read again by the shell itself or by the next command of a pipeline. -/
  | capture (level : Nat)
  | file (path : Path)
  | nowhere
  deriving DecidableEq, Repr

/-- Something written. -/
structure Chunk where
  time : Nat
  /-- The process that has written it. -/
  owner : Nat
  sink : Sink
  bytes : List UInt8

/-- Something done to the files. -/
structure Deed where
  time : Nat
  /-- The process that has done it. -/
  owner : Nat
  change : FileTree.Change

/-- A process in the background. -/
structure Child where
  pid : Nat
  started : Nat
  /-- When it ends, if it ever does. -/
  ended : Option Nat
  status : Nat
  /-- Can it write to the outputs of the whole process? -/
  holdsStdout : Bool
  holdsStderr : Bool

/-- How a shell goes on. -/
inductive Flow where
  | normal
  | breaking (levels : Nat)
  | continuing (levels : Nat)
  | returning
  | exiting (status : Nat)
  | killed (signal : Nat)
  /-- It never ends by itself. -/
  | endless
  deriving DecidableEq, Repr

/-- A shell. -/
structure Shell where
  /-- The current moment, in milliseconds. -/
  now : Nat := 0
  /-- When the whole group is asked to terminate. -/
  terminateAt : Option Nat := none
  /-- Has the shell dealt with that? -/
  terminateSeen : Bool := false
  bindings : List (String × String) := []
  exported : List String := []
  positional : List String := []
  /-- The name the shell goes by in its messages. -/
  name : String := "sh"
  status : Nat := 0
  /-- The files as they were at the very beginning, and as they are now. -/
  origin : FileTree
  tree : FileTree
  sinks : List (Nat × Sink) := [(1, .stream .stdout), (2, .stream .stderr)]
  input : List UInt8 := []
  /-- When the input has been written to its end. -/
  inputReady : Nat := 0
  /-- The actions for signals; an empty one ignores its signal. -/
  traps : List (String × String) := []
  functions : List (String × Script) := []
  /-- How deep the captures are nested. -/
  level : Nat := 0
  /-- What has been written, the last first. -/
  chunks : List Chunk := []
  /-- What has been done to the files, the last first. -/
  deeds : List Deed := []
  children : List Child := []
  pid : Nat := 1000
  /-- The number of the process, which in a subshell is not that of the shell. -/
  owner : Nat := 1000
  nextPid : Nat := 1001
  flow : Flow := .normal
  /-- Does a failure end the shell? -/
  exitOnFailure : Bool := false
  /-- Is the outcome of the current command looked at? -/
  guarded : Bool := false

namespace Shell

/-- Does the shell go on with its next command? -/
def isGoing (s : Shell) : Bool := s.flow == .normal

/-- The shell with an exit status. -/
def withStatus (s : Shell) (n : Nat) : Shell := { s with status := n }

/-- The sink of a descriptor. -/
def sinkOf (s : Shell) (descriptor : Nat) : Sink := (s.sinks.lookup descriptor).getD .nowhere

/-- The shell with a descriptor bound to a sink. -/
def bind (s : Shell) (descriptor : Nat) (sink : Sink) : Shell :=
  { s with sinks := (descriptor, sink) :: s.sinks.filter (·.1 != descriptor) }

/-- The bytes of a file, none if it cannot be read. -/
def contentOf (tree : FileTree) (p : Path) : List UInt8 :=
  match tree.read p with
  | .ok content => content
  | .error _ => []

/-- Is the file executable? -/
def isExecutable (tree : FileTree) (p : Path) : Bool :=
  match tree.find p with
  | .ok (.file _ executable) => executable
  | _ => false

/-- The shell after something has been done to the files. -/
def change (s : Shell) (c : FileTree.Change) : Shell :=
  { s with tree := s.tree.after c, deeds := ⟨s.now, s.owner, c⟩ :: s.deeds }

/-- The shell with the files as they are by now: what processes in the background are going to
do to them has not been done. -/
def refresh (s : Shell) : Shell :=
  if s.children.isEmpty then s
  else
    let done := Timeline.sort Deed.time (s.deeds.reverse.filter (·.time ≤ s.now))
    let tree := done.foldl (fun t d => t.after d.change) s.origin
    { s with tree := { tree with current := s.tree.current } }

/-- Write bytes to a sink. -/
def writeTo (s : Shell) (sink : Sink) (bytes : List UInt8) : Shell :=
  if bytes.isEmpty then s
  else match sink with
    | .nowhere => s
    | .file p => s.change (.append p bytes)
    | sink => { s with chunks := ⟨s.now, s.owner, sink, bytes⟩ :: s.chunks }

/-- Write bytes to a descriptor. -/
def write (s : Shell) (descriptor : Nat) (bytes : List UInt8) : Shell :=
  s.writeTo (s.sinkOf descriptor) bytes

/-- Write a line to the errors. -/
def complain (s : Shell) (message : String) : Shell := s.write 2 (Utility.line message)

/-- Write a message about a line of the script. -/
def complainAt (s : Shell) (line : Nat) (message : String) : Shell :=
  s.complain (s.name ++ ": " ++ toString line ++ ": " ++ message)

/-- The value of a variable, if it is set. -/
def value? (s : Shell) (name : String) : Option String := s.bindings.lookup name

/-- The shell with a variable set. -/
def setVariable (s : Shell) (name value : String) : Shell :=
  { s with bindings := (name, value) :: s.bindings.filter (·.1 != name) }

/-- The environment of the programs that the shell starts. -/
def environment (s : Shell) : List (String × String) :=
  s.exported.filterMap fun name => (s.value? name).map fun v => (name, v)

/-- The value of a parameter, if it is set. -/
def parameter? (s : Shell) (name : List Char) : Option String :=
  match name with
  | ['?'] => some (toString s.status)
  | ['$'] => some (toString s.pid)
  | ['!'] => (s.children.head?.map fun c => toString c.pid)
  | ['#'] => some (toString s.positional.length)
  | ['@'] | ['*'] =>
    if s.positional.isEmpty then none else some (" ".intercalate s.positional)
  | ['-'] => some (if s.exitOnFailure then "e" else "")
  | ['0'] => some s.name
  | name =>
    if name.all Char.isDigit then s.positional[Nat.ofDigitChars 10 name 0 - 1]?
    else s.value? (String.ofList name)

/-- The name of a signal without what all of them begin with, or of a number. -/
def signalName (s : String) : String :=
  let s := if s.startsWith "SIG" then String.ofList (s.toList.drop 3) else s
  match s with
  | "0" => "EXIT"
  | "1" => "HUP"
  | "2" => "INT"
  | "3" => "QUIT"
  | "6" => "ABRT"
  | "9" => "KILL"
  | "10" => "USR1"
  | "11" => "SEGV"
  | "12" => "USR2"
  | "13" => "PIPE"
  | "14" => "ALRM"
  | "15" => "TERM"
  | s => s

/-- The numbers of signals. -/
def signalNumbers : List (String × Nat) := [
  ("EXIT", 0), ("HUP", 1), ("INT", 2), ("QUIT", 3), ("ILL", 4), ("TRAP", 5), ("ABRT", 6),
  ("BUS", 7), ("FPE", 8), ("KILL", 9), ("USR1", 10), ("SEGV", 11), ("USR2", 12), ("PIPE", 13),
  ("ALRM", 14), ("TERM", 15), ("CHLD", 17), ("CONT", 18), ("STOP", 19), ("WINCH", 28)]

/-- The signals that do nothing to a process that has no action for them. -/
def harmless : List String := ["CHLD", "CONT", "WINCH"]

/-- What a shell says about a command that a signal has ended. -/
def deathNotice? : Nat → Option String
  | 1 => some "Hangup"
  | 3 => some "Quit"
  | 6 => some "Aborted"
  | 8 => some "Floating point exception"
  | 9 => some "Killed"
  | 11 => some "Segmentation fault"
  | 14 => some "Alarm clock"
  | 15 => some "Terminated"
  | _ => none

/-- The action for a signal, if there is one. -/
def trap? (s : Shell) (name : String) : Option String := s.traps.lookup name

/-- Is the signal ignored? -/
def ignores (s : Shell) (name : String) : Bool := s.trap? name == some ""

/-- Has the request to terminate arrived without having been dealt with? -/
def isAskedToTerminate (s : Shell) : Bool :=
  !s.terminateSeen && s.terminateAt.any fun t => t ≤ s.now

/-- Let a program run for some time. If the group is asked to terminate meanwhile the
program ends at that moment, and so does the shell unless it has an action; a shell
that ignores the request passes this on to the program. -/
def elapse (s : Shell) (takes : Nat) : Shell :=
  let finish := s.now + takes
  match s.terminateAt with
  | some t =>
    if s.terminateSeen || finish ≤ t || s.ignores "TERM" then { s with now := finish }.refresh
    else
      let s := { s with now := max s.now t }.refresh
      match s.trap? "TERM" with
      | some _ => s.withStatus 143
      | none => { s with flow := .killed 15, terminateSeen := true }
  | none => { s with now := finish }.refresh

/-- What a subshell begins with: only ignored signals stay. -/
def forSubshell (s : Shell) : Shell :=
  { s with traps := s.traps.filter fun t => t.2.isEmpty, owner := s.nextPid,
           nextPid := s.nextPid + 1 }

/-- The shell after a subshell has ended: what has been written and done stays, all
else is as it was. -/
def afterSubshell (before after : Shell) : Shell :=
  let merged := { before with
    now := after.now
    tree := { after.tree with current := before.tree.current }
    chunks := after.chunks
    deeds := after.deeds
    children := after.children
    nextPid := after.nextPid
    input := after.input
    inputReady := after.inputReady
    status := after.status }
  match after.flow with
  | .exiting n => merged.withStatus n
  | .endless => { merged with flow := .endless }
  | .killed signal =>
    let merged := merged.withStatus (128 + signal)
    match deathNotice? signal with
    | some notice => if signal == 15 && merged.isAskedToTerminate then merged
        else merged.complain notice
    | none => merged
  | _ => merged

/-- The bytes that were captured at a level, in order of time, and the shell without
them. -/
def takeCaptured (s : Shell) (level : Nat) : List UInt8 × Shell :=
  let mine := s.chunks.reverse.filter fun c => c.sink == .capture level
  let ordered := Timeline.sort Chunk.time mine
  let others := s.chunks.filter fun c => c.sink != .capture level
  (ordered.flatMap (·.bytes), { s with chunks := others })

/-- End a process in the background, unless it has ended already. -/
def killChild (s : Shell) (pid signal : Nat) : Shell :=
  { s with
    children := s.children.map fun c =>
      if c.pid == pid && c.ended.all fun t => s.now < t then
        { c with ended := some s.now, status := 128 + signal }
      else c
    chunks := s.chunks.filter fun c => c.owner != pid || c.time ≤ s.now
    deeds := s.deeds.filter fun d => d.owner != pid || d.time ≤ s.now }

end Shell

/-! ## Fields -/

/-- A character of an expanded word. -/
inductive Glyph where
  | char (c : Char) (quoted : Bool)
  /-- A character that an expansion has brought in, at which the word may be split. -/
  | brought (c : Char)
  /-- An empty text in quotes, which is a field of its own. -/
  | empty
  /-- The border between two positional parameters. -/
  | border
  deriving DecidableEq, Repr

namespace Glyph

/-- The text of glyphs. -/
def text (gs : List Glyph) : List Char :=
  gs.filterMap fun g =>
    match g with
    | .char c _ | .brought c => some c
    | .empty => none
    | .border => some ' '

/-- The fields of a word: it is split at the borders, and at separators that an
expansion has brought in. -/
def fields (separators : List Char) (current : Option (List Glyph)) (done : List (List Glyph)) :
    List Glyph → List (List Glyph)
  | [] => (match current with
      | some f => f.reverse :: done
      | none => done).reverse
  | .border :: rest =>
    fields separators none (match current with
      | some f => f.reverse :: done
      | none => done) rest
  | .empty :: rest => fields separators (some (current.getD [])) done rest
  | .brought c :: rest =>
    if separators.contains c then
      match current with
      | some f => fields separators none (f.reverse :: done) rest
      | none =>
        if c == ' ' || c == '\t' || c == '\n' then fields separators none done rest
        else fields separators none ([] :: done) rest
    else fields separators (some (.brought c :: current.getD [])) done rest
  | g :: rest => fields separators (some (g :: current.getD [])) done rest

/-- The pattern that glyphs stand for: what is quoted stands for itself. The first
argument bounds the number of steps. -/
def pattern : Nat → List Glyph → List Glob.Piece
  | 0, _ => []
  | _, [] => []
  | n + 1, g :: rest =>
    match g with
    | .char c true => .char c :: pattern n rest
    | .empty | .border => pattern n rest
    | .char c false | .brought c =>
      match c with
      | '*' => .star :: pattern n rest
      | '?' => .anyOne :: pattern n rest
      | '[' =>
        match Glob.bracket? (text rest) with
        | some (inside, _) => Glob.classOf inside :: pattern n (rest.drop (inside.length + 1))
        | none => .char '[' :: pattern n rest
      | c => .char c :: pattern n rest

/-- Does a field have wildcards? -/
def isPattern (gs : List Glyph) : Bool :=
  gs.any fun g =>
    match g with
    | .char c false | .brought c => c == '*' || c == '?' || c == '['
    | _ => false

/-- The glyphs between slashes. -/
def components (current : List Glyph) : List Glyph → List (List Glyph)
  | [] => [current.reverse]
  | g :: rest =>
    if text [g] == ['/'] then current.reverse :: components [] rest
    else components (g :: current) rest

/-- The names in the directory that a text leads to. -/
def namesIn (tree : FileTree) (place : String) : List String :=
  match tree.find (Path.parse (if place.isEmpty then "." else place)) with
  | .ok (.directory es) => (es.map (·.1)).mergeSort (· ≤ ·)
  | _ => []

/-- The paths that match components, below some paths. -/
def matches_ (tree : FileTree) (places : List String) : List (List Glyph) → List String
  | [] => places
  | c :: rest =>
    let found := places.flatMap fun place =>
      if isPattern c then
        let p := pattern (c.length + 1) c
        ((namesIn tree place).filter fun name =>
          Glob.matchPieces p name.toList &&
            (!name.startsWith "." || (text c).head? == some '.')).map (place ++ ·)
      else
        let next := place ++ String.ofList (text c)
        if next.isEmpty || tree.has (Path.parse next) then [next] else []
    matches_ tree (if rest.isEmpty then found else found.map (· ++ "/")) rest

/-- The words a field stands for: the paths it matches, or itself. -/
def words (tree : FileTree) (gs : List Glyph) : List String :=
  if isPattern gs then
    match matches_ tree [""] (components [] gs) with
    | [] => [String.ofList (text gs)]
    | found => found
  else [String.ofList (text gs)]

end Glyph

end Proctor.Machine
