import Proctor.Machine.Arithmetic
import Proctor.Machine.Shell

/-!
# The interpreter

What a shell does with a script. Every function takes the number of steps that may
still be nested, and a shell that runs out of them counts as one that never ends. A
failure is a status, never the end of the interpretation.
-/

namespace Proctor.Machine.Interpreter

/-- The moment after which a process counts as one that never ends. -/
def horizon : Nat := 1000000000

/-- The shell if it has not gone on for too long. -/
def inTime (s : Shell) : Shell :=
  if s.now > horizon then { s with flow := .endless } else s

/-- The commands that the shell runs itself. -/
def builtins : List String := [
  ":", ".", "[", "break", "cd", "command", "continue", "echo", "eval", "exec", "exit", "export",
  "false", "hash", "kill", "local", "printf", "pwd", "read", "readonly", "return", "set", "shift",
  "test", "times", "trap", "true", "type", "ulimit", "umask", "unset", "wait"]

/-- The shells among the programs. -/
def shells : List String := ["sh", "dash", "bash", "ash"]

/-- Where a program is found. -/
inductive Found where
  | utility (name : String)
  | file (path : Path)
  | absent
  deriving DecidableEq, Repr

/-- The utility that lies at a path. -/
def utilityAt? (p : Path) : Option String :=
  if Utility.directories.contains p.parent.text && Utility.names.contains p.name then some p.name
  else none

/-- Look a program up, in the directories of the search path unless its name has a
slash. -/
def locate (s : Shell) (name : String) : Found :=
  if name.toList.contains '/' then
    let p := Path.parse name
    if s.tree.has p then .file p
    else match utilityAt? p with
      | some u => .utility u
      | none => .absent
  else
    let path := (s.value? "PATH").getD (":".intercalate Utility.directories)
    ((Text.splitOn ':' path.toList).findSome? fun place =>
      let p := (Path.parse (String.ofList place)).child name
      if s.tree.isFile p then some (Found.file p) else (utilityAt? p).map .utility).getD .absent

/-- The first line of a script that names its interpreter: the interpreter and its
arguments. -/
def interpreter? (content : List UInt8) : Option (String × List String) :=
  match content with
  | 35 :: 33 :: rest =>
    let line := String.ofList (Text.Utf8.decode (rest.takeWhile (· != 10)))
    match Text.words line.toList with
    | [] => none
    | path :: args =>
      let program := (Path.parse (String.ofList path)).name
      let args := args.map String.ofList
      if program == "env" then args.head?.map fun p => (p, args.drop 1) else some (program, args)
  | _ => none

/-- How a shell was asked to run. -/
structure Invocation where
  /-- The text given on the command line. -/
  text : Option String := none
  /-- The file that holds the script. -/
  file : Option String := none
  name : Option String := none
  positional : List String := []
  exitOnFailure : Bool := false

/-- The arguments of a shell after its options. -/
def operands (i : Invocation) (wantsText : Bool) : List String → Invocation
  | [] => i
  | arg :: rest =>
    if wantsText then { i with text := some arg, name := rest.head?, positional := rest.drop 1 }
    else { i with file := some arg, name := some arg, positional := rest }

/-- The arguments of a shell. -/
def invocation (i : Invocation) (wantsText : Bool) : List String → Invocation
  | [] => i
  | arg :: rest =>
    match arg.toList with
    | '-' :: c :: cs =>
      if arg == "--" then operands i wantsText rest
      else invocation { i with exitOnFailure := i.exitOnFailure || (c :: cs).contains 'e' }
        (wantsText || (c :: cs).contains 'c') rest
    | _ => operands i wantsText (arg :: rest)

/-- A shell process that another one starts. -/
def childShell (s : Shell) (i : Invocation) : Shell :=
  { s with
    bindings := s.environment
    positional := i.positional
    name := i.name.getD "sh"
    traps := s.traps.filter fun t => t.2.isEmpty
    functions := []
    pid := s.nextPid
    owner := s.nextPid
    nextPid := s.nextPid + 1
    status := 0
    exitOnFailure := i.exitOnFailure
    guarded := false }

/-- What a utility is given by a shell. -/
def utilityInput (s : Shell) (args : List String) : UtilityInput :=
  { args, stdin := s.input, environment := s.environment, tree := s.tree }

/-- What a utility does to the shell that waits for it. -/
def applyOutput (s : Shell) (o : UtilityOutput) : Shell :=
  let s := if o.readsInput then { s with now := max s.now s.inputReady, input := [] } else s
  let s := (s.write 1 o.stdout).write 2 o.stderr
  ((o.changes.foldl Shell.change s).withStatus o.status).elapse o.takes

/-- A number that must not be negative. -/
def nat? (s : String) : Option Nat :=
  if !s.isEmpty && s.toList.all Char.isDigit then some (Nat.ofDigitChars 10 s.toList 0) else none

/-- Send a signal to the shell itself, as far as it has no action for it. -/
def receive (s : Shell) (signal : String) : Shell :=
  if Shell.harmless.contains signal || signal == "EXIT" then s
  else if signal == "STOP" then { s with flow := .endless }
  else { s with flow := .killed ((Shell.signalNumbers.lookup signal).getD 15) }

/-- A line of the input, and the rest of it. -/
def inputLine (raw : Bool) (input : List UInt8) : List UInt8 × List UInt8 × Bool :=
  let line := input.takeWhile (· != 10)
  let ended := line.length < input.length
  let line := if raw then line else line.filter (· != 92)
  (line, (input.drop (input.takeWhile (· != 10)).length).drop 1, ended)

/-- Give the words of a line to variables; the last one takes all that is left. -/
def assignWords (s : Shell) : List String → List Char → Shell
  | [], _ => s
  | [name], cs =>
    s.setVariable name (String.ofList (Text.strip cs))
  | name :: rest, cs =>
    let cs := cs.dropWhile fun c => c == ' ' || c == '\t'
    let word := cs.takeWhile fun c => c != ' ' && c != '\t'
    assignWords (s.setVariable name (String.ofList word)) rest (cs.drop word.length)

/-- The text of a value without the shortest or longest part that a pattern matches at
its beginning. -/
def withoutStart (p : List Glob.Piece) (longest : Bool) (cs : List Char) : List Char :=
  let sizes := List.range (cs.length + 1)
  let sizes := if longest then sizes.reverse else sizes
  match sizes.find? fun k => Glob.matchPieces p (cs.take k) with
  | some k => cs.drop k
  | none => cs

/-- The same at its end. -/
def withoutEnd (p : List Glob.Piece) (longest : Bool) (cs : List Char) : List Char :=
  let sizes := List.range (cs.length + 1)
  let sizes := if longest then sizes.reverse else sizes
  match sizes.find? fun k => Glob.matchPieces p (cs.drop (cs.length - k)) with
  | some k => cs.take (cs.length - k)
  | none => cs

/-- The glyphs of a value that an expansion brings in. -/
def bring (quoted : Bool) (s : String) : List Glyph :=
  if quoted then s.toList.map fun c => .char c true else s.toList.map .brought

/-- The characters at which fields are split. -/
def separators (s : Shell) : List Char := ((s.value? "IFS").getD " \t\n").toList

/-- All positional parameters, each a field of its own where they are quoted. -/
def allParameters (s : Shell) (quoted : Bool) : List Glyph :=
  let each := s.positional.map fun p =>
    if quoted then (if p.isEmpty then [Glyph.empty] else bring true p) else bring false p
  Text.joinWith [.border] each

/-- Does a word have no field when there are no positional parameters? -/
def vanishes (s : Shell) (w : Word) : Bool :=
  s.positional.isEmpty && w.any (fun p => p == .parameter ['@'] none true) &&
    w.all fun p => p == .parameter ['@'] none true || p == .text [] true

/-- What a descriptor is bound to by the name of a file; failing that, why not. -/
def openFile (s : Shell) (append : Bool) (name : String) : Except String (Shell × Sink) :=
  let p := Path.parse name
  if name == "/dev/null" then .ok (s, .nowhere)
  else if name == "/dev/stdout" then .ok (s, s.sinkOf 1)
  else if name == "/dev/stderr" then .ok (s, s.sinkOf 2)
  else if s.tree.isDirectory p || name.isEmpty then
    .error ("cannot create " ++ name ++ ": Is a directory")
  else if !s.tree.isDirectory p.parent then
    .error ("cannot create " ++ name ++ ": Directory nonexistent")
  else
    let content := if append then Shell.contentOf s.tree p else []
    let place := Path.resolve s.tree.current p
    .ok (s.change (.put place (.file content (Shell.isExecutable s.tree p))), .file place)

/-- Carry out a redirection to an expanded target; failing that, why not. -/
def applyRedirect (s : Shell) (r : Redirect) (target : String) : Except String Shell :=
  match r.kind with
  | .here => .ok { s with input := Format.bytes target, inputReady := 0 }
  | .read =>
    match Utility.readFile (utilityInput s []) target with
    | .ok content => .ok { s with input := content, inputReady := 0 }
    | .error _ => .error ("cannot open " ++ target ++ ": No such file")
  | .write => (openFile s false target).map fun (s, sink) => s.bind r.descriptor sink
  | .append => (openFile s true target).map fun (s, sink) => s.bind r.descriptor sink
  | .duplicate =>
    if target == "-" then
      .ok (if r.descriptor == 0 then { s with input := [] } else s.bind r.descriptor .nowhere)
    else match nat? target with
      | some d =>
        .ok (if r.descriptor == 0 then s else s.bind r.descriptor (s.sinkOf d))
      | none => .error "Bad fd number"

/-- The loop that has run its body: whether it goes on, and how. -/
def afterBody (s : Shell) : Shell × Bool :=
  match s.flow with
  | .normal => (s, true)
  | .continuing k =>
    if k ≤ 1 then ({ s with flow := .normal }, true)
    else ({ s with flow := .continuing (k - 1) }, false)
  | .breaking k =>
    ({ s with flow := if k ≤ 1 then .normal else .breaking (k - 1) }, false)
  | _ => (s, false)

/-- The end of a shell whose command has failed, if failures end it. -/
def mindFailure (s : Shell) : Shell :=
  if s.exitOnFailure && !s.guarded && s.isGoing && s.status != 0 then
    { s with flow := .exiting s.status }
  else s

/-- Can a process that has these sinks write to the stream? -/
def holds (s : Shell) (stream : Stream) : Bool := s.sinks.any fun b => b.2 == .stream stream

/-- The redirections of a command as a whole. -/
def redirectsOf : Script → List Redirect
  | .simple _ _ _ rs | .redirected _ rs => rs
  | _ => []

/-- Variables with some names put back to what they were. -/
def restoreNames (before after : Shell) (names : List String) : Shell :=
  names.foldl (fun s name =>
    let vars := s.bindings.filter (·.1 != name)
    let vars := match before.value? name with
      | some v => (name, v) :: vars
      | none => vars
    { s with bindings := vars, exported := if before.exported.contains name then s.exported
        else s.exported.filter (· != name) }) after

mutual

/-- Deal with a request to terminate that has arrived. -/
def settle : Nat → Shell → Shell
  | 0, s => { s with flow := .endless }
  | n + 1, s =>
    if s.isGoing && s.isAskedToTerminate then
      let s := { s with terminateSeen := true }
      match s.trap? "TERM" with
      | some action => if action.isEmpty then s else act n s action
      | none => { s with flow := .killed 15 }
    else s

/-- Run the action for a signal; the status stays. -/
def act : Nat → Shell → String → Shell
  | 0, s, _ => { s with flow := .endless }
  | n + 1, s, action =>
    let r := evaluate n s action.toList
    if r.isGoing then r.withStatus s.status else r

/-- Run a text as a script. -/
def evaluate : Nat → Shell → List Char → Shell
  | 0, s, _ => { s with flow := .endless }
  | n + 1, s, cs =>
    match Script.parse cs with
    | .ok script => exec n s script
    | .error fault =>
      { s.complainAt fault.line ("Syntax error: " ++ fault.message) with flow := .exiting 2 }

/-- Run a text as the whole script of a shell, with the action for its end. -/
def runScript : Nat → Shell → List Char → Shell
  | 0, s, _ => { s with flow := .endless }
  | n + 1, s, cs =>
    let r := evaluate n s cs
    match r.flow, r.trap? "EXIT" with
    | .killed _, _ | .endless, _ => r
    | .exiting k, some action =>
      act n { r with flow := .normal, traps := r.traps.filter (·.1 != "EXIT"), status := k } action
    | _, some action =>
      act n { r with flow := .normal, traps := r.traps.filter (·.1 != "EXIT") } action
    | _, none => r

/-- The glyphs of a part of a word. -/
def expandPart : Nat → Shell → Part → List Glyph × Shell
  | 0, s, _ => ([], { s with flow := .endless })
  | n + 1, s, part =>
    match part with
    | .text cs quoted => (if cs.isEmpty && quoted then [.empty] else cs.map (.char · quoted), s)
    | .length name quoted =>
      (bring quoted (toString ((s.parameter? name).getD "").length), s)
    | .output script quoted =>
      let level := s.level + 1
      let sub := { s.forSubshell.bind 1 (.capture level) with level }
      let r := runScript n sub script
      let (bytes, s) := (s.afterSubshell r).takeCaptured level
      let text := Text.stripEndWhile (· == '\n') (Text.Utf8.decode bytes)
      (bring quoted (String.ofList text), s)
    | .arithmetic expression quoted =>
      let (gs, s) := expand n s (Token.quotedWord expression)
      match (Arithmetic.parse (Glyph.text gs)).bind (Arithmetic.eval s.bindings) with
      | some (v, vars) => (bring quoted (toString v), { s with bindings := vars })
      | none =>
        ([], { s.complainAt 1 "arithmetic expression: expecting primary" with flow := .exiting 2 })
    | .parameter ['@'] none quoted => (allParameters s quoted, s)
    | .parameter ['*'] none quoted =>
      if quoted then (bring true (" ".intercalate s.positional), s) else (allParameters s false, s)
    | .parameter name none quoted => (bring quoted ((s.parameter? name).getD ""), s)
    | .parameter name (some (operator, word)) quoted =>
      let value := s.parameter? name
      let isSet : Bool := match operator with
        | ':' :: _ => value.any (!·.isEmpty)
        | _ => value.isSome
      let other (s : Shell) : List Glyph × Shell :=
        expand n s (if quoted then Token.quotedWord word else Token.openWord word)
      match operator.filter (· != ':') with
      | ['-'] => if isSet then (bring quoted (value.getD ""), s) else other s
      | ['+'] => if isSet then other s else ([], s)
      | ['='] =>
        if isSet then (bring quoted (value.getD ""), s)
        else
          let (gs, s) := other s
          let text := String.ofList (Glyph.text gs)
          (bring quoted text, s.setVariable (String.ofList name) text)
      | ['?'] =>
        if isSet then (bring quoted (value.getD ""), s)
        else
          let (gs, s) := other s
          let why := if gs.isEmpty then "parameter not set" else String.ofList (Glyph.text gs)
          ([], { s.complainAt 1 (String.ofList name ++ ": " ++ why) with flow := .exiting 2 })
      | o =>
        let (gs, s) := expand n s (Token.openWord word)
        let p := Glyph.pattern (gs.length + 1) gs
        let cs := (value.getD "").toList
        let kept := if o.head? == some '#' then withoutStart p (o.length == 2) cs
          else withoutEnd p (o.length == 2) cs
        (bring quoted (String.ofList kept), s)

/-- The glyphs of a word. -/
def expand : Nat → Shell → Word → List Glyph × Shell
  | 0, s, _ => ([], { s with flow := .endless })
  | _, s, [] => ([], s)
  | n + 1, s, part :: rest =>
    let (gs, s) := expandPart n s part
    let (more, s) := expand n s rest
    (gs ++ more, s)

/-- The words that words stand for. -/
def expandAll : Nat → Shell → List Word → List String × Shell
  | 0, s, _ => ([], { s with flow := .endless })
  | _, s, [] => ([], s)
  | n + 1, s, w :: rest =>
    let (gs, s) := expand n s w
    let fields := if vanishes s w then [] else Glyph.fields (separators s) none [] gs
    let words := fields.flatMap (Glyph.words s.tree)
    let (more, s) := expandAll n s rest
    (words ++ more, s)

/-- The text that a word stands for where it is not split. -/
def expandText : Nat → Shell → Word → String × Shell
  | 0, s, _ => ("", { s with flow := .endless })
  | n + 1, s, w =>
    let (gs, s) := expand n s w
    (String.ofList (Glyph.text gs), s)

/-- Carry out redirections. -/
def redirect : Nat → Shell → List Redirect → Except Shell Shell
  | 0, s, _ => .error { s with flow := .endless }
  | _, s, [] => .ok s
  | n + 1, s, r :: rest =>
    let (target, s) := expandText n s r.target
    match applyRedirect s r target with
    | .ok s => redirect n s rest
    | .error why => .error ((s.complainAt 1 why).withStatus 2)

/-- Carry out assignments. -/
def assign : Nat → Shell → List (String × Word) → Shell
  | 0, s, _ => { s with flow := .endless }
  | _, s, [] => s
  | n + 1, s, (name, w) :: rest =>
    let (text, s) := expandText n s w
    assign n (s.setVariable name text) rest

/-- Run a script. -/
def exec : Nat → Shell → Script → Shell
  | 0, s, _ => { s with flow := .endless }
  | n + 1, s, script =>
    if !s.isGoing then s
    else match script with
      | .simple line assignments words redirects =>
        let s := settle n s
        if s.isGoing then mindFailure (settle n (simple n s line assignments words redirects))
        else s
      | .sequence commands => sequence n s commands
      | .both first second =>
        let s := guardedly n s first
        if s.isGoing && s.status == 0 then exec n s second else s
      | .either first second =>
        let s := guardedly n s first
        if s.isGoing && s.status != 0 then exec n s second else s
      | .pipeline negated [only] =>
        let s := guardedly n s only
        if s.isGoing && negated then s.withStatus (if s.status == 0 then 1 else 0) else s
      | .pipeline negated stages =>
        let r := pipe n s s.now s.input s.inputReady stages
        if negated then r.withStatus (if r.status == 0 then 1 else 0) else mindFailure r
      | .background body =>
        let sub := { s.forSubshell with input := [], inputReady := 0, guarded := false }
        let held := match redirect n sub (redirectsOf body) with
          | .ok r => r
          | .error r => r
        let r := runSub n sub body
        let child : Child :=
          { pid := sub.owner, started := s.now, status := r.status,
            ended := if r.flow == .endless then none else some r.now,
            holdsStdout := holds held .stdout, holdsStderr := holds held .stderr }
        { s with
          chunks := r.chunks
          deeds := r.deeds
          children := child :: r.children
          nextPid := r.nextPid
          status := 0 }.refresh
      | .subshell body => mindFailure (settle n (s.afterSubshell (runSub n s.forSubshell body)))
      | .branch condition yes no =>
        let s := guardedly n s condition
        if !s.isGoing then s
        else if s.status == 0 then exec n s yes
        else exec n (s.withStatus 0) no
      | .loop negated condition body => loop n s 0 negated condition body
      | .each name words body =>
        let (values, s) := match words with
          | some ws => expandAll n s ws
          | none => (s.positional, s)
        each n (s.withStatus 0) name values body
      | .choice subject arms =>
        let (text, s) := expandText n s subject
        choose n (s.withStatus 0) text.toList arms
      | .function name body =>
        { s with functions := (name, body) :: s.functions.filter (·.1 != name), status := 0 }
      | .redirected body redirects =>
        match redirect n s redirects with
        | .error r => { r with sinks := s.sinks, input := s.input }
        | .ok bound =>
          let r := exec n bound body
          if redirects.any fun r => r.descriptor == 0 then
            { r with sinks := s.sinks, input := s.input, inputReady := s.inputReady }
          else { r with sinks := s.sinks }

/-- Run a command whose failure is looked at. -/
def guardedly : Nat → Shell → Script → Shell
  | 0, s, _ => { s with flow := .endless }
  | n + 1, s, script => { exec n { s with guarded := true } script with guarded := s.guarded }

/-- Run the body of a subshell to its end. -/
def runSub : Nat → Shell → Script → Shell
  | 0, s, _ => { s with flow := .endless }
  | n + 1, s, script =>
    let r := exec n s script
    match r.flow, r.trap? "EXIT" with
    | .killed _, _ | .endless, _ => r
    | .exiting k, some action =>
      act n { r with flow := .normal, traps := [], status := k } action
    | .exiting k, none => r.withStatus k
    | _, some action => act n { r with flow := .normal, traps := [] } action
    | _, none => r

/-- Run commands one after the other. -/
def sequence : Nat → Shell → List Script → Shell
  | 0, s, _ => { s with flow := .endless }
  | _, s, [] => s
  | n + 1, s, first :: rest =>
    let s := exec n s first
    if s.isGoing then sequence n s rest else s

/-- Run a loop. -/
def loop : Nat → Shell → Nat → Bool → Script → Script → Shell
  | 0, s, _, _, _, _ => { s with flow := .endless }
  | n + 1, s, last, negated, condition, body =>
    let s := inTime (guardedly n s condition)
    if !s.isGoing then s
    else if (s.status == 0) == negated then s.withStatus last
    else
      let (s, more) := afterBody (exec n s body)
      if more then loop n s s.status negated condition body else s

/-- Run a body for each value. -/
def each : Nat → Shell → String → List String → Script → Shell
  | 0, s, _, _, _ => { s with flow := .endless }
  | _, s, _, [], _ => s
  | n + 1, s, name, value :: rest, body =>
    let (s, more) := afterBody (exec n (s.setVariable name value) body)
    if more then each n s name rest body else s

/-- Run the first arm that has a pattern for a text. -/
def choose : Nat → Shell → List Char → List (List Word × Script) → Shell
  | 0, s, _, _ => { s with flow := .endless }
  | _, s, _, [] => s
  | n + 1, s, text, (patterns, body) :: rest =>
    let (hit, s) := matchesAny n s text patterns
    if hit then exec n s body else choose n s text rest

/-- Does one of some patterns match a text? -/
def matchesAny : Nat → Shell → List Char → List Word → Bool × Shell
  | 0, s, _, _ => (false, { s with flow := .endless })
  | _, s, _, [] => (false, s)
  | n + 1, s, text, w :: rest =>
    let (gs, s) := expand n s w
    if Glob.matchPieces (Glyph.pattern (gs.length + 1) gs) text then (true, s)
    else matchesAny n s text rest

/-- Run the commands of a pipeline, all from the same moment on, each with what the
one before it has written. -/
def pipe : Nat → Shell → Nat → List UInt8 → Nat → List Script → Shell
  | 0, s, _, _, _, _ => { s with flow := .endless }
  | _, s, _, _, _, [] => s
  | n + 1, s, start, input, ready, stage :: rest =>
    let before := { s with now := start, input, inputReady := ready }
    match rest with
    | [] =>
      let r := s.afterSubshell (runSub n before.forSubshell stage)
      settle n { r with now := max s.now r.now, input := s.input, inputReady := s.inputReady }
    | rest =>
      let level := s.level + 1
      let sub := { before.forSubshell.bind 1 (.capture level) with level }
      let r := runSub n sub stage
      let quiet := match r.flow with
        | .killed _ => { r with flow := .normal }
        | _ => r
      let merged := s.afterSubshell quiet
      let (bytes, merged) := merged.takeCaptured level
      let ended := r.now
      pipe n { merged with now := max s.now ended, input := s.input, inputReady := s.inputReady }
        start bytes ended rest

/-- Run a simple command. -/
def simple :
    Nat → Shell → Nat → List (String × Word) → List Word → List Redirect → Shell
  | 0, s, _, _, _, _ => { s with flow := .endless }
  | n + 1, s, line, assignments, words, redirects =>
    let (args, s) := expandAll n s words
    if !s.isGoing then s
    else match args with
      | [] =>
        let status := if words.isEmpty && assignments.all fun a => a.2.all fun p =>
            match p with
            | .output .. => false
            | _ => true then 0 else s.status
        let s := assign n (s.withStatus status) assignments
        match redirect n s redirects with
        | .ok r => { r with sinks := s.sinks, input := s.input }
        | .error r => { r with sinks := s.sinks, input := s.input }
      | name :: args =>
        match redirect n s redirects with
        | .error r => { r with sinks := s.sinks, input := s.input }
        | .ok bound =>
          if name == "exec" then execute n (assign n bound assignments) line args
          else
            let names := assignments.map (·.1)
            let ready := assign n bound assignments
            let others := ready.exported.filter (!names.contains ·)
            let ready := { ready with exported := names ++ others }
            let r := restoreNames s (invoke n ready line name args) names
            if redirects.any fun r => r.descriptor == 0 then
              { r with sinks := s.sinks, input := s.input, inputReady := s.inputReady }
            else { r with sinks := s.sinks }

/-- Become another program; without one the redirections stay. -/
def execute : Nat → Shell → Nat → List String → Shell
  | 0, s, _, _ => { s with flow := .endless }
  | n + 1, s, line, args =>
    match args with
    | [] => s.withStatus 0
    | name :: args =>
      let s := { s with traps := s.traps.filter fun t => t.2.isEmpty }
      let r := program n s line name args
      if r.isGoing then { r with flow := .exiting r.status } else r

/-- Run a function, a command of the shell, or a program. -/
def invoke : Nat → Shell → Nat → String → List String → Shell
  | 0, s, _, _, _ => { s with flow := .endless }
  | n + 1, s, line, name, args =>
    match s.functions.lookup name with
    | some body =>
      let r := exec n { s with positional := args } body
      { r with
        positional := s.positional
        flow := if r.flow == .returning then .normal else r.flow }
    | none =>
      if builtins.contains name then builtin n s line name args else program n s line name args

/-- Run a command of the shell itself. -/
def builtin : Nat → Shell → Nat → String → List String → Shell
  | 0, s, _, _, _ => { s with flow := .endless }
  | n + 1, s, line, name, args =>
    let ok := s.withStatus 0
    let statusOf (default : Nat) : Except String Nat :=
      match args with
      | [] => .ok default
      | a :: _ =>
        match nat? a with
        | some k => .ok (k % 256)
        | none => .error (name ++ ": Illegal number: " ++ a)
    match name with
    | "true" | ":" | "hash" | "times" | "ulimit" | "umask" => ok
    | "false" => s.withStatus 1
    | "echo" => ok.write 1 (Format.shellEcho args)
    | "pwd" => ok.write 1 (Utility.line s.tree.current.text)
    | "printf" | "test" | "[" =>
      match Utility.run name (utilityInput s args) with
      | some o => applyOutput s o
      | none => ok
    | "exit" =>
      match statusOf s.status with
      | .ok k => { s with flow := .exiting k }
      | .error why => { s.complainAt line why with flow := .exiting 2 }
    | "return" =>
      match statusOf s.status with
      | .ok k => { s.withStatus k with flow := .returning }
      | .error why => { s.complainAt line why with flow := .exiting 2 }
    | "break" => { ok with flow := .breaking ((args.head?.bind nat?).getD 1) }
    | "continue" => { ok with flow := .continuing ((args.head?.bind nat?).getD 1) }
    | "eval" => evaluate n ok (" ".intercalate args).toList
    | "." =>
      match args with
      | file :: _ =>
        match s.tree.read (Path.parse file) with
        | .ok content =>
          let r := evaluate n ok (Text.Utf8.decode content)
          if r.flow == .returning then { r with flow := .normal } else r
        | .error _ => { s.complainAt line (".: cannot open " ++ file ++ ": No such file") with
            flow := .exiting 2 }
      | [] => ok
    | "cd" =>
      let target := args.headD ((s.value? "HOME").getD "/")
      let p := Path.resolve s.tree.current (Path.parse target)
      if s.tree.isDirectory p then
        { ok.setVariable "PWD" p.text with tree := { s.tree with current := p } }
      else (s.complainAt line ("cd: can't cd to " ++ target)).withStatus 2
    | "export" | "readonly" | "local" =>
      (args.filter fun a => !a.startsWith "-").foldl (fun s a =>
        let key := String.ofList (a.toList.takeWhile (· != '='))
        let s := if key == a then s
          else s.setVariable key (String.ofList (a.toList.drop (key.length + 1)))
        if name == "export" then
          { s with exported := key :: s.exported.filter (· != key) }
        else s) ok
    | "unset" =>
      (args.filter fun a => !a.startsWith "-").foldl (fun s a =>
        { s with bindings := s.bindings.filter (·.1 != a),
                 functions := s.functions.filter (·.1 != a) }) ok
    | "set" =>
      match args with
      | "--" :: rest => { ok with positional := rest }
      | a :: rest =>
        if a.startsWith "-" || a.startsWith "+" then
          let s := if a.toList.contains 'e' then { ok with exitOnFailure := a.startsWith "-" }
            else ok
          if rest.isEmpty || a.toList.contains 'o' then s else { s with positional := rest }
        else { ok with positional := args }
      | [] => ok
    | "shift" =>
      let k := (args.head?.bind nat?).getD 1
      if k ≤ s.positional.length then { ok with positional := s.positional.drop k }
      else { s.complainAt line "shift: can't shift that many" with flow := .exiting 2 }
    | "read" =>
      let raw := args.contains "-r"
      let names := args.filter fun a => !a.startsWith "-"
      let s := { s with now := max s.now s.inputReady }
      let (text, rest, ended) := inputLine raw s.input
      let s := assignWords { s with input := rest } names (Text.Utf8.decode text)
      s.withStatus (if ended then 0 else 1)
    | "command" =>
      match args with
      | "-v" :: found :: _ =>
        if builtins.contains found || (s.functions.lookup found).isSome then
          ok.write 1 (Utility.line found)
        else match locate s found with
          | .utility u => ok.write 1 (Utility.line ("/usr/bin/" ++ u))
          | .file p => ok.write 1 (Utility.line p.text)
          | .absent => s.withStatus 127
      | found :: rest =>
        if builtins.contains found then builtin n s line found rest else program n s line found rest
      | [] => ok
    | "type" => ok
    | "trap" =>
      match args with
      | [] => ok
      | action :: signals =>
        let names := signals.map Shell.signalName
        let others := s.traps.filter fun t => !names.contains t.1
        if action == "-" then { ok with traps := others }
        else { ok with traps := names.map (fun name => (name, action)) ++ others }
    | "kill" => kill n s line args
    | "wait" =>
      let wanted := match args.filterMap nat? with
        | [] => s.children
        | pids => s.children.filter fun c => pids.contains c.pid
      if wanted.any fun c => c.ended.isNone then
        match s.terminateAt with
        | some t => settle n (if s.terminateSeen then { s with flow := .endless }
            else { s with now := max s.now t })
        | none => { s with flow := .endless }
      else
        let finish := wanted.foldl (fun t c => max t (c.ended.getD t)) s.now
        let r := s.elapse (finish - s.now)
        if args.isEmpty || r.now < finish then r
        else r.withStatus ((wanted.head?.map (·.status)).getD 127)
    | name => program n s line name args

/-- Send signals. -/
def kill : Nat → Shell → Nat → List String → Shell
  | 0, s, _, _ => { s with flow := .endless }
  | n + 1, s, line, args =>
    let (signal, targets) := match args with
      | "-s" :: name :: rest => (Shell.signalName name, rest)
      | "--" :: rest => ("TERM", rest)
      | a :: rest =>
        match a.toList with
        | '-' :: name => (Shell.signalName (String.ofList name), rest)
        | _ => ("TERM", a :: rest)
      | [] => ("TERM", [])
    targets.foldl (fun s target =>
      if !s.isGoing then s
      else match nat? target with
        | none => (s.complainAt line ("kill: Illegal number: " ++ target)).withStatus 2
        | some pid =>
          if pid == s.pid || pid == s.owner || pid == 0 then
            match (if signal == "KILL" then none else s.trap? signal) with
            | some action =>
              if action.isEmpty then s.withStatus 0 else act n (s.withStatus 0) action
            | none => receive (s.withStatus 0) signal
          else if s.children.any fun c => c.pid == pid && c.ended.all fun t => s.now < t then
            if signal == "EXIT" then s.withStatus 0
            else (s.killChild pid ((Shell.signalNumbers.lookup signal).getD 15)).withStatus 0
          else (s.complainAt line "kill: No such process").withStatus 1) s

/-- Run a program and wait for it. -/
def program : Nat → Shell → Nat → String → List String → Shell
  | 0, s, _, _, _ => { s with flow := .endless }
  | n + 1, s, line, name, args =>
    match locate s name with
    | .absent => (s.complainAt line (name ++ ": not found")).withStatus 127
    | .utility u => utility n s line u args
    | .file p =>
      match s.tree.find p with
      | .ok (.file content executable) =>
        if !executable then (s.complainAt line (name ++ ": Permission denied")).withStatus 126
        else match interpreter? content with
          | some (i, more) =>
            if shells.contains i then shellProcess n s (more ++ name :: args)
            else if Utility.names.contains i then utility n s line i (more ++ name :: args)
            else (s.complainAt line (name ++ ": not found")).withStatus 127
          | none => shellProcess n s (name :: args)
      | _ => (s.complainAt line (name ++ ": Permission denied")).withStatus 126

/-- Run a utility and wait for it. -/
def utility : Nat → Shell → Nat → String → List String → Shell
  | 0, s, _, _, _ => { s with flow := .endless }
  | n + 1, s, line, name, args =>
    if shells.contains name then shellProcess n s args
    else match name with
      | "kill" => kill n s line args
      | "nohup" | "nice" =>
        let rest := match args with
          | "-n" :: _ :: rest => rest
          | rest => rest
        match rest with
        | p :: rest => program n s line p rest
        | [] => s.withStatus 0
      | "env" =>
        let settings := args.takeWhile fun a => a.toList.contains '=' || a.startsWith "-"
        let changed := settings.foldl (fun (s : Shell) a =>
          if a == "-i" then { s with exported := [] }
          else if a.startsWith "-" then s
          else
            let key := String.ofList (a.toList.takeWhile (· != '='))
            let s := s.setVariable key (String.ofList (a.toList.drop (key.length + 1)))
            { s with exported := s.exported.filter (· != key) ++ [key] }) s
        let r := match args.drop settings.length with
          | [] => applyOutput changed (Utility.environment (utilityInput changed []))
          | p :: rest => program n changed line p rest
        { r with bindings := s.bindings, exported := s.exported }
      | name =>
        match Utility.run name (utilityInput s args) with
        | some o => applyOutput s o
        | none => s.withStatus 0

/-- Run another shell and wait for it. -/
def shellProcess : Nat → Shell → List String → Shell
  | 0, s, _ => { s with flow := .endless }
  | n + 1, s, args => settle n (s.afterSubshell (becomeShell n (childShell s) args))

/-- The life of a shell with some arguments, once it is known what it begins with. -/
def becomeShell : Nat → (Invocation → Shell) → List String → Shell
  | 0, start, _ => { start {} with flow := .endless }
  | n + 1, start, args =>
    let i := invocation {} false args
    let s := start i
    match i.text, i.file with
    | some text, _ => runScript n s text.toList
    | none, some file =>
      match s.tree.read (Path.parse file) with
      | .ok content => runScript n s (Text.Utf8.decode content)
      | .error _ =>
        { { s with name := "sh" }.complainAt 0 ("cannot open " ++ file ++ ": No such file") with
          flow := .exiting 2 }
    | none, none => runScript n { s with input := [] } (Text.Utf8.decode s.input)

end

end Proctor.Machine.Interpreter
