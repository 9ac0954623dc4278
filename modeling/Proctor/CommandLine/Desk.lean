import Proctor.CommandLine.Request
import Proctor.Journal.Loading
import Proctor.Session

/-!
# The desk

Where a command does its work: what it was called with, and what it has written so
far, on the two outputs and to the files of the log. Log records go to the error
output in the order in which they arise, between the notices of the command itself.
-/

namespace Proctor.CommandLine

/-- A call of the tool. -/
structure Call where
  words : List String
  environment : Environment
  tree : FileTree
  /-- What stands for the time in log records. -/
  time : String

/-- How a call ends. -/
inductive Exit where
  | code (n : Int)
  /-- Something went wrong that no command reports. -/
  | escaped (why : Error)
  deriving Repr

/-- The work on a call. -/
structure Desk where
  call : Call
  tree : FileTree
  shared : SharedLog := {}
  setup : Log.Setup := {}
  stdout : String := ""
  stderr : String := ""
  /-- What has been written to the files of the log. -/
  logs : List (Path × String) := []

namespace Desk

/-- How many characters there are up to the final letter of a control sequence, if the
text goes on as one: with digits, semicolons and question marks, and then a letter. -/
def controlLength? : List Char → Option Nat
  | [] => none
  | c :: rest =>
    if c.isAlpha then some 1
    else if c.isDigit || c == ';' || c == '?' then (controlLength? rest).map (· + 1)
    else none

/-- How many characters of a control sequence follow its first one, if the text begins
with such a sequence. -/
def sequenceLength? : List Char → Option Nat
  | '\x1b' :: '[' :: rest => (controlLength? rest).map (· + 1)
  | _ => none

/-- A text without the control sequences of terminals, once so many characters of one
have been passed over. -/
def plainFrom : Nat → List Char → List Char
  | _, [] => []
  | n + 1, _ :: rest => plainFrom n rest
  | 0, c :: rest =>
    match sequenceLength? (c :: rest) with
    | some n => plainFrom n rest
    | none => c :: plainFrom 0 rest

/-- A line that a command writes. -/
def lineOf (s : String) : String := String.ofList (plainFrom 0 s.toList) ++ "\n"

/-- The desk with a line on the output. -/
def print (d : Desk) (s : String) : Desk := { d with stdout := d.stdout ++ lineOf s }

/-- The desk with a line on the error output. -/
def notice (d : Desk) (s : String) : Desk := { d with stderr := d.stderr ++ lineOf s }

/-- Texts by file, with more written to one of them. -/
def append (file : Path) (text : String) : List (Path × String) → List (Path × String)
  | [] => [(file, text)]
  | (f, s) :: rest => if f = file then (f, s ++ text) :: rest else (f, s) :: append file text rest

/-- The desk with some records written as the log is set up. -/
def log (d : Desk) (records : List Log.Record) : Desk :=
  { d with
    stderr := d.stderr ++ d.setup.screen d.call.time records
    logs := match d.setup.file with
      | some file => append file (d.setup.fileText d.call.time records) d.logs
      | none => d.logs }

/-- The desk with the log set up, which the log itself notes. -/
def configure (d : Desk) (setup : Log.Setup) : Desk := ({ d with setup } : Desk).log setup.records

/-- The desk with the log set up for a command. -/
def configureFor (d : Desk) (own : LogOptions) : Desk :=
  let d := { d with shared := d.shared.withLevelOf own }
  d.configure (d.shared.setup own)

/-- The desk after some work of a session: the journal is written, and the reports that
are due. The session goes on with an empty journal. -/
def follow (d : Desk) (s : Session) : Desk × Session :=
  let engine := s.world.engine
  let reports := engine.deliveries.map fun delivery =>
    match delivery.report with
    | .ok report => report.text
    | .error _ => ""
  (({ d with tree := s.tree, stdout := d.stdout ++ String.join reports } : Desk).log
      engine.journal,
   { s with world := { s.world with engine := { engine with journal := [], deliveries := [] } } })

/-- The files there are in the end, those of the log among them. -/
def finalTree (d : Desk) : FileTree :=
  d.logs.foldl (fun tree l =>
    let before := (tree.read l.1).toOption.getD []
    tree.insert l.1 (.file (before ++ Text.Utf8.encode l.2) false)) d.tree

/-! ## Configurations and sessions -/

/-- The name of the configuration file that is read without being asked for. -/
def defaultConfigName : String := "testatpoint.toml"

/-- The configuration file: the given one, or else the usual one where it exists. -/
def configPath (d : Desk) (given : Option Path) : Option Path :=
  match given with
  | some p => some p
  | none =>
    let usual := d.tree.current.child defaultConfigName
    if d.tree.isFile usual then some usual else none

/-- Load the configuration. -/
def loadConfig (d : Desk) (path : Option Path) : Desk × Except Error Config :=
  (d.log (Journal.ofLoading d.tree d.call.environment path none),
   Config.load d.tree d.call.environment path none)

/-- The width of what is printed. -/
def width (d : Desk) : Nat :=
  (((d.call.environment.get? "COLUMNS").bind fun s => Text.parseNat? s.toList).filter
    (0 < ·)).getD 80

/-- Note that a configuration could not be loaded. -/
def faulty (d : Desk) (logger : String) (why : Error) : Desk :=
  d.log [.plain .error logger "Failed to load or validate configuration"
    [("error", .text why.message)]]

/-- Load the configuration and open a session with it. -/
def openSession (d : Desk) (given : Option Path) : Desk × Except Exit Session :=
  match d.loadConfig (d.configPath given) with
  | (d, .ok config) =>
    let d := match d.shared.setupFor config.logLevel with
      | some setup => d.configure setup
      | none => d
    let (d, s) := d.follow (.create config none d.tree d.call.environment d.width)
    (d, .ok s)
  | (d, .error why) =>
    if why.isConfiguration then
      ((d.faulty "cli.utils" why).notice ("Error: Configuration problem: " ++ why.message),
       .error (.code 1))
    else (d, .error (.escaped why))

end Desk

end Proctor.CommandLine
