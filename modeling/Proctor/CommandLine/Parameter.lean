import Proctor.Config
import Proctor.Log
import Proctor.Command

/-!
# Parameters

What a command can be given: options, which are known by their names, and arguments,
which are known by their places. A parameter says what its value may be and where it
comes from when the command line does not give it.
-/

namespace Proctor.CommandLine

/-- What a parameter is for. -/
inductive Key where
  | version
  | help
  | jsonLogs
  | logFile
  | logLevel
  | file
  | line
  | language
  | dryRun
  | timeout
  | directory
  | output
  | mode
  | config
  | targets
  deriving DecidableEq, Repr

/-- What the value of a parameter may be. -/
inductive Kind where
  /-- No value at all: the option is given or not. -/
  | flag
  | text
  | choice (names : List String)
  /-- One of some names, in either case. -/
  | choiceAnyCase (names : List String)
  /-- A whole number from one on. -/
  | positive
  /-- An existing file. -/
  | existingFile
  /-- A file that may have to be made, by its full path. -/
  | anyFile
  deriving DecidableEq, Repr

/-- Something that a command can be given. -/
structure Parameter where
  key : Key
  /-- The names of an option; an argument has none. -/
  names : List String := []
  /-- What an argument is called. -/
  title : String := ""
  kind : Kind
  /-- Does an argument take all that is there? -/
  many : Bool := false
  /-- The environment variable that stands in for the option. -/
  variableName : Option String := none
  /-- Is the variable named in messages? -/
  showsVariable : Bool := false
  default : Option String := none
  deriving DecidableEq, Repr

namespace Parameter

/-- Is it an argument? -/
def isArgument (p : Parameter) : Bool := p.names.isEmpty

/-- Does the option take a value? -/
def takesValue (p : Parameter) : Bool := p.kind != .flag

/-- Is the parameter dealt with before all others? -/
def isEager (p : Parameter) : Bool := p.key == .version || p.key == .help

/-- The parameter as messages name it. -/
def hint (p : Parameter) : String :=
  if p.isArgument then "\x27" ++ p.title ++ (if p.many then "..." else "") ++ "\x27"
  else " / ".intercalate (p.names.map fun n => "\x27" ++ n ++ "\x27") ++
    match p.variableName.filter fun _ => p.showsVariable with
    | some v => " (env var: \x27" ++ v ++ "\x27)"
    | none => ""

/-- Is the name a long one: two hyphens before it, or one before several characters? -/
def isLong (name : String) : Bool := name.startsWith "--"

/-- The long names of some parameters. -/
def longNames (ps : List Parameter) : List String :=
  (ps.flatMap (·.names)).filter isLong

/-- The option of a name. -/
def named? (ps : List Parameter) (name : String) : Option Parameter :=
  ps.find? fun p => p.names.contains name

/-! ## The parameters there are -/

/-- The option for the form of the log. -/
def jsonLogs : Parameter :=
  { key := .jsonLogs, names := ["--json-logs"], kind := .flag,
    variableName := some "TESTATPOINT_JSON_LOGS" }

/-- The option for the file of the log. -/
def logFile : Parameter :=
  { key := .logFile, names := ["--log-file"], kind := .anyFile,
    variableName := some "TESTATPOINT_LOG_FILE" }

/-- The option for the level of the log. -/
def logLevel : Parameter :=
  { key := .logLevel, names := ["-l", "--log-level"],
    kind := .choiceAnyCase (Log.ranks.map (·.1)),
    variableName := some "TESTATPOINT_LOG_LEVEL" }

/-- The options on the log. -/
def logging : List Parameter := [jsonLogs, logFile, logLevel]

/-- The option for the configuration file. -/
def config : Parameter :=
  { key := .config, names := ["-c", "--config-path"], kind := .existingFile,
    variableName := some "TESTATPOINT_CONF", showsVariable := true }

/-- The options of a run. -/
def running : List Parameter := [
  { key := .timeout, names := ["--timeout"], kind := .positive },
  { key := .directory, names := ["--cwd-strategy"], kind := .choice DirectoryRule.names },
  { key := .output, names := ["-o", "--output"], kind := .choice OutputMode.names },
  { key := .mode, names := ["-m", "--mode"], kind := .choice (Mode.all.map Mode.name),
    default := some Mode.normal.name }]

/-- The option for the language. -/
def language : Parameter := { key := .language, names := ["--language"], kind := .text }

/-- The file a command is about. -/
def file : Parameter := { key := .file, title := "FILE", kind := .existingFile }

/-- The option that asks for help. -/
def help : Parameter := { key := .help, names := ["-h", "--help"], kind := .flag }

end Parameter

end Proctor.CommandLine
