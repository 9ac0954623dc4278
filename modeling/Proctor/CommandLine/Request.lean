import Proctor.CommandLine.Reading
import Proctor.Job
import Proctor.Log.Setup

/-!
# Requests

What the commands are asked to do, taken from the values that were read. The options
on the log can be given to the tool and to a command: the tool's are *shared* by
everything it does, those of a command are its own.
-/

namespace Proctor.CommandLine

/-! ## The log -/

/-- The options on the log, as they were given in one place. -/
structure LogOptions where
  level : Option String := none
  file : Option Path := none
  json : Option Bool := none
  deriving DecidableEq, Repr

/-- The options on the log among the values that were read. -/
def LogOptions.ofReadings (rs : Readings) : LogOptions :=
  { level := rs.text? .logLevel, file := rs.path? .logFile, json := rs.truth? .jsonLogs }

/-- What is shared about the log. -/
structure SharedLog where
  level : Option String := none
  file : Option Path := none
  json : Bool := false
  deriving DecidableEq, Repr

namespace SharedLog

/-- What the tool's own options share. -/
def ofOptions (o : LogOptions) : SharedLog :=
  { level := o.level, file := o.file, json := o.json.getD false }

/-- The level of a command is shared from then on; its file and its form are not. -/
def withLevelOf (shared : SharedLog) (own : LogOptions) : SharedLog :=
  { shared with level := own.level.or shared.level }

/-- The setup of the log: own options come before shared ones. -/
def setup (shared : SharedLog) (own : LogOptions) : Log.Setup :=
  .ofLevel ((own.level.or shared.level).getD "WARNING") (own.json.getD shared.json)
    (own.file.or shared.file)

/-- The setup of the log once the configuration is known, if that changes it: without
a shared level that of the configuration counts. -/
def setupFor (shared : SharedLog) (configured : String) : Option Log.Setup :=
  match shared.level with
  | some _ => none
  | none => some (shared.setup { level := some configured })

end SharedLog

/-! ## Runs -/

/-- The options of a run, from the values that were read. -/
def runOptionsOf (rs : Readings) : RunOptions :=
  { mode := .text ((rs.text? .mode).getD Mode.normal.name)
    output := rs.text? .output
    directory := rs.text? .directory
    timeout := (rs.number? .timeout).map Int.ofNat }

/-- Run the test that governs a line. -/
structure RunRequest where
  file : Path
  line : Option Nat
  language : Option String
  isDryRun : Bool
  options : RunOptions
  config : Option Path

/-- A run, from the values that were read. -/
def RunRequest.ofReadings (rs : Readings) : RunRequest :=
  { file := (rs.path? .file).getD Path.here
    line := rs.number? .line
    language := rs.text? .language
    isDryRun := (rs.truth? .dryRun).getD false
    options := runOptionsOf rs
    config := rs.path? .config }

/-- Run the tests at some targets. -/
structure BatchRequest where
  targets : List String
  language : Option String
  options : RunOptions
  config : Option Path

/-- A batch, from the values that were read. -/
def BatchRequest.ofReadings (rs : Readings) : BatchRequest :=
  { targets := rs.texts .targets
    language := rs.text? .language
    options := runOptionsOf rs
    config := rs.path? .config }

/-- Tell something about a file: its tests, or its counterpart. -/
structure FileRequest where
  file : Path
  language : Option String
  config : Option Path

/-- A question about a file, from the values that were read. -/
def FileRequest.ofReadings (rs : Readings) : FileRequest :=
  { file := (rs.path? .file).getD Path.here
    language := rs.text? .language
    config := rs.path? .config }

end Proctor.CommandLine
