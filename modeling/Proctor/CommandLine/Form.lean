import Proctor.CommandLine.Parameter

/-!
# Forms

The form of a command: its name as it is written out, what it can be given, and
whether options may follow its arguments. The parameters stand in the order in which
those are dealt with that were not given.
-/

namespace Proctor.CommandLine

/-- The commands. -/
inductive Verb where
  | run
  | batch
  | list
  | switch
  | showConfig
  deriving DecidableEq, Repr

/-- The form of a command. -/
structure Form where
  name : String
  parameters : List Parameter
  /-- What the usage line says about the arguments. -/
  arguments : String
  /-- Does the first argument, a command, take all that follows? -/
  isGroup : Bool := false
  deriving DecidableEq, Repr

namespace Form

/-- The tool itself. -/
def tool : Form where
  name := "cli"
  parameters := { key := .version, names := ["-V", "--version"], kind := .flag } ::
    Parameter.logging ++ [Parameter.help]
  arguments := " COMMAND [ARGS]..."
  isGroup := true

/-- The group of commands on the configuration. -/
def config : Form where
  name := "cli config"
  parameters := [Parameter.help]
  arguments := " COMMAND [ARGS]..."
  isGroup := true

/-- The form of a command. -/
def ofVerb : Verb → Form
  | .run =>
    { name := "cli run"
      parameters := [Parameter.file,
        { key := .line, names := ["-n", "--line"], kind := .positive }, Parameter.language,
        { key := .dryRun, names := ["--dry-run"], kind := .flag }] ++ Parameter.running ++
        Parameter.config :: Parameter.logging ++ [Parameter.help]
      arguments := " FILE" }
  | .batch =>
    { name := "cli batch"
      parameters := [{ key := .targets, title := "TARGETS", kind := .text, many := true },
        Parameter.language] ++ Parameter.running ++ Parameter.config :: Parameter.logging ++
        [Parameter.help]
      arguments := " TARGETS..." }
  | .list =>
    { name := "cli list"
      parameters := Parameter.file :: Parameter.language :: Parameter.config ::
        Parameter.logging ++ [Parameter.help]
      arguments := " FILE" }
  | .switch =>
    { name := "cli switch"
      parameters := Parameter.file :: Parameter.config :: Parameter.logging ++ [Parameter.help]
      arguments := " FILE" }
  | .showConfig =>
    { name := "cli config show"
      parameters := Parameter.config :: Parameter.logging ++ [Parameter.help]
      arguments := "" }

/-- The commands of the tool, by name; the group is none of them. -/
def toolVerb? (name : String) : Option Verb :=
  [("run", .run), ("batch", .batch), ("list", .list), ("switch", .switch)].lookup name

/-- The commands on the configuration, by name. -/
def configVerb? (name : String) : Option Verb := [("show", .showConfig)].lookup name

/-- How the command is used. -/
def usage (f : Form) : String := "Usage: " ++ f.name ++ " [OPTIONS]" ++ f.arguments

/-- Where to find out more. -/
def advice (f : Form) : String := "Try \x27" ++ f.name ++ " -h\x27 for help."

end Form

end Proctor.CommandLine
