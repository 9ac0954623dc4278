import Proctor.CommandLine.Inspect
import Proctor.CommandLine.Run

/-!
# The command line

A call of the tool from its words to its end. The tool's own options are read first
and set up the log; then the command is looked up, its words are read, and it is
performed. A command that does not exist is refused before anything is set up.
-/

namespace Proctor.CommandLine

/-- What a call leaves behind. -/
structure Result where
  exit : Exit
  stdout : String
  stderr : String
  tree : FileTree

/-- The version of the tool. -/
def version : String := "0.1.0"

namespace Desk

/-- The desk of a call. -/
def ofCall (c : Call) : Desk := { call := c, tree := c.tree }

/-- The result of the work. -/
def result (d : Desk) (exit : Exit) : Result := ⟨exit, d.stdout, d.stderr, d.finalTree⟩

/-- What a command line is read by. -/
def setting (d : Desk) : Setting := ⟨d.tree, d.call.environment⟩

/-- Refuse the words of a command. -/
def refuse (d : Desk) (f : Form) (why : Refusal) : Desk × Exit :=
  ({ d with stderr := d.stderr ++ String.ofList (plainFrom 0 (why.text f).toList) }, .code 2)

/-- Answer a question about the tool itself. -/
def tell (d : Desk) (f : Form) (key : Key) : Desk × Exit :=
  match key with
  | .version => (d.print (Form.tool.name ++ ", version " ++ version), .code 0)
  | _ => (d.print f.usage, .code 0)

/-- Perform a command with the values that were read. -/
def perform [Host] (d : Desk) (verb : Verb) (rs : Readings) : Desk × Exit :=
  let own := LogOptions.ofReadings rs
  match verb with
  | .run => d.run own (.ofReadings rs)
  | .batch =>
    match d.batch own (.ofReadings rs) with
    | (d, .ok exit) => (d, exit)
    | (d, .error why) => d.refuse (.ofVerb .batch) why
  | .list => d.list own (.ofReadings rs)
  | .switch => d.switch own (.ofReadings rs)
  | .showConfig => d.showConfig own (rs.path? .config)

/-- Read the words behind a command and perform it. -/
def command [Host] (d : Desk) (verb : Verb) (words : List String) : Desk × Exit :=
  let form := Form.ofVerb verb
  match form.read d.setting words with
  | .refused why => d.refuse form why
  | .asked key => d.tell form key
  | .readings rs _ => d.perform verb rs

/-- Does a word that names no command look like an option, so that help is given
instead? -/
def looksLikeOption (word : String) : Bool :=
  match word.toList with
  | c :: _ => !Text.isAlphanumeric c
  | [] => false

/-- Refuse a word that names no command of a group. -/
def unknownCommand (d : Desk) (f : Form) (word : String) : Desk × Exit :=
  if looksLikeOption word then d.tell f .help else d.refuse f (.unknownCommand word)

/-- A call of one of the commands on the configuration. -/
def configGroup [Host] (d : Desk) (words : List String) : Desk × Exit :=
  if words.isEmpty then d.tell Form.config .help
  else match Form.config.read d.setting words with
    | .refused why => d.refuse Form.config why
    | .asked key => d.tell Form.config key
    | .readings _ [] => d.refuse Form.config .noCommand
    | .readings _ (word :: rest) =>
      match Form.configVerb? word with
      | some verb => d.command verb rest
      | none => d.unknownCommand Form.config word

/-- The value of an option as it is noted. -/
def noted (s : Option String) : Value := (s.map Value.text).getD .null

/-- The desk with the log set up by the tool's own options. -/
def begin (d : Desk) (own : LogOptions) : Desk :=
  let shared := SharedLog.ofOptions own
  (({ d with shared } : Desk).configure (shared.setup {})).log
    [.plain .debug "cli.main" "Main CLI group initialized"
      [("log_level", noted own.level), ("log_file", noted (own.file.map Path.text)),
       ("json_logs", (own.json.map Value.bool).getD .null)]]

/-- Perform the command that the words behind the tool's own options name. -/
def dispatch [Host] (d : Desk) (own : LogOptions) : List String → Desk × Exit
  | [] => d.refuse Form.tool .noCommand
  | "config" :: rest => (d.begin own).configGroup rest
  | word :: rest =>
    match Form.toolVerb? word with
    | some verb => (d.begin own).command verb rest
    | none => d.unknownCommand Form.tool word

end Desk

/-- Do what a call asks for: the desk in the end, and how the call ends. -/
def work [Host] (c : Call) : Desk × Exit :=
  let d := Desk.ofCall c
  if c.words.isEmpty then d.tell Form.tool .help
  else match Form.tool.read d.setting c.words with
    | .refused why => d.refuse Form.tool why
    | .asked key => d.tell Form.tool key
    | .readings rs words => d.dispatch (.ofReadings rs) words

/-- A call of the tool. -/
def run [Host] (c : Call) : Result :=
  let (d, exit) := work c
  d.result exit

end Proctor.CommandLine
