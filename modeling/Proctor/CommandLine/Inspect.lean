import Proctor.CommandLine.Desk
import Proctor.Value.Expanded

/-!
# Questions

The commands that run nothing: they list the tests of a file, name its counterpart, or
show the configuration.
-/

namespace Proctor.CommandLine.Desk

/-- A test in a listing. -/
def entryOf (t : TestInfo) : String :=
  toString t.line ++ ":" ++ toString t.column ++ "\t" ++ t.nameText ++ "\t" ++
    (t.context.map (·.describe)).getD "-"

/-- List the tests of a file. -/
def list (d : Desk) (own : LogOptions) (r : FileRequest) : Desk × Exit :=
  match (d.configureFor own).openSession r.config with
  | (d, .error exit) => (d, exit)
  | (d, .ok s) =>
    let (s, found) := s.findAll r.file.text none r.language
    let d := (d.follow s).1
    match found with
    | .error why => (d, .escaped why)
    | .ok [] => (d.notice ("No tests found in " ++ r.file.text), .code 1)
    | .ok tests => (tests.foldl (fun d t => d.print (entryOf t)) d, .code 0)

/-- Name the counterpart of a file. -/
def switch (d : Desk) (own : LogOptions) (r : FileRequest) : Desk × Exit :=
  match (d.configureFor own).openSession r.config with
  | (d, .error exit) => (d, exit)
  | (d, .ok s) =>
    let (s, found) := s.counterpart r.file.text
    let d := (d.follow s).1
    match found with
    | .error why => (d, .escaped why)
    | .ok none => (d.notice ("No counterpart found for " ++ r.file.text), .code 1)
    | .ok (some path) => (d.print path.text, .code 0)

/-- The languages of a configuration, by tag. -/
def languagesOf (c : Config) : Except Error (List (String × Expanded)) :=
  (c.languages.mergeSort fun a b => a.1 ≤ b.1).mapM fun l =>
    l.2.toFields.map fun fields => (l.1, .ofValue (.table fields))

/-- A configuration as it is shown. -/
def shown (c : Config) : Except Error Expanded := do
  let env ← c.env.pairs
  let languages ← languagesOf c
  return .table [
    ("global", .table [("log_level", .ofValue (.text c.logLevel))]),
    ("output", .table [("mode", .ofValue (.text c.output.name))]),
    ("execution", .table [
      ("timeout", .ofValue (.int c.timeout)),
      ("cwd_strategy", .ofValue (.text c.directory.name)),
      ("env", .ofPairs env)]),
    ("languages", .table languages)]

/-- The part of the tool that shows configurations. -/
def configLogger : String := "cli.config"

/-- Show the configuration. -/
def showConfig (d : Desk) (own : LogOptions) (given : Option Path) : Desk × Exit :=
  let d := d.configureFor own
  let path := d.configPath given
  let pathText := path.map Path.text
  let d := d.log [.plain .info configLogger "Executing 'config show' command"
    [("config_path", .text (pathText.getD "<defaults>"))]]
  match d.loadConfig path with
  | (d, .ok config) =>
    match shown config with
    | .ok x => (d.print x.text, .code 0)
    | .error why => (d, .escaped why)
  | (d, .error why) =>
    if why.isConfiguration then
      ((d.faulty configLogger why).notice ("Error: Configuration problem in \x27" ++
        pathText.getD "None" ++ "\x27:\n" ++ why.message), .code 1)
    else (d, .escaped why)

end Proctor.CommandLine.Desk
