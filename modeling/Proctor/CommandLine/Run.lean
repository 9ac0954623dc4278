import Proctor.CommandLine.Batch
import Proctor.Command.Words

/-!
# Single runs

Run the test that governs a line of a file, or print the command that would run it.
-/

namespace Proctor.CommandLine.Desk

/-- The line that counts: the given one, or else the last line of the file. -/
def cursorFor (line : Option Nat) (lines : List String) : Nat :=
  line.getD (max lines.length 1)

/-- Print the command for a test. -/
def printCommand (d : Desk) (s : Session) (t : TestInfo) (mode : Value) : Desk × Exit :=
  let (records, command) := s.commandFor t mode
  let d := d.log records
  match command with
  | .ok words => (d.print (Command.line words), .code 0)
  | .error why =>
    if why.isConfiguration || why.isBuild then (d.notice ("Error: " ++ why.message), .code 1)
    else (d, .escaped why)

/-- Find the test that governs a line of a file, in a session of its own. Where the run
ends without one, it ends here. -/
def reach (d : Desk) (own : LogOptions) (r : RunRequest) :
    Except (Desk × Exit) (Desk × Session × TestInfo) :=
  match (d.configureFor own).openSession r.config with
  | (d, .error exit) => .error (d, exit)
  | (d, .ok s) =>
    match Buffer.read s.tree r.file with
    | .error why => .error (d, .escaped why)
    | .ok lines =>
      let cursor := cursorFor r.line lines
      let (s, found) := s.locate r.file.text (some lines) cursor r.language
      let (d, s) := d.follow s
      match found with
      | .error why =>
        if why.isConfiguration then .error (d.notice ("Error: " ++ why.message), .code 1)
        else .error (d, .escaped why)
      | .ok none =>
        .error (d.notice ("No test found at or above line " ++ toString cursor ++ " of " ++
          r.file.text), .code 1)
      | .ok (some t) => .ok (d, s, t)

/-- Tell what has come of the run of a test. -/
def tellRun (d : Desk) (t : TestInfo) : Session × Except Error (Option Nat) → Desk × Exit
  | (s, .error why) => ((d.follow s).1, .escaped why)
  | (s, .ok none) =>
    ((d.follow s).1.notice ("Error: could not run test \x27" ++ t.nameText ++ "\x27"), .code 1)
  | (s, .ok (some id)) => ((d.follow s).1, exitFor s [id])

/-- Run the test that governs a line of a file, or print its command: how that ends, and the
session in its last state, as far as a test was found. -/
def runIn [Host] (d : Desk) (own : LogOptions) (r : RunRequest) :
    (Desk × Exit) × Option Session :=
  match d.reach own r with
  | .error ended => (ended, none)
  | .ok (d, s, t) =>
    if r.isDryRun then (d.printCommand s t r.options.mode, some s)
    else
      let ran := s.runToEnd t r.options
      (d.tellRun t ran, some ran.1)

/-- Run the test that governs a line of a file. -/
def run [Host] (d : Desk) (own : LogOptions) (r : RunRequest) : Desk × Exit := (d.runIn own r).1

end Proctor.CommandLine.Desk
