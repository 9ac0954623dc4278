import Proctor.Log.Written
import Proctor.Path

/-!
# Setting up the log

Which records are written, in which form, and to which file besides. A file always
gets the form for other programs.
-/

namespace Proctor.Log

/-- The name of a rank, if it has one. -/
def rankName (rank : Nat) : String :=
  match rank with
  | 50 => "CRITICAL"
  | 40 => "ERROR"
  | 30 => "WARNING"
  | 20 => "INFO"
  | 10 => "DEBUG"
  | 0 => "NOTSET"
  | n => "Level " ++ toString n

/-- How records are written. -/
structure Setup where
  /-- The name that the level was asked for by. -/
  level : String := "WARNING"
  /-- Records of a lower rank are left out. -/
  rank : Nat := 30
  /-- Are records written for other programs? -/
  json : Bool := false
  file : Option Path := none
  deriving DecidableEq, Repr

namespace Setup

/-- The setup for a level; an unknown level counts as that of warnings. -/
def ofLevel (level : String) (json : Bool) (file : Option Path) : Setup :=
  match rankNamed? level with
  | some rank => { level, rank, json, file }
  | none => { json, file }

/-- Is a record written? -/
def shows (s : Setup) (r : Record) : Bool := s.rank ≤ r.level.rank

/-- What is written of some records on the screen. -/
def screen (s : Setup) (time : String) (records : List Record) : String :=
  String.join ((records.filter s.shows).map fun r =>
    (if s.json then r.json time else r.line time) ++ "\n")

/-- What is written of some records to the file. -/
def fileText (s : Setup) (time : String) (records : List Record) : String :=
  String.join ((records.filter s.shows).map fun r => r.json time ++ "\n")

/-- What is said about the setup itself. -/
def records (s : Setup) : List Record :=
  let enabled := s.file.toList.map fun file =>
    Record.plain .info "testatpoint" "File logging enabled" [("log_file", .text file.text)]
  enabled ++ [
    .plain .debug "testatpoint" "Logging configured"
      [("log_level", .text (rankName s.rank)), ("json_console_format", .bool s.json),
       ("console_output_enabled", .bool true),
       ("log_file", .text ((s.file.map Path.text).getD "None"))],
    .plain .debug "cli.utils" "CLI logging initialized via utils"
      [("level", .text s.level), ("file", .text ((s.file.map Path.text).getD "console")),
       ("json", .bool s.json)]]

end Setup

end Proctor.Log
