import Proctor.Config
import Proctor.Layout.Block
import Proctor.Layout.Markup
import Proctor.Location
import Proctor.Log
import Proctor.Verdict

/-!
# Reports

What is printed about a job that is over. There are three ways: a list of places in
files, the whole transcript, and a box. A report can fail in the middle, when a text
that is read as markup is none; what was printed before stays.
-/

namespace Proctor

/-- What a report has printed, and the error that ended it early. -/
structure Report where
  lines : List Layout.Line := []
  failure : Option Error := none

namespace Report

open Layout (EmojiTable Markup)

/-- Some lines and nothing else. -/
def ofLines (lines : List Layout.Line) : Report := ⟨lines, none⟩

/-- Lines that may fail to come about. -/
def ofTry : Except Error (List Layout.Line) → Report
  | .ok lines => ofLines lines
  | .error e => ⟨[], some e⟩

/-- One report after another, unless the first one failed. -/
def andThen (a b : Report) : Report :=
  match a.failure with
  | some _ => a
  | none => ⟨a.lines ++ b.lines, b.failure⟩

/-- The printed text. -/
def text (r : Report) : String :=
  String.ofList (r.lines.flatMap fun l => l ++ ['\n'])

/-- The way of reporting that a name asks for, in either case. -/
def modeOf (name : String) : Except Error OutputMode :=
  match OutputMode.named? (Text.lower name) with
  | some m => .ok m
  | none => .error (.misconfigured (.unknownOutput name OutputMode.names))

/-- A text printed as it is. -/
def plain (width : Nat) (s : String) : List Layout.Line :=
  Layout.wrap .fold width (Layout.printed s)

/-- A text printed with its emoji codes read. -/
def withCodes [EmojiTable] (width : Nat) (s : String) : List Layout.Line :=
  Layout.wrap .fold width ((Layout.withEmoji s.toList).filter (!Layout.isSilent ·))

/-- The captured lines: first those of the output, then those of the errors. -/
def transcript [EmojiTable] (width : Nat) (j : Job) : List Layout.Line :=
  j.stdout.flatMap (withCodes width) ++ j.stderr.flatMap (plain width)

/-- The place that stands for a job whose output names none. -/
def fallback (j : Job) : Location :=
  ⟨j.test.file.text, j.test.line, j.test.column,
    j.test.nameText ++ ": " ++ (Verdict.ofJob j).label⟩

/-- The places to look at: none when the test passed. -/
def entries (j : Job) : Except Error (List Location) :=
  if (Verdict.ofJob j).isPass then .ok []
  else do
    match ← Location.ofLines j.directory (j.stdout ++ j.stderr) with
    | [] => return [fallback j]
    | found => return found

/-- A place as a row of the table. -/
def row [EmojiTable] [Markup] (l : Location) : Except Error (List Char × List Char) := do
  let place := l.file ++ ":" ++ toString l.line ++ ":" ++ toString l.column
  return (← Layout.markupText place, ← Layout.markupText l.text)

/-- The table of places; there is none without places. -/
def entryTable [EmojiTable] [Markup] (width : Nat) (found : List Location) :
    Except Error (List Layout.Line) :=
  if found.isEmpty then .ok []
  else do
    return Layout.table width ("Location".toList, "Message".toList) (← found.mapM row)

/-- The report that lists places in files. -/
def quickfix [EmojiTable] [Markup] (width : Nat) (j : Job) : Report :=
  match entries j with
  | .error e => ⟨[], some e⟩
  | .ok found =>
    let title := (Verdict.ofJob j).label ++ "  " ++ j.test.displayName
    ((ofLines (plain width title)).andThen (ofTry (entryTable width found))).andThen
      (ofLines (transcript width j))

/-- How long the job took, as part of a title. -/
def durationText (j : Job) : String :=
  match j.duration? with
  | some d => " in " ++ d.twoPlaces ++ "s"
  | none => ""

/-- The message of a job that has one. -/
def messageLines (width : Nat) (j : Job) : List Layout.Line :=
  match j.errorMessage with
  | some m => if m.isEmpty then [] else plain width m
  | none => []

/-- The report that shows the whole transcript. -/
def terminal [EmojiTable] [Markup] (width : Nat) (j : Job) : Report :=
  let last := j.state.emoji ++ " " ++ (Verdict.ofJob j).label ++ durationText j
  let first := (Layout.markupText ("$ " ++ " ".intercalate j.command)).map fun title =>
    [Layout.rule width title]
  (ofTry first).andThen (ofLines (transcript width j ++ messageLines width j ++
    [Layout.rule width (Layout.printed last)]))

/-- What stands in the box. -/
def boxed (j : Job) : List String :=
  let message := match j.errorMessage with
    | some m => if m.isEmpty then [] else [m]
    | none => []
  match j.stdout ++ j.stderr ++ message with
  | [] => ["(no output)"]
  | body => body

/-- The report in a box. -/
def floating (width : Nat) (j : Job) : Report :=
  ofLines (Layout.panel width (max (width * 4 / 5) 20)
    (Layout.printed (j.state.emoji ++ " " ++ j.test.displayName))
    (Layout.printed (Verdict.ofJob j).label) ((boxed j).map Layout.printed))

/-- The report on a job. -/
def ofJob [EmojiTable] [Markup] (mode : OutputMode) (width : Nat) (j : Job) : Report :=
  match mode with
  | .quickfix => quickfix width j
  | .terminal => terminal width j
  | .floating => floating width j

/-- How a report of a width is made, by the name of the way of reporting. -/
def sinkFor [EmojiTable] [Markup] (name : String) (width : Nat) : Except Error (Job → Report) :=
  (modeOf name).map fun mode => ofJob mode width

/-- What is said about a name that asks for no way of reporting. -/
def sinkRecords : Error → List Log.Record
  | .misconfigured (.unknownOutput name _) =>
    [{ level := .error, logger := "output.factory", event := "Unsupported output mode specified",
       entries := [("output_mode", .text name)] }]
  | _ => []

end Report

end Proctor
