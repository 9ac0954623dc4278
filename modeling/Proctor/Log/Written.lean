import Proctor.Log
import Proctor.Value.Json

/-!
# Written records

The two written forms of a log record. For readers it is one line: the time, the
level and the event in columns, the name of the speaker in brackets, and the entries
by name. For other programs it is one table.
-/

namespace Proctor.Log

/-- A text filled up with blanks. -/
def padEnd (width : Nat) (s : String) : String :=
  s ++ String.ofList (List.replicate (width - s.length) ' ')

/-- Does a text have to be quoted to be told from what stands around it? -/
def needsQuotes (s : String) : Bool :=
  s.toList.any fun c => [' ', '\t', '=', '\r', '\n', '"', '\x27'].contains c

/-- The value of an entry. -/
def entryText : Value → String
  | .text s => if needsQuotes s then Text.quoted s else s
  | v => v.literal

namespace Record

/-- The entries by name, without the trace of an error. -/
def shownEntries (r : Record) : Entries :=
  (r.entries.filter fun e => e.1 != "exc_info").mergeSort fun a b => a.1 ≤ b.1

/-- A record for readers. -/
def line (time : String) (r : Record) : String :=
  " ".intercalate ([time, "[" ++ padEnd 9 r.level.name ++ "]", padEnd 30 r.title,
    "[" ++ r.logger ++ "]"] ++ r.shownEntries.map fun e => e.1 ++ "=" ++ entryText e.2)

/-- A record for other programs. -/
def json (time : String) (r : Record) : String :=
  (Value.table (("timestamp", .text time) :: r.all)).json

end Record

end Proctor.Log
