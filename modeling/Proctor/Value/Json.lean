import Proctor.Value

/-!
# Values as JSON

The written form of a value in which it is recorded for other programs: one line,
plain characters only, a blank behind each comma and colon, and the keys of a table
in order.
-/

namespace Proctor

namespace Text

/-- A character outside the plane that four digits reach is written as two. -/
def escapedUnits (n : Nat) : List Nat :=
  if n < 0x10000 then [n]
  else [0xd800 + (n - 0x10000) / 0x400, 0xdc00 + (n - 0x10000) % 0x400]

/-- A character inside quotes. -/
def escapedChar (c : Char) : List Char :=
  match c with
  | '"' => ['\\', '"']
  | '\\' => ['\\', '\\']
  | '\n' => ['\\', 'n']
  | '\r' => ['\\', 'r']
  | '\t' => ['\\', 't']
  | '\x08' => ['\\', 'b']
  | '\x0c' => ['\\', 'f']
  | c =>
    if ' ' ≤ c && c ≤ '~' then [c]
    else (escapedUnits c.toNat).flatMap fun n => '\\' :: 'u' :: hex 4 n

/-- A text in double quotes, in plain characters. -/
def escaped (s : String) : String :=
  String.ofList ('"' :: s.toList.flatMap escapedChar ++ ['"'])

end Text

namespace Value

/-- A number that is no whole one; what is no number has a name. -/
def jsonFloat (x : Number.Binary64) : String :=
  match x.text with
  | "nan" => "NaN"
  | "inf" => "Infinity"
  | "-inf" => "-Infinity"
  | s => s

/-- Entries by key. -/
def sortedEntries (es : List (String × String)) : List (String × String) :=
  es.mergeSort fun a b => a.1 ≤ b.1

/-- A table from the written forms of its values. -/
def jsonTable (es : List (String × String)) : String :=
  "\x7b" ++ ", ".intercalate ((sortedEntries es).map fun e =>
    Text.escaped e.1 ++ ": " ++ e.2) ++ "\x7d"

mutual

/-- A value as JSON; dates and times are given as texts. -/
def json : Value → String
  | null => "null"
  | bool true => "true"
  | bool false => "false"
  | int i => toString i
  | float x => jsonFloat x
  | text s => Text.escaped s
  | date d => Text.escaped (date d).literal
  | time t => Text.escaped (time t).literal
  | dateTime d t offset => Text.escaped (dateTime d t offset).literal
  | list items => "[" ++ ", ".intercalate (jsonItems items) ++ "]"
  | table entries => jsonTable (jsonEntries entries)

/-- The items of a list as JSON. -/
def jsonItems : List Value → List String
  | [] => []
  | v :: rest => json v :: jsonItems rest

/-- The values of a table as JSON, each with its key. -/
def jsonEntries : List (String × Value) → List (String × String)
  | [] => []
  | (k, v) :: rest => (k, json v) :: jsonEntries rest

end

end Value

end Proctor
