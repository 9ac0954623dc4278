import Proctor.Number.Shortest
import Proctor.Text.Quoted

/-!
# Values of configuration files

A configuration file can hold any value in any place, and a profile accepts some
of them unchecked. `Value` is what a file can hold, together with `null` for a
value left out. Two written forms matter: `Value.literal`, in which texts are
quoted, and `Value.text`, in which a text at the top stands for itself.
-/

namespace Proctor

/-- A calendar date. -/
structure Date where
  year : Nat
  month : Nat
  day : Nat
  deriving DecidableEq, Repr

/-- A time of day, to the microsecond. -/
structure TimeOfDay where
  hour : Nat
  minute : Nat
  second : Nat
  micro : Nat
  deriving DecidableEq, Repr

/-- A value of a configuration file. -/
inductive Value where
  | null
  | bool (b : Bool)
  | int (i : Int)
  | float (x : Number.Binary64)
  | text (s : String)
  | date (d : Date)
  | time (t : TimeOfDay)
  /-- A moment, with the minutes by which its zone is ahead of universal time. -/
  | dateTime (d : Date) (t : TimeOfDay) (offset : Option Int)
  | list (items : List Value)
  | table (entries : List (String × Value))
  deriving Repr, Inhabited

/-- A number in decimal, of at least the given width. -/
def padded (width n : Nat) : String :=
  let s := toString n
  String.ofList (List.replicate (width - s.length) '0') ++ s

namespace Date

/-- Year, month and day with hyphens between them. -/
def text (d : Date) : String :=
  padded 4 d.year ++ "-" ++ padded 2 d.month ++ "-" ++ padded 2 d.day

/-- The parts of a date, for its written form as a value. -/
def parts (d : Date) : List String :=
  [toString d.year, toString d.month, toString d.day]

end Date

namespace TimeOfDay

/-- Hour, minute, second and, if there is one, a fraction in microseconds. -/
def text (t : TimeOfDay) : String :=
  padded 2 t.hour ++ ":" ++ padded 2 t.minute ++ ":" ++ padded 2 t.second ++
    (if t.micro == 0 then "" else "." ++ padded 6 t.micro)

/-- The parts of a time, for its written form as a value; zeros at its end are
left out. -/
def parts (t : TimeOfDay) : List String :=
  [toString t.hour, toString t.minute] ++
    (if t.second == 0 && t.micro == 0 then [] else [toString t.second]) ++
    (if t.micro == 0 then [] else [toString t.micro])

end TimeOfDay

/-- An offset from universal time, as a suffix of a moment. -/
def offsetText (minutes : Int) : String :=
  (if minutes < 0 then "-" else "+") ++ padded 2 (minutes.natAbs / 60) ++ ":" ++
    padded 2 (minutes.natAbs % 60)

/-- An offset from universal time, in the written form of a value. -/
def offsetLiteral (minutes : Int) : String :=
  if minutes == 0 then "datetime.timezone.utc"
  else
    let days := if minutes < 0 then "days=-1, " else ""
    let seconds := (if minutes < 0 then minutes + 1440 else minutes) * 60
    "datetime.timezone(datetime.timedelta(" ++ days ++ "seconds=" ++ toString seconds ++ "))"

namespace Value

/-- The name of a value's type, as messages give it. -/
def typeName : Value → String
  | null => "NoneType"
  | bool _ => "bool"
  | int _ => "int"
  | float _ => "float"
  | text _ => "str"
  | date _ => "date"
  | time _ => "time"
  | dateTime .. => "datetime"
  | list _ => "list"
  | table _ => "dict"

/-- Does the value count as set? Nothing, zero and what is empty do not. -/
def isSet : Value → Bool
  | null => false
  | bool b => b
  | int i => i != 0
  | float x => !x.isZero
  | text s => !s.isEmpty
  | date _ | time _ | dateTime .. => true
  | list items => !items.isEmpty
  | table entries => !entries.isEmpty

mutual

/-- The written form of a value, texts quoted. -/
def literal : Value → String
  | null => "None"
  | bool true => "True"
  | bool false => "False"
  | int i => toString i
  | float x => x.text
  | text s => Text.quoted s
  | date d => "datetime.date(" ++ ", ".intercalate d.parts ++ ")"
  | time t => "datetime.time(" ++ ", ".intercalate t.parts ++ ")"
  | dateTime d t offset =>
    "datetime.datetime(" ++ ", ".intercalate (d.parts ++ t.parts) ++
      (match offset with
        | none => ""
        | some m => ", tzinfo=" ++ offsetLiteral m) ++ ")"
  | list items => Text.bracketed (literals items)
  | table entries => "\x7b" ++ ", ".intercalate (entryLiterals entries) ++ "\x7d"

/-- The written forms of the items of a list. -/
def literals : List Value → List String
  | [] => []
  | v :: rest => literal v :: literals rest

/-- The written forms of the entries of a table. -/
def entryLiterals : List (String × Value) → List String
  | [] => []
  | (k, v) :: rest => (Text.quoted k ++ ": " ++ literal v) :: entryLiterals rest

end

/-- The text of a value: a text stands for itself, a moment is written plainly. -/
def display : Value → String
  | text s => s
  | date d => d.text
  | time t => t.text
  | dateTime d t offset =>
    d.text ++ " " ++ t.text ++ (match offset with
      | none => ""
      | some m => offsetText m)
  | v => v.literal

/-- The text a value is, if it is one. -/
def asText? : Value → Option String
  | text s => some s
  | _ => none

theorem eq_text_of_asText? {v : Value} {s : String} (found : v.asText? = some s) :
    v = text s := by
  cases v with
  | text t => exact congrArg text (Option.some.inj found)
  | _ => cases found

/-- The entries of a table, if the value is one. -/
def asTable? : Value → Option (List (String × Value))
  | table entries => some entries
  | _ => none

/-- What a value gives when it is gone through item by item: the items of a list,
the characters of a text, the keys of a table. -/
def items? : Value → Option (List Value)
  | list items => some items
  | text s => some (s.toList.map fun c => text (String.singleton c))
  | table entries => some (entries.map fun e => text e.1)
  | _ => none

end Value

end Proctor
