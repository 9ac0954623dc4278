import Proctor.Text.Digit
import Proctor.Value

/-!
# Scalars of TOML

Strings, numbers, dates and times. Each reader takes the text from where its
scalar begins and gives the value with the text after it. A reader that does not
recognise its scalar answers `none`; a scalar that is recognised and wrong is a
fault of the document.
-/

namespace Proctor.Toml

/-- Why a text is no document. -/
inductive Fault where
  /-- It breaks the rules of the format. -/
  | illFormed
  /-- A decimal number has too many digits to be read. -/
  | tooManyDigits
  deriving DecidableEq, Repr

/-- What a reader gives: a value and the text after it. -/
abbrev Reading (α : Type) := Except Fault (α × List Char)

/-- A control character, the tabulator apart. -/
def isControl (c : Char) : Bool :=
  (c.toNat < 32 && c != '\t') || c.toNat == 127

/-- A control character that may not stand in a text of several lines. -/
def isControlInLines (c : Char) : Bool :=
  isControl c && c != '\n'

/-- Blanks within a line. -/
def isSpace (c : Char) : Bool := c == ' ' || c == '\t'

/-- Blanks and line ends. -/
def isSpaceOrBreak (c : Char) : Bool := isSpace c || c == '\n'

/-- The text after blanks within the line. -/
def skipSpace (cs : List Char) : List Char := cs.dropWhile isSpace

/-- The text after a comment, if one begins here; it ends before the line end. -/
def skipComment (cs : List Char) : Except Fault (List Char) :=
  match cs with
  | '#' :: rest =>
    if (rest.takeWhile (· != '\n')).any isControl then .error .illFormed
    else .ok (rest.dropWhile (· != '\n'))
  | _ => .ok cs

/-- The value of a hexadecimal digit. -/
def hexDigit? (c : Char) : Option Nat :=
  if c.isDigit then some (c.toNat - 48)
  else if 'a' ≤ c ∧ c ≤ 'f' then some (c.toNat - 87)
  else if 'A' ≤ c ∧ c ≤ 'F' then some (c.toNat - 55)
  else none

/-- The number written by digits of a base. -/
def numberIn (base : Nat) (cs : List Char) : Nat :=
  cs.foldl (fun n c => base * n + (hexDigit? c).getD 0) 0

/-- A character by its code point in `n` hexadecimal digits. -/
def hexChar (n : Nat) (cs : List Char) : Reading (List Char) :=
  let digits := cs.take n
  if digits.length == n && digits.all (fun c => (hexDigit? c).isSome) then
    let code := numberIn 16 digits
    if code.isValidChar then .ok ([Char.ofNat code], cs.drop n) else .error .illFormed
  else .error .illFormed

/-- A backslash before a line end, possibly with blanks between them, swallows
all blanks and line ends up to the next character. -/
def continuation (cs : List Char) : Reading (List Char) :=
  match skipSpace cs with
  | [] => .ok ([], [])
  | '\n' :: rest => .ok ([], rest.dropWhile isSpaceOrBreak)
  | _ => .error .illFormed

/-- An escape, after its backslash. -/
def escape (inLines : Bool) (cs : List Char) : Reading (List Char) :=
  match cs with
  | [] => .error .illFormed
  | c :: rest =>
    if inLines && isSpaceOrBreak c then continuation cs
    else match c with
      | 'b' => .ok (['\x08'], rest)
      | 't' => .ok (['\t'], rest)
      | 'n' => .ok (['\n'], rest)
      | 'f' => .ok (['\x0c'], rest)
      | 'r' => .ok (['\r'], rest)
      | '"' => .ok (['"'], rest)
      | '\\' => .ok (['\\'], rest)
      | 'u' => hexChar 4 rest
      | 'U' => hexChar 8 rest
      | _ => .error .illFormed

/-- The inside of a string in double quotes, up to and with its closing quotes.
`found` holds what is read so far in reverse; the first argument bounds the steps. -/
def basicFrom (inLines : Bool) : Nat → List Char → List Char → Reading (List Char)
  | 0, _, _ => .error .illFormed
  | _ + 1, _, [] => .error .illFormed
  | n + 1, found, c :: rest =>
    if c == '"' then
      if !inLines then .ok (found.reverse, rest)
      else match rest with
        | '"' :: '"' :: rest => .ok (found.reverse, rest)
        | _ => basicFrom inLines n (c :: found) rest
    else if c == '\\' then
      match escape inLines rest with
      | .ok (cs, rest) => basicFrom inLines n (cs.reverse ++ found) rest
      | .error e => .error e
    else if (if inLines then isControlInLines c else isControl c) then .error .illFormed
    else basicFrom inLines n (c :: found) rest

/-- The inside of a string in double quotes. -/
def basic (inLines : Bool) (cs : List Char) : Reading (List Char) :=
  basicFrom inLines (cs.length + 1) [] cs

/-- The inside of a string in single quotes, up to and with its closing quote. -/
def literal (cs : List Char) : Reading (List Char) :=
  let inside := cs.takeWhile (· != '\'')
  match cs.drop inside.length with
  | [] => .error .illFormed
  | _ :: rest => if inside.any isControl then .error .illFormed else .ok (inside, rest)

/-- The text before three single quotes, and after them. -/
def untilTripled (found : List Char) : List Char → Reading (List Char)
  | '\'' :: '\'' :: '\'' :: rest => .ok (found.reverse, rest)
  | c :: rest => untilTripled (c :: found) rest
  | [] => .error .illFormed

/-- Up to two quotes before the closing three belong to the text. -/
def extraQuotes (quote : Char) (text rest : List Char) : List Char × List Char :=
  match rest with
  | a :: more =>
    if a != quote then (text, rest)
    else match more with
      | b :: last => if b == quote then (text ++ [quote, quote], last) else (text ++ [quote], more)
      | [] => (text ++ [quote], more)
  | [] => (text, rest)

/-- A line end right after the opening quotes is no part of the text. -/
def dropFirstBreak : List Char → List Char
  | '\n' :: rest => rest
  | cs => cs

/-- A string of several lines, after its opening quotes. -/
def stringInLines (quote : Char) (cs : List Char) : Reading (List Char) :=
  let start := dropFirstBreak cs
  match if quote == '"' then basic true start else untilTripled [] start with
  | .error e => .error e
  | .ok (text, rest) =>
    if quote != '"' && text.any isControlInLines then .error .illFormed
    else .ok (extraQuotes quote text rest)

/-- A string of either kind. -/
def string? (cs : List Char) : Option (Reading Value) :=
  let asValue (r : Reading (List Char)) : Reading Value :=
    r.map fun p => (.text (String.ofList p.1), p.2)
  match cs with
  | '"' :: '"' :: '"' :: rest => some (asValue (stringInLines '"' rest))
  | '"' :: rest => some (asValue (basic false rest))
  | '\'' :: '\'' :: '\'' :: rest => some (asValue (stringInLines '\'' rest))
  | '\'' :: rest => some (asValue (literal rest))
  | _ => none

/-- Exactly `n` decimal digits, as a number. -/
def digits? (n : Nat) (cs : List Char) : Option (Nat × List Char) :=
  let ds := cs.take n
  if ds.length == n && ds.all Char.isDigit then some (numberIn 10 ds, cs.drop n) else none

/-- One expected character. -/
def char? (c : Char) : List Char → Option (List Char)
  | x :: rest => if x == c then some rest else none
  | [] => none

/-- A number within bounds, in exactly two digits. -/
def twoDigits? (low high : Nat) (cs : List Char) : Option (Nat × List Char) :=
  match digits? 2 cs with
  | some (n, rest) => if low ≤ n && n ≤ high then some (n, rest) else none
  | none => none

/-- A fraction of a second: six digits count, further ones do not. -/
def fraction (cs : List Char) : Nat × List Char :=
  match cs with
  | '.' :: rest =>
    let ds := rest.takeWhile Char.isDigit
    if ds.isEmpty then (0, cs)
    else
      let six := ds.take 6
      (numberIn 10 (six ++ List.replicate (6 - six.length) '0'), rest.drop ds.length)
  | _ => (0, cs)

/-- A time of day. -/
def time? (cs : List Char) : Option (TimeOfDay × List Char) := do
  let (hour, cs) ← twoDigits? 0 23 cs
  let cs ← char? ':' cs
  let (minute, cs) ← twoDigits? 0 59 cs
  let cs ← char? ':' cs
  let (second, cs) ← twoDigits? 0 59 cs
  let (micro, cs) := fraction cs
  return (⟨hour, minute, second, micro⟩, cs)

/-- An offset in minutes, if one follows. -/
def offset (cs : List Char) : Option Int × List Char :=
  match cs with
  | [] => (none, [])
  | c :: rest =>
    if c == 'Z' || c == 'z' then (some 0, rest)
    else if c == '+' || c == '-' then
      let read := do
        let (hours, cs) ← twoDigits? 0 23 rest
        let cs ← char? ':' cs
        let (minutes, cs) ← twoDigits? 0 59 cs
        let n : Int := hours * 60 + minutes
        return (if c == '-' then -n else n, cs)
      match read with
      | some (n, cs) => (some n, cs)
      | none => (none, cs)
    else (none, cs)

/-- The number of days of a month. -/
def daysIn (year month : Nat) : Nat :=
  if month == 2 then
    if year % 4 == 0 && (year % 100 != 0 || year % 400 == 0) then 29 else 28
  else if [4, 6, 9, 11].contains month then 30
  else 31

/-- The form of a date, without a look at the calendar. -/
def date? (cs : List Char) : Option (Date × List Char) := do
  let (year, cs) ← digits? 4 cs
  let cs ← char? '-' cs
  let (month, cs) ← twoDigits? 1 12 cs
  let cs ← char? '-' cs
  let (day, cs) ← twoDigits? 1 31 cs
  return (⟨year, month, day⟩, cs)

/-- The time of day after a date, with the letter or blank before it. -/
def timeAfterDate? : List Char → Option (TimeOfDay × List Char)
  | c :: rest => if c == 'T' || c == 't' || c == ' ' then time? rest else none
  | [] => none

/-- A date, a moment or a time of day. -/
def dateOrTime? (cs : List Char) : Option (Reading Value) :=
  match date? cs with
  | some (d, rest) =>
    if d.year == 0 || d.day > daysIn d.year d.month then some (.error .illFormed)
    else match timeAfterDate? rest with
      | some (t, rest) =>
        let (zone, rest) := offset rest
        some (.ok (.dateTime d t zone, rest))
      | none => some (.ok (.date d, rest))
  | none => (time? cs).map fun p => .ok (.time p.1, p.2)

/-- Digits of a class with single underscores between them: the digits, and the
text after them. -/
def digitRun (p : Char → Bool) : List Char → List Char × List Char
  | '_' :: c :: rest =>
    if p c then
      let (ds, more) := digitRun p rest
      (c :: ds, more)
    else ([], '_' :: c :: rest)
  | c :: rest =>
    if p c then
      let (ds, more) := digitRun p rest
      (c :: ds, more)
    else ([], c :: rest)
  | [] => ([], [])

/-- Like `digitRun`, but the run must begin with a digit. -/
def digitRun? (p : Char → Bool) (cs : List Char) : Option (List Char × List Char) :=
  match cs with
  | c :: _ => if p c then some (digitRun p cs) else none
  | [] => none

/-- A number in base sixteen, eight or two. -/
def based? : List Char → Option (Nat × List Char)
  | '0' :: 'x' :: rest =>
    (digitRun? (fun c => (hexDigit? c).isSome) rest).map fun p => (numberIn 16 p.1, p.2)
  | '0' :: 'b' :: rest =>
    (digitRun? (fun c => c == '0' || c == '1') rest).map fun p => (numberIn 2 p.1, p.2)
  | '0' :: 'o' :: rest =>
    (digitRun? (fun c => '0' ≤ c && c ≤ '7') rest).map fun p => (numberIn 8 p.1, p.2)
  | _ => none

/-- A sign, if there is one: whether it is a minus, and the text after it. -/
def sign : List Char → Bool × List Char
  | '-' :: rest => (true, rest)
  | '+' :: rest => (false, rest)
  | cs => (false, cs)

/-- The whole part of a decimal number: a zero, or digits that begin with none. -/
def whole? : List Char → Option (List Char × List Char)
  | '0' :: rest => some (['0'], rest)
  | c :: rest => if c.isDigit then some (digitRun Char.isDigit (c :: rest)) else none
  | [] => none

/-- The digits after a decimal point, if there are some. -/
def fractionDigits (cs : List Char) : Option (List Char) × List Char :=
  match cs with
  | '.' :: rest =>
    match digitRun? Char.isDigit rest with
    | some (ds, more) => (some ds, more)
    | none => (none, cs)
  | _ => (none, cs)

/-- An exponent, if there is one. -/
def exponent (cs : List Char) : Option Int × List Char :=
  match cs with
  | c :: rest =>
    if c == 'e' || c == 'E' then
      let (negative, rest) := sign rest
      match digitRun? Char.isDigit rest with
      | some (ds, more) =>
        let n : Int := numberIn 10 ds
        (some (if negative then -n else n), more)
      | none => (none, cs)
    else (none, cs)
  | [] => (none, cs)

/-- A whole or fractional number. -/
def number? (cs : List Char) : Option (Reading Value) :=
  match based? cs with
  | some (n, rest) => some (.ok (.int n, rest))
  | none =>
    let (negative, start) := sign cs
    match whole? start with
    | none => none
    | some (ds, rest) =>
      let (fraction, rest) := fractionDigits rest
      let (power, rest) := exponent rest
      if fraction.isNone && power.isNone then
        if ds.length > Text.maxDigits then some (.error .tooManyDigits)
        else
          let n : Int := numberIn 10 ds
          some (.ok (.int (if negative then -n else n), rest))
      else
        let after := fraction.getD []
        let d : Number.Decimal := ⟨numberIn 10 (ds ++ after), power.getD 0 - after.length⟩
        some (.ok (.float (d.toBinary64 negative), rest))

/-- Infinity and what is no number, after their sign. -/
def special? (cs : List Char) : Option (Reading Value) :=
  let (negative, start) := sign cs
  match start with
  | 'i' :: 'n' :: 'f' :: rest => some (.ok (.float (Number.infinity negative), rest))
  | 'n' :: 'a' :: 'n' :: rest => some (.ok (.float Number.notANumber, rest))
  | _ => none

/-- A truth value. -/
def bool? : List Char → Option (Reading Value)
  | 't' :: 'r' :: 'u' :: 'e' :: rest => some (.ok (.bool true, rest))
  | 'f' :: 'a' :: 'l' :: 's' :: 'e' :: rest => some (.ok (.bool false, rest))
  | _ => none

/-- A value that is neither a list nor a table. -/
def scalar (cs : List Char) : Reading Value :=
  ((string? cs <|> bool? cs <|> dateOrTime? cs <|> number? cs <|> special? cs).getD
    (.error .illFormed))

end Proctor.Toml
