import Proctor.Toml.Scalar
import Proctor.Text.Line
import Proctor.Text.Utf8

/-!
# TOML documents

A document is read line by line into one table. Beside the table the reader keeps
which keys are closed: a table that has had its header, or was made by a dotted
key in an earlier section, cannot get one again; a list or table written in line
cannot be added to at all.
-/

namespace Proctor.Toml

/-- The entries of a table, in order of appearance. -/
abbrev Entries := List (String × Value)

/-- A dotted key. -/
abbrev Key := List String

/-- Replace the value of a key that is present. -/
def replace (key : String) (v : Value) (es : Entries) : Entries :=
  es.map fun e => if e.1 = key then (key, v) else e

/-- Change the table behind a dotted key, making the tables on the way. With
`throughLists`, a list on the way stands for its last item. -/
def changeAt (throughLists : Bool) (f : Entries → Option Entries) : Key → Entries → Option Entries
  | [], es => f es
  | k :: rest, es =>
    match es.lookup k with
    | none => (changeAt throughLists f rest []).map fun t => es ++ [(k, .table t)]
    | some (.table t) => (changeAt throughLists f rest t).map fun t => replace k (.table t) es
    | some (.list items) =>
      match items.getLast?, throughLists with
      | some (.table t), true =>
        (changeAt throughLists f rest t).map fun t =>
          replace k (.list (items.dropLast ++ [.table t])) es
      | _, _ => none
    | some _ => none

/-- Add an entry whose key is new. -/
def addEntry (key : String) (v : Value) (es : Entries) : Option Entries :=
  if (es.lookup key).isSome then none else some (es ++ [(key, v)])

/-- Add an empty table to a list of tables, which is made if need be. -/
def addTable (key : String) (es : Entries) : Option Entries :=
  match es.lookup key with
  | none => some (es ++ [(key, .list [.table []])])
  | some (.list items) => some (replace key (.list (items ++ [.table []])) es)
  | some _ => none

/-- A character of a key without quotes. -/
def isBare (c : Char) : Bool := c.isAlphanum || c == '-' || c == '_'

/-- One part of a key. -/
def keyPart (cs : List Char) : Reading String :=
  match cs with
  | '\'' :: rest => (literal rest).map fun p => (String.ofList p.1, p.2)
  | '"' :: rest => (basic false rest).map fun p => (String.ofList p.1, p.2)
  | _ =>
    let part := cs.takeWhile isBare
    if part.isEmpty then .error .illFormed else .ok (String.ofList part, cs.drop part.length)

/-- A dotted key and the blanks after it; the first argument bounds its parts. -/
def keyFrom : Nat → List Char → Except Fault (Key × List Char)
  | 0, _ => .error .illFormed
  | n + 1, cs => do
    let (part, rest) ← keyPart cs
    match skipSpace rest with
    | '.' :: rest =>
      let (parts, rest) ← keyFrom n (skipSpace rest)
      return (part :: parts, rest)
    | rest => return ([part], rest)

/-- A dotted key and the blanks after it. -/
def key (cs : List Char) : Reading Key := keyFrom (cs.length + 1) cs

/-- The text after blanks, line ends and comments; the first argument bounds the
number of comments. -/
def skipFiller : Nat → List Char → Except Fault (List Char)
  | 0, cs => .ok cs
  | n + 1, cs => do
    let rest := cs.dropWhile isSpaceOrBreak
    match rest with
    | '#' :: _ => skipFiller n (← skipComment rest)
    | _ => return rest

/-- The text after blanks, line ends and comments. -/
def filler (cs : List Char) : Except Fault (List Char) := skipFiller (cs.length + 1) cs

/-- Does the value hold entries or items of its own? -/
def isNest : Value → Bool
  | .list _ | .table _ => true
  | _ => false

/-- Is one of these keys the given one, or a beginning of it? -/
def coversKey (frozen : List Key) (k : Key) : Bool := frozen.any (·.isPrefixOf k)

mutual

/-- A value. The first argument bounds the depth and the number of steps. -/
def value : Nat → List Char → Except Fault (Value × List Char)
  | 0, _ => .error .illFormed
  | n + 1, cs =>
    match cs with
    | '[' :: rest => do
      let rest ← filler rest
      match rest with
      | ']' :: rest => return (.list [], rest)
      | _ => items n [] rest
    | '\x7b' :: rest =>
      match skipSpace rest with
      | '\x7d' :: rest => return (.table [], rest)
      | rest => inlineEntries n [] [] rest
    | _ => scalar cs

/-- The items of a list up to its closing bracket; `found` holds those read so far
in reverse. -/
def items : Nat → List Value → List Char → Except Fault (Value × List Char)
  | 0, _, _ => .error .illFormed
  | n + 1, found, cs => do
    let (v, rest) ← value n cs
    match ← filler rest with
    | ']' :: rest => return (.list (v :: found).reverse, rest)
    | ',' :: rest =>
      match ← filler rest with
      | ']' :: rest => return (.list (v :: found).reverse, rest)
      | rest => items n (v :: found) rest
    | _ => throw .illFormed

/-- The entries of a table in line, up to its closing brace. -/
def inlineEntries : Nat → List Key → Entries → List Char → Except Fault (Value × List Char)
  | 0, _, _, _ => .error .illFormed
  | n + 1, frozen, found, cs => do
    let (k, v, rest) ← keyValue n cs
    if coversKey frozen k then throw .illFormed
    match changeAt false (addEntry (k.getLast?.getD "") v) k.dropLast found with
    | none => throw .illFormed
    | some found =>
      match skipSpace rest with
      | '\x7d' :: rest => return (.table found, rest)
      | ',' :: rest =>
        inlineEntries n (if isNest v then k :: frozen else frozen) found (skipSpace rest)
      | _ => throw .illFormed

/-- A key, an equals sign and a value. -/
def keyValue : Nat → List Char → Except Fault (Key × Value × List Char)
  | 0, _ => .error .illFormed
  | n + 1, cs => do
    let (k, rest) ← key cs
    match rest with
    | '=' :: rest =>
      let (v, rest) ← value n (skipSpace rest)
      return (k, v, rest)
    | _ => throw .illFormed

end

/-- A document while it is read. -/
structure Draft where
  entries : Entries
  /-- The tables that cannot get a header any more. -/
  closed : List Key
  /-- The tables made by dotted keys of the current section. -/
  opened : List Key
  /-- What cannot be added to. -/
  frozen : List Key
  /-- The table the current section fills. -/
  header : Key

namespace Draft

/-- The beginning of a document. -/
def empty : Draft := ⟨[], [], [], [], []⟩

/-- The end of a section: the tables its dotted keys made are closed. -/
def endSection (d : Draft) : Draft :=
  { d with closed := d.opened ++ d.closed, opened := [] }

/-- The header of a table. -/
def startTable (d : Draft) (k : Key) : Except Fault Draft :=
  if d.closed.contains k || coversKey d.frozen k then .error .illFormed
  else match changeAt true some k d.entries with
    | none => .error .illFormed
    | some entries => .ok { d with entries, closed := k :: d.closed, header := k }

/-- The header of one of a list of tables: what was closed below the key belongs
to an earlier item. -/
def startItem (d : Draft) (k : Key) : Except Fault Draft :=
  if coversKey d.frozen k then .error .illFormed
  else
    let below (x : Key) := k.isPrefixOf x
    let closed := k :: d.closed.filter (!below ·)
    let frozen := d.frozen.filter (!below ·)
    match changeAt true (addTable (k.getLast?.getD "")) k.dropLast d.entries with
    | none => .error .illFormed
    | some entries => .ok { d with entries, closed, frozen, header := k }

/-- The proper beginnings of a dotted key. -/
def beginnings (k : Key) : List Key :=
  (List.range k.length).drop 1 |>.map fun i => k.take i

/-- A key with its value. -/
def addValue (d : Draft) (k : Key) (v : Value) : Except Fault Draft :=
  let made := (beginnings k).map (d.header ++ ·)
  let home := d.header ++ k.dropLast
  if made.any d.closed.contains || coversKey d.frozen home then .error .illFormed
  else match changeAt true (addEntry (k.getLast?.getD "") v) home d.entries with
    | none => .error .illFormed
    | some entries =>
      let frozen := if isNest v then (d.header ++ k) :: d.frozen else d.frozen
      .ok { d with entries, frozen, opened := made ++ d.opened }

end Draft

/-- The header of a section, after its first bracket. -/
def sectionHeader (d : Draft) (cs : List Char) : Except Fault (Draft × List Char) := do
  let d := d.endSection
  match cs with
  | '[' :: rest =>
    let (k, rest) ← key (skipSpace rest)
    let d ← d.startItem k
    match rest with
    | ']' :: ']' :: rest => return (d, rest)
    | _ => throw .illFormed
  | _ =>
    let (k, rest) ← key (skipSpace cs)
    let d ← d.startTable k
    match rest with
    | ']' :: rest => return (d, rest)
    | _ => throw .illFormed

/-- One statement: a header, a key with its value, or nothing. -/
def statement (d : Draft) (cs : List Char) : Except Fault (Draft × List Char) :=
  match cs with
  | '[' :: rest => sectionHeader d rest
  | c :: _ =>
    if isBare c || c == '"' || c == '\'' then do
      let (k, v, rest) ← keyValue (cs.length + 2) cs
      return (← d.addValue k v, rest)
    else if c == '#' || c == '\n' then .ok (d, cs)
    else .error .illFormed
  | [] => .ok (d, [])

/-- The statements of a document; the first argument bounds their number. -/
def statements : Nat → Draft → List Char → Except Fault Draft
  | 0, d, _ => .ok d
  | n + 1, d, cs => do
    let (d, rest) ← statement d (skipSpace cs)
    match ← skipComment (skipSpace rest) with
    | [] => return d
    | '\n' :: rest => statements n d rest
    | _ => throw .illFormed

/-- A carriage return before a line feed is no part of a document. -/
def dropReturns (done : List Char) : List Char → List Char
  | [] => done.reverse
  | '\r' :: '\n' :: rest => dropReturns ('\n' :: done) rest
  | c :: rest => dropReturns (c :: done) rest

/-- Read a document. -/
def parse (cs : List Char) : Except Fault Entries := do
  let cs := dropReturns [] cs
  return (← statements (cs.length + 1) .empty cs).entries

end Proctor.Toml
