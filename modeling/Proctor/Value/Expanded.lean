import Proctor.Error
import Proctor.Value.Order

/-!
# Values line by line

The written form of a value for readers: every item of a list and every entry of a
table has a line of its own, indented by four more than what holds it.
-/

namespace Proctor

/-- A value as it is laid out: a text, or a group with its two brackets, each member
behind its label. -/
inductive Expanded where
  | leaf (text : String)
  | group (opening closing : String) (members : List (String × Expanded))

namespace Expanded

mutual

/-- The lines of a value, with what stands before and behind it. -/
def lines (margin : Nat) (before behind : String) : Expanded → List String
  | leaf text => [String.ofList (List.replicate margin ' ') ++ before ++ text ++ behind]
  | group opening closing [] =>
    [String.ofList (List.replicate margin ' ') ++ before ++ opening ++ closing ++ behind]
  | group opening closing (m :: rest) =>
    let indent := String.ofList (List.replicate margin ' ')
    (indent ++ before ++ opening) :: memberLines (margin + 4) (m :: rest) ++
      [indent ++ closing ++ behind]

/-- The lines of the members of a group, with commas between them. -/
def memberLines (margin : Nat) : List (String × Expanded) → List String
  | [] => []
  | [(label, x)] => lines margin label "" x
  | (label, x) :: rest => lines margin label "," x ++ memberLines margin rest

end

/-- The text of a value. -/
def text (x : Expanded) : String := "\n".intercalate (lines 0 "" "" x)

/-- A table. -/
def table (entries : List (String × Expanded)) : Expanded :=
  group "\x7b" "\x7d" (entries.map fun e => (Text.quoted e.1 ++ ": ", e.2))

mutual

/-- The layout of a value. -/
def ofValue : Value → Expanded
  | .list items => .group "[" "]" (ofItems items)
  | .table entries => .group "\x7b" "\x7d" (ofEntries entries)
  | v => .leaf v.literal

/-- The layouts of the items of a list. -/
def ofItems : List Value → List (String × Expanded)
  | [] => []
  | v :: rest => ("", ofValue v) :: ofItems rest

/-- The layouts of the entries of a table. -/
def ofEntries : List (String × Value) → List (String × Expanded)
  | [] => []
  | (k, v) :: rest => (Text.quoted k ++ ": ", ofValue v) :: ofEntries rest

end

end Expanded

namespace Value

/-- Put a value under a key, in the place of the one that the same key had. -/
def putPair (key value : Value) : List (Value × Value) → List (Value × Value)
  | [] => [(key, value)]
  | (k, v) :: rest =>
    if k.same key then (k, value) :: rest else (k, v) :: putPair key value rest

/-- The key and the value that an item of a list stands for. -/
def pairOf (item : Value) : Except Error (Value × Value) :=
  match item.items? with
  | none => .error .wrongType
  | some [key, value] => if key.isMember then .ok (key, value) else .error .wrongType
  | some _ => .error .noPair

/-- The pairs of some items, later ones laid over earlier ones. -/
def pairsOf (done : List (Value × Value)) : List Value → Except Error (List (Value × Value))
  | [] => .ok done
  | item :: rest => do
    let (key, value) ← pairOf item
    pairsOf (putPair key value done) rest

/-- The keys and values of a table, or of a list of pairs. -/
def pairs (v : Value) : Except Error (List (Value × Value)) :=
  match v with
  | .table entries => .ok (entries.map fun e => (.text e.1, e.2))
  | v =>
    match v.items? with
    | some items => pairsOf [] items
    | none => .error .wrongType

end Value

/-- The layout of keys and values. -/
def Expanded.ofPairs (pairs : List (Value × Value)) : Expanded :=
  .group "\x7b" "\x7d" (pairs.map fun p => (p.1.literal ++ ": ", .ofValue p.2))

end Proctor
