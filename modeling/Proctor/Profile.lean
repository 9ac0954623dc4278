import Proctor.Error
import Proctor.Value.Order

/-!
# Language profiles

A profile says how tests of one language are found, named and run. Its fields are
read from values: patterns are compiled and extensions are put into lower case
without leading dots, so a profile that exists is usable. Root markers, naming
rules and the separator are taken as they stand.
-/

namespace Proctor

/-- How the context of a test is found. -/
inductive Strategy where
  | indentStack
  | enclosingClass
  | fileScope
  | moduleBlock
  deriving DecidableEq, Repr

namespace Strategy

/-- All strategies, in the order messages list them. -/
def all : List Strategy := [indentStack, enclosingClass, fileScope, moduleBlock]

/-- The name of a strategy. -/
def name : Strategy → String
  | indentStack => "indent_stack"
  | enclosingClass => "enclosing_class"
  | fileScope => "file_scope"
  | moduleBlock => "module_block"

/-- The strategy of a name. -/
def named? (s : String) : Option Strategy :=
  all.find? fun x => x.name == s

theorem named?_name (x : Strategy) : named? x.name = some x := by
  cases x <;> rfl

end Strategy

/-- What is known about a language. -/
structure Profile where
  patterns : List Pattern := []
  commands : List String := []
  debugCommands : Option (List String) := none
  coverageCommands : Option (List String) := none
  /-- A set: each member once. -/
  rootMarkers : List Value := []
  testFileNaming : List Value := []
  extensions : List String := []
  context : Option Strategy := none
  scopePatterns : List Pattern := []
  separator : Value := .null

/-- The fields of a profile, by name. -/
abbrev Fields := List (String × Value)

namespace Profile

/-- The names of the fields, in the order in which they are read. -/
def fieldNames : List String :=
  ["patterns", "commands", "debug_commands", "coverage_commands", "root_markers",
    "test_file_naming", "extensions", "context", "scope_patterns", "context_separator"]

/-- The field names in alphabetical order. -/
def sortedFieldNames : List String :=
  ["commands", "context", "context_separator", "coverage_commands", "debug_commands",
    "extensions", "patterns", "root_markers", "scope_patterns", "test_file_naming"]

/-- The items of a value. -/
def itemsOf (v : Value) : Except Error (List Value) :=
  match v.items? with
  | some items => .ok items
  | none => .error .wrongType

/-- Read patterns: none, a single one, or several. -/
def readPatterns (v : Value) : Except Error (List Pattern) := do
  let sources ← match v with
    | .null => pure []
    | .text s => pure [.text s]
    | v => itemsOf v
  sources.mapM fun s => (Pattern.ofValue s).mapError Error.ofPattern

/-- Read command templates, unchecked: none, a single one, or several. -/
def readTemplates (v : Value) : Except Error (List Value) :=
  match v with
  | .null => .ok []
  | .text s => .ok [.text s]
  | v => itemsOf v

/-- Read command templates that may be absent. -/
def readOptionalTemplates (v : Value) : Except Error (Option (List Value)) :=
  match v with
  | .null => .ok none
  | v => (readTemplates v).map some

/-- Read root markers: the members of a set. -/
def readMarkers (v : Value) : Except Error (List Value) := do
  let items ← itemsOf v
  if items.all (·.isMember) then return Value.distinct items else throw .wrongType

/-- An extension in its normal form. -/
def normalExtension (s : String) : String :=
  String.ofList ((Text.lower s).toList.dropWhile (· == '.'))

/-- Read extensions. -/
def readExtensions (v : Value) : Except Error (List String) :=
  if v.isSet then do
    (← itemsOf v).mapM fun e =>
      match e with
      | .text s => .ok (normalExtension s)
      | _ => .error .noSuchPart
  else .ok []

/-- Read the name of a strategy. -/
def readStrategy (v : Value) : Except Error (Option Strategy) :=
  let refused := Error.unfit (.choice "context" v (Strategy.all.map (·.name)))
  match v with
  | .null => .ok none
  | .text s =>
    match Strategy.named? s with
    | some x => .ok (some x)
    | none => .error refused
  | _ => .error refused

/-- A list of values as texts. -/
def texts (vs : List Value) : Except Error (List String) :=
  vs.mapM fun v =>
    match v with
    | .text s => .ok s
    | _ => .error .wrongType

/-- Read a profile from its fields. Fields are read in a fixed order, then the
strategy is looked up, and last the templates are looked at. -/
def ofFields (fields : Fields) : Except Error Profile := do
  if fields.any fun f => !fieldNames.contains f.1 then throw .wrongType
  let field (name : String) : Option Value := fields.lookup name
  let patterns ← readPatterns ((field "patterns").getD .null)
  let commands ← readTemplates ((field "commands").getD .null)
  let debugCommands ← readOptionalTemplates ((field "debug_commands").getD .null)
  let coverageCommands ← readOptionalTemplates ((field "coverage_commands").getD .null)
  let rootMarkers ← readMarkers ((field "root_markers").getD (.list []))
  let testFileNaming ← itemsOf ((field "test_file_naming").getD (.list []))
  let extensions ← readExtensions ((field "extensions").getD .null)
  let scopePatterns ← readPatterns ((field "scope_patterns").getD .null)
  let context ← readStrategy ((field "context").getD .null)
  let commands ← texts commands
  let debugCommands ← debugCommands.mapM texts
  let coverageCommands ← coverageCommands.mapM texts
  return { patterns, commands, debugCommands, coverageCommands, rootMarkers, testFileNaming,
           extensions, context, scopePatterns,
           separator := (field "context_separator").getD .null }

/-- All command templates: the normal ones, then those of the other modes. -/
def templates (p : Profile) : List String :=
  p.commands ++ p.debugCommands.getD [] ++ p.coverageCommands.getD []

/-- Texts as a list value. -/
def textList (ss : List String) : Value := .list (ss.map .text)

/-- Texts as a list value, or nothing. -/
def optionalTextList : Option (List String) → Value
  | none => .null
  | some ss => textList ss

/-- The fields of a profile, in the order in which they are declared. It has none
when its root markers cannot be put in order. -/
def toFields (p : Profile) : Except Error Fields :=
  match Value.sorted? p.rootMarkers with
  | none => .error .wrongType
  | some markers => .ok [
      ("patterns", textList (p.patterns.map (·.source))),
      ("commands", textList p.commands),
      ("debug_commands", optionalTextList p.debugCommands),
      ("coverage_commands", optionalTextList p.coverageCommands),
      ("root_markers", .list markers),
      ("test_file_naming", .list p.testFileNaming),
      ("extensions", textList p.extensions),
      ("context", (p.context.map fun x => Value.text x.name).getD .null),
      ("scope_patterns", textList (p.scopePatterns.map (·.source))),
      ("context_separator", p.separator)]

/-- The separator a profile asks for, if it asks for one. -/
def separatorOr (p : Profile) (default : String) : Value :=
  if p.separator.isSet then p.separator else .text default

end Profile

end Proctor
