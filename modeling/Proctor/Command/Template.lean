import Proctor.Error
import Proctor.Text.Blank

/-!
# Command templates

A template is split at blanks first, and each field is filled in one pass
afterwards. What a placeholder stands for is therefore never split, and never
looked at for placeholders again. A per cent sign before any other character
stands for itself.
-/

namespace Proctor.Command

/-- What a template can ask for. -/
inductive Placeholder where
  /-- The name of the test. -/
  | name
  /-- The name with that of its context before it. -/
  | qualifiedName
  /-- The file as seen from the project's root. -/
  | file
  /-- The file with its whole path. -/
  | fullFile
  /-- The directory of the file. -/
  | directory
  /-- The name of the file without its ending. -/
  | stem
  /-- The ending of the file without its dot. -/
  | ending
  deriving DecidableEq, Repr

namespace Placeholder

/-- All placeholders. -/
def all : List Placeholder := [name, qualifiedName, file, fullFile, directory, stem, ending]

/-- The letter of a placeholder. -/
def letter : Placeholder → Char
  | name => 's'
  | qualifiedName => 'S'
  | file => 'f'
  | fullFile => 'F'
  | directory => 'd'
  | stem => 'n'
  | ending => 'e'

/-- The placeholder of a letter. -/
def ofLetter? (c : Char) : Option Placeholder := all.find? fun p => p.letter == c

end Placeholder

/-- One element of a field. -/
inductive Piece where
  | char (c : Char)
  | placeholder (p : Placeholder)
  deriving DecidableEq, Repr

/-- The elements of a field, read from left to right. -/
def pieces : List Char → List Piece
  | [] => []
  | ['%'] => [.char '%']
  | '%' :: c :: rest =>
    match Placeholder.ofLetter? c with
    | some p => .placeholder p :: pieces rest
    | none => .char '%' :: pieces (c :: rest)
  | c :: rest => .char c :: pieces rest

/-- The fields of a template. -/
def fields (template : String) : List (List Piece) :=
  (Text.words template.toList).map pieces

/-- A field with values in the place of its placeholders. -/
def fill (values : Placeholder → String) (field : List Piece) : List Char :=
  field.flatMap fun
    | .char c => [c]
    | .placeholder p => (values p).toList

/-- The words of a command: the filled fields that are not empty. -/
def expand (values : Placeholder → String) (template : String) : List String :=
  (((fields template).map (fill values)).filter fun w => !w.isEmpty).map String.ofList

/-- The placeholders of a field, in order. -/
def placeholdersOf (field : List Piece) : List Placeholder :=
  field.filterMap fun
    | .char _ => none
    | .placeholder p => some p

/-- Check that every placeholder of a field has a value, and that each value is a
text or nothing. -/
def checkField (values : List (String × Value)) (field : List Piece) : Except Error Unit :=
  let found := (placeholdersOf field).map fun p => values.lookup (String.singleton p.letter)
  if found.any (·.isNone) then .error .missingKey
  else if found.any fun v => match v with
    | some (.text _) | some .null => false
    | _ => true
  then .error .wrongType
  else .ok ()

/-- The words of a command whose values are given by letter; nothing stands for an
empty text. -/
def expandWith (values : List (String × Value)) (template : String) :
    Except Error (List String) := do
  for field in fields template do
    checkField values field
  return expand (fun p => ((values.lookup (String.singleton p.letter)).bind Value.asText?).getD "")
    template

/-- The placeholders that occur more than once in a template, by letter in the order
of code points. -/
def repeated (template : String) : List Placeholder :=
  let used := placeholdersOf (pieces template.toList)
  let sorted : List Placeholder :=
    [.fullFile, .qualifiedName, .directory, .ending, .file, .stem, .name]
  sorted.filter fun p => used.count p > 1

end Proctor.Command
