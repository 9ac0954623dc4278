import Proctor.Profile
import Proctor.TestInfo

/-!
# Scopes

What encloses a test: suites told apart by their indentation, modules that a lone
brace closes as well, a class at the left margin, or the file as a whole. Each way
of finding it is a function of the lines, the line of the test, the profile and
the path of the file.
-/

namespace Proctor.Detection

/-- The text of the group of the first pattern that matches a line. -/
def firstCapture (patterns : List Pattern) (line : String) : Option String :=
  (patterns.findSome? fun p => (p.search? line).map Pattern.nameIn).join

/-- A suite or module that is open: its name and the indentation of its opener. -/
structure Scope where
  name : String
  indent : Nat
  deriving DecidableEq, Repr

/-- The number of blanks a line begins with. -/
def indentOf (line : String) : Nat := Text.indent line.toList

/-- The scope a line opens, if it opens one. -/
def openedBy (patterns : List Pattern) (line : String) : Option Scope :=
  (firstCapture patterns line).map fun name => ⟨name, indentOf line⟩

/-- Open a scope: those that are not indented less are over. The innermost scope
comes first. -/
def openScope (s : Scope) (stack : List Scope) : List Scope :=
  s :: stack.dropWhile fun t => s.indent ≤ t.indent

/-- Is the line a closing brace and nothing else? -/
def isLoneBrace (line : String) : Bool := Text.strip line.toList == ['\x7d']

/-- A lone brace closes the innermost scope, unless it is indented more than its
opener. -/
def closeScope (line : String) (stack : List Scope) : List Scope :=
  match stack with
  | [] => []
  | s :: outer => if isLoneBrace line && indentOf line ≤ s.indent then outer else s :: outer

/-- The scopes that are open after one more line. -/
def afterLine (braces : Bool) (patterns : List Pattern) (stack : List Scope) (line : String) :
    List Scope :=
  match openedBy patterns line with
  | some s => openScope s stack
  | none => if braces then closeScope line stack else stack

/-- The scopes that are open after some lines, the innermost first. -/
def openAfter (braces : Bool) (patterns : List Pattern) (lines : List String) : List Scope :=
  lines.foldl (afterLine braces patterns) []

/-- The lines before a line that counts from one. -/
def linesBefore (lines : List String) (line : Int) : List String :=
  lines.take (line - 1).toNat

/-- The context that open scopes make: their names from the outermost on. -/
def contextOf (separator : Value) (stack : List Scope) : Except Error Context :=
  match separator with
  | .text s =>
    Context.make (s.intercalate (stack.reverse.map (·.name))) (stack.length - 1 : Nat) false
  | _ => .error .noSuchPart

/-- The suites around a test, told apart by their indentation. -/
def suites (lines : List String) (line : Int) (p : Profile) :
    Except Error (Option Context) :=
  match openAfter false p.scopePatterns (linesBefore lines line) with
  | [] => .ok none
  | stack => (contextOf (p.separatorOr " > ") stack).map some

/-- The modules around a test, or else the file it stands in. -/
def modules (lines : List String) (line : Int) (p : Profile) (file : Option Path) :
    Except Error (Option Context) :=
  match openAfter true p.scopePatterns (linesBefore lines line) with
  | [] =>
    match file with
    | some path =>
      if path.stem.isEmpty then .ok none
      else (Context.make path.stem 0 true).map some
    | none => .ok none
  | stack => (contextOf (p.separatorOr "::") stack).map some

/-- The text after a word and at least one blank. -/
def afterWord? (word : List Char) (cs : List Char) : Option (List Char) :=
  if word.isPrefixOf cs then
    match cs.drop word.length with
    | c :: rest => if Text.isBlank c then some (Text.stripStart rest) else none
    | [] => none
  else none

/-- Does the line open a function or a class at the left margin? -/
def isOpener (line : String) : Bool :=
  let cs := line.toList
  let word (w : String) (cs : List Char) := afterWord? w.toList cs
  (word "def" cs).isSome || (word "class" cs).isSome ||
    ((word "async" cs).bind (word "def")).isSome

/-- Does the line hold nothing, or begin with blanks? -/
def isInner (line : String) : Bool :=
  Text.isBlankText line.toList || indentOf line > 0

/-- The class that the nearest line at the left margin opens, in lines given from
the last to the first. Lines that open nothing are passed over. -/
def classAbove (patterns : List Pattern) : List String → Except Error (Option Context)
  | [] => .ok none
  | line :: above =>
    if isInner line then classAbove patterns above
    else match firstCapture patterns line with
      | some name => (Context.make name 0 false).map some
      | none => if isOpener line then .ok none else classAbove patterns above

/-- The class around a test; a test at the left margin has none. -/
def enclosingClass (lines : List String) (line : Int) (p : Profile) :
    Except Error (Option Context) :=
  if line ≤ 0 then .ok none
  else match lines[line.toNat - 1]? with
    | none => .ok none
    | some text =>
      if indentOf text == 0 then .ok none
      else classAbove p.scopePatterns (linesBefore lines line).reverse

/-- The package of a file, named after its directory. -/
def package (file : Option Path) : Except Error (Option Context) :=
  match file with
  | none => .ok none
  | some path =>
    let name := path.parent.name
    if name.isEmpty then .ok none else (Context.make ("package " ++ name) 0 true).map some

/-- What encloses a test, found in the way a strategy says. -/
def enclosing (s : Strategy) (lines : List String) (line : Int) (p : Profile)
    (file : Option Path) : Except Error (Option Context) :=
  match s with
  | .indentStack => suites lines line p
  | .enclosingClass => enclosingClass lines line p
  | .fileScope => package file
  | .moduleBlock => modules lines line p file

end Proctor.Detection
