import Proctor.Buffer
import Proctor.Detection.Locate
import Proctor.Detection.Resolver

/-!
# Sources

A source is what tests are looked for in: the lines of a file, together with its
language and the profile of that language. Opening a source can fail; of the two
lookups only the resolution of contexts can, so both depend on the source and the
registry alone.
-/

namespace Proctor

/-- The lines of a file, with its language and the profile of that. -/
structure Source where
  file : Path
  language : String
  profile : Profile
  lines : List String

namespace Source

/-- The language of a file: the given one, or else that of its ending. An empty
language counts as none. -/
def languageOf (registry : Registry) (file : String) (language : Option String) :
    Except Error String :=
  match language.filter (!·.isEmpty) with
  | some tag => .ok tag
  | none =>
    match (registry.languageFor? (Path.parse file)).filter (!·.isEmpty) with
    | some tag => .ok tag
    | none => .error (.misconfigured (.unknownKind file))

/-- Given lines, or else those of the file. -/
def linesOf (tree : FileTree) (file : Path) : Option (List String) → Except Error (List String)
  | some lines => .ok lines
  | none => Buffer.read tree file

/-- Open the source of a file. The profile is looked up before the file is read. -/
def ofFile (tree : FileTree) (registry : Registry) (file : String)
    (lines : Option (List String)) (language : Option String) : Except Error Source := do
  let path := Path.resolve tree.current (Path.parse file)
  let tag ← languageOf registry path.text language
  let profile ← registry.get tag
  return { file := path, language := tag, profile, lines := ← linesOf tree path lines }

/-- The test that governs a line, without its context. -/
def bareNearest (s : Source) (cursor : Int) : Option TestInfo :=
  Detection.nearest s.lines cursor s.profile.patterns s.file s.language

/-- All tests, without their contexts. -/
def bareAll (s : Source) : List TestInfo :=
  Detection.all s.lines s.profile.patterns s.file s.language

/-- The context of a test. -/
def contextOf (s : Source) (registry : Registry) (t : TestInfo) :
    Except Error (Option Context) :=
  Detection.resolve Strategy.all registry s.lines t.line s.language (some s.file)

/-- A test with its context. -/
def withContext (s : Source) (registry : Registry) (t : TestInfo) : Except Error TestInfo :=
  (s.contextOf registry t).map fun context => { t with context }

/-- The test that governs a line. -/
def nearest (s : Source) (registry : Registry) (cursor : Int) :
    Except Error (Option TestInfo) :=
  match s.bareNearest cursor with
  | some t => (s.withContext registry t).map some
  | none => .ok none

/-- All tests, in order. -/
def all (s : Source) (registry : Registry) : Except Error (List TestInfo) :=
  s.bareAll.mapM (s.withContext registry)

end Source

end Proctor
