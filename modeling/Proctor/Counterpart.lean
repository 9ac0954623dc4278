import Proctor.FileTree
import Proctor.Glob
import Proctor.Registry

/-!
# Test files and their sources

A test file is told by its name. Its counterpart is looked up under the usual names
in the usual directories, and counts only if it exists.
-/

namespace Proctor.Counterpart

/-- The directories that hold tests. -/
def testDirectories : List String := ["test", "tests", "__tests__", "spec"]

/-- The part of a naming rule that concerns the name of a file. -/
def nameRule (rule : String) : String :=
  String.ofList ((Text.splitOn '/' rule.toList).getLast?.getD [])

/-- The part of a naming rule that concerns the name of a file; a rule must be a
text. -/
def nameRuleOf (rule : Value) : Except Error String :=
  match rule with
  | .text s => .ok (nameRule s)
  | _ => .error .noSuchPart

/-- Does a name satisfy one of the rules? -/
def satisfiesAny (name : String) : List Value → Except Error Bool
  | [] => .ok false
  | rule :: rest => do
    if Glob.holds (← nameRuleOf rule) name then return true else satisfiesAny name rest

/-- Is the file a test file by the rules of a profile? -/
def isTestFile (path : Path) (p : Profile) : Except Error Bool :=
  satisfiesAny path.name p.testFileNaming

/-- The names under which the tests of a source file are looked for. -/
def testNames (source : Path) : List String :=
  ["test_" ++ source.name, source.stem ++ "_test" ++ source.ending,
    source.stem ++ ".test" ++ source.ending]

/-- The test directories in a directory. -/
def testDirectoriesIn (directory : Path) : List Path :=
  testDirectories.map directory.child

/-- The directories in which the tests of a source file are looked for. -/
def testPlaces (source : Path) : List Path :=
  let home := source.parent
  home :: testDirectoriesIn home ++
    (if home.parent = home then [] else testDirectoriesIn home.parent)

/-- The test file of a source file, if there is one. -/
def testFile? (tree : FileTree) (source : Path) : Option Path :=
  (testPlaces source).findSome? fun directory =>
    if tree.isDirectory directory then
      ((testNames source).map directory.child).find? tree.isFile
    else none

/-- A name that is formed like that of a test: what precedes the name of the source
and what follows it, before the ending. -/
structure NameForm where
  before : String
  after : String
  deriving DecidableEq, Repr

/-- The forms of the names of tests. -/
def nameForms : List NameForm := [⟨"test_", ""⟩, ⟨"", "_test"⟩, ⟨"", ".test"⟩, ⟨"", ".spec"⟩]

/-- A name cut at its last dot, when something follows it. -/
def cutEnding? (name : List Char) : Option (List Char × List Char) :=
  let ending := (name.reverse.takeWhile (· != '.')).reverse
  let rest := name.take (name.length - ending.length)
  if ending.isEmpty || rest.isEmpty then none else some (rest.dropLast, ending)

/-- The text between a beginning and an end. -/
def between? (before after : List Char) (cs : List Char) : Option (List Char) :=
  if before.isPrefixOf cs && after.isSuffixOf (cs.drop before.length) then
    let rest := cs.drop before.length
    some (rest.take (rest.length - after.length))
  else none

/-- The name of the source of a test, if the test's name has the form. -/
def NameForm.sourceName? (f : NameForm) (name : String) : Option String := do
  let (body, ending) ← cutEnding? name.toList
  let base ← between? f.before.toList f.after.toList body
  if base.isEmpty || base.contains '\n' then none
  else some (String.ofList (base ++ '.' :: ending))

/-- The directories in which the source of a test file is looked for. -/
def sourcePlaces (test : Path) : List Path :=
  let home := test.parent
  home :: (if testDirectories.contains home.name then [home.parent, home.parent.child "src"]
    else [])

/-- The source file of a test file, if there is one. -/
def sourceFile? (tree : FileTree) (test : Path) : Option Path :=
  (nameForms.filterMap (·.sourceName? test.name)).findSome? fun name =>
    ((sourcePlaces test).map (·.child name)).find? fun c => tree.isFile c && c != test

/-- Is a name formed like that of a test? -/
def isFormedLikeTest (name : String) : Bool :=
  nameForms.any fun f => (f.sourceName? name).isSome

/-- Is the file taken for a test? The rules of its language decide, or else the
form of its name. -/
def looksLikeTest (registry : Registry) (path : Path) : Except Error Bool :=
  match ((registry.languageFor? path).filter (!·.isEmpty)).bind registry.find? with
  | some p => isTestFile path p
  | none => .ok (isFormedLikeTest path.name)

/-- The counterpart of a file: the source of a test, the test of any other file. -/
def of (tree : FileTree) (registry : Registry) (path : Path) : Except Error (Option Path) := do
  if ← looksLikeTest registry path then return sourceFile? tree path
  else return testFile? tree path

/-- Does a naming rule use wildcards? -/
def hasWildcard (rule : String) : Bool :=
  rule.toList.any fun c => c == '*' || c == '?' || c == '['

/-- Do two stars stand in the text one after the other? -/
def hasDoubleStar : List Char → Bool
  | '*' :: '*' :: _ => true
  | _ :: rest => hasDoubleStar rest
  | [] => false

/-- Does the rule pick a file of the given name? Rules for directories pick none. -/
def picks (rule name : String) : Except Error Bool :=
  if ["", ".", "..", "**"].contains rule then .ok false
  else if hasDoubleStar rule.toList then .error (.unfit .doubleStar)
  else .ok (if hasWildcard rule then Glob.holds rule name else rule == name)

/-- The naming rules of all profiles, for names, each once. -/
def allRules (registry : Registry) : Except Error (List String) := do
  let rules ← (registry.entries.flatMap (·.2.testFileNaming)).mapM nameRuleOf
  return rules.eraseDups

/-- Does one of the rules pick a file of the given name? -/
def pickedBy (rules : List String) (name : String) : Except Error Bool := do
  return (← rules.mapM (picks · name)).contains true

/-- The test files below a directory, in order. -/
def testFilesBelow (tree : FileTree) (registry : Registry) (root : Path) :
    Except Error (List Path) := do
  if !tree.isDirectory root then return []
  let rules ← allRules registry
  let _ ← pickedBy rules ""
  let found ← (tree.files root).filterM fun p => pickedBy rules p.name
  return found.mergeSort fun a b => !b.before a

end Proctor.Counterpart
