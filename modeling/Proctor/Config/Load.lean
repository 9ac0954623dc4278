import Proctor.Builtin
import Proctor.Config
import Proctor.FileTree
import Proctor.Toml.Document

/-!
# Loading a configuration

A configuration is put together in stages. The file is read into a document, its
sections are taken out of it, the environment overrides single values, the profiles
of the file and then those of the current project are laid over the built-in ones,
and in the end every value is checked. Each stage is a function of its own, so what
takes precedence over what can be read off the order of the stages.
-/

namespace Proctor.Config

open Toml (Entries)

/-- Set the value of a key: in its place if it is present, else at the end. -/
def set {α : Type} (key : String) (v : α) : List (String × α) → List (String × α)
  | [] => [(key, v)]
  | (k, w) :: rest => if k = key then (k, v) :: rest else (k, w) :: set key v rest

/-- Entries with others laid over them. -/
def overlay {α : Type} (base upper : List (String × α)) : List (String × α) :=
  upper.foldl (fun acc e => set e.1 e.2 acc) base

/-- Read the document in a file. -/
def readDocument (tree : FileTree) (path : Path) : Except Error Entries :=
  match tree.read path with
  | .error (.unreachable .absent) => .error (.misconfigured (.fileMissing path.text))
  | .error _ => .error (.misconfigured (.fileUnreadable path.text))
  | .ok bytes =>
    match Text.Utf8.decode? bytes with
    | none => .error .notText
    | some cs =>
      match Toml.parse cs with
      | .ok entries => .ok entries
      | .error .illFormed => .error (.misconfigured (.fileIllFormed path.text))
      | .error .tooManyDigits => .error .noNumber

/-- The entries of a section; a document without the section has an empty one. -/
def sectionOf (name : String) (doc : Entries) : Except Error Entries :=
  match doc.lookup name with
  | none => .ok []
  | some (.table es) => .ok es
  | some v => .error (.misconfigured (.sectionNotTable name v.typeName))

/-- The sections that hold single settings, and the projects. -/
structure Sections where
  general : Entries
  output : Entries
  execution : Entries
  projects : Entries

/-- Take the sections out of a document. -/
def Sections.ofDocument (doc : Entries) : Except Error Sections := do
  return {
    general := ← sectionOf "global" doc
    output := ← sectionOf "output" doc
    execution := ← sectionOf "execution" doc
    projects := ← sectionOf "projects" doc }

/-- The variable that overrides the logging level. -/
def levelVariable : String := "TESTATPOINT_LOG_LEVEL"

/-- The variable that overrides the output mode. -/
def outputVariable : String := "TESTATPOINT_OUTPUT_MODE"

/-- The variable that overrides the timeout. -/
def timeoutVariable : String := "TESTATPOINT_TIMEOUT"

/-- Entries with the text of a variable in one place, if the variable is set. -/
def overrideText (env : Environment) (variable_ key : String) (es : Entries) : Entries :=
  match env.get? variable_ with
  | some s => set key (.text s) es
  | none => es

/-- The sections with the environment's values laid over them. -/
def Sections.overridden (env : Environment) (s : Sections) : Except Error Sections :=
  let general := overrideText env levelVariable "log_level" s.general
  let output := overrideText env outputVariable "mode" s.output
  match env.get? timeoutVariable with
  | none => .ok { s with general, output }
  | some text =>
    match Text.parseInt? text.toList with
    | some n => .ok { s with general, output, execution := set "timeout" (.int n) s.execution }
    | none => .error (.misconfigured (.timeoutText text))

/-- Lay the fields of a profile over those it has so far. -/
def mergeFields (tag : String) (base upper : Fields) : Except Error Fields :=
  let unknown := (upper.map (·.1)).filter (!Profile.fieldNames.contains ·)
  if unknown.isEmpty then .ok (overlay base upper)
  else .error (.misconfigured
    (.unknownKeys tag (unknown.mergeSort (· ≤ ·)) Profile.sortedFieldNames))

/-- Languages by tag, each by its fields. -/
abbrev Languages := List (String × Fields)

/-- Lay the languages of a file over those there are. -/
def mergeLanguages (path : String) : Languages → Entries → Except Error Languages
  | langs, [] => .ok langs
  | langs, (tag, .table upper) :: rest => do
    mergeLanguages path (set tag (← mergeFields tag ((langs.lookup tag).getD []) upper) langs) rest
  | _, (tag, _) :: _ => .error (.misconfigured (.languageNotTable tag path))

/-- Does a project's entry concern a language there is? -/
def concerns (langs : Languages) (tag : String) (v : Value) : Bool :=
  (langs.lookup tag).isSome && v.asTable?.isSome

/-- Lay the overrides of one project over the languages; an entry that concerns
none of them is passed over. -/
def mergeProject : Languages → Entries → Except Error Languages
  | langs, [] => .ok langs
  | langs, (tag, v) :: rest =>
    match langs.lookup tag, v with
    | some base, .table upper => do
      mergeProject (set tag (← mergeFields tag base upper) langs) rest
    | _, _ => mergeProject langs rest

/-- The overrides of a project, if the file has some. -/
def projectOverrides (project : String) (projects : Entries) : Option Entries :=
  (projects.lookup project).bind Value.asTable?

/-- The fields of all languages: the built-in ones, those of the file, and those
of the project, later ones laid over earlier ones. -/
def languageFields (path project : String) (doc projects : Entries) :
    Except Error Languages := do
  let langs ← mergeLanguages path Builtin.languages (← sectionOf "languages" doc)
  match projectOverrides project projects with
  | some upper => mergeProject langs upper
  | none => return langs

/-- The profile of a language; a faulty pattern is reported with its tag. -/
def profileOf (tag : String) (fields : Fields) : Except Error Profile :=
  match Profile.ofFields fields with
  | .error (.pattern fault none) => .error (.pattern fault (some tag))
  | r => r

/-- The profiles of all languages. -/
def profilesOf (langs : Languages) : Except Error (List (String × Profile)) :=
  langs.mapM fun l => do return (l.1, ← profileOf l.1 l.2)

/-- Refuse entries other than the named ones. -/
def onlyKeys (names : List String) (es : Entries) : Except Error Unit :=
  if es.all fun e => names.contains e.1 then .ok () else .error .wrongType

/-- The logging level of a section, checked. -/
def readLevel (es : Entries) : Except Error String := do
  onlyKeys ["log_level"] es
  match es.lookup "log_level" with
  | none => return "WARNING"
  | some (.text s) =>
    if ((Text.asciiUpper? s).map Unfit.logLevels.contains).getD false then return s
    else throw (.unfit (.logLevel s))
  | some _ => throw .noSuchPart

/-- One of some named things. -/
def readNamed {α : Type} (field : String) (named? : String → Option α) (names : List String)
    (v : Value) : Except Error α :=
  match (v.asText?).bind named? with
  | some x => .ok x
  | none => .error (.unfit (.choice field v names))

/-- The output mode of a section, checked. -/
def readOutput (es : Entries) : Except Error OutputMode := do
  onlyKeys ["mode"] es
  match es.lookup "mode" with
  | none => return .quickfix
  | some v => readNamed "mode" OutputMode.named? OutputMode.names v

/-- A timeout, checked. -/
def readTimeout (v : Value) : Except Error Nat :=
  match v with
  | .int (.ofNat (n + 1)) => .ok (n + 1)
  | v => .error (.unfit (.notPositive "timeout" v))

/-- The settings of the execution section, checked: the timeout, the rule for the
directory, and the additions to the environment. -/
def readExecution (es : Entries) : Except Error (Nat × DirectoryRule × Value) := do
  onlyKeys ["timeout", "cwd_strategy", "env"] es
  let timeout ← match es.lookup "timeout" with
    | none => pure 30000
    | some v => readTimeout v
  let directory ← match es.lookup "cwd_strategy" with
    | none => pure DirectoryRule.projectRoot
    | some v => readNamed "cwd_strategy" DirectoryRule.named? DirectoryRule.names v
  return (timeout, directory, (es.lookup "env").getD (.table []))

/-- Check every value: the profiles first, then the sections. -/
def check (langs : Languages) (s : Sections) : Except Error Config := do
  let languages ← profilesOf langs
  let logLevel ← readLevel s.general
  let output ← readOutput s.output
  let (timeout, directory, env) ← readExecution s.execution
  return { languages, logLevel, output, timeout, directory, env, projects := s.projects }

/-- How an error met while values are checked is reported. -/
def reported (path : Option String) : Error → Error
  | .wrongType => .misconfigured (.badType path)
  | .unfit why => .misconfigured (.badValue why path)
  | e => e

/-- The document of a configuration; without a file it is empty. -/
def document (tree : FileTree) (path : Option Path) : Except Error Entries :=
  match path with
  | some p => readDocument tree p
  | none => .ok []

/-- Load a configuration. Without a project name the name of the working directory
is the project's. -/
def load (tree : FileTree) (env : Environment) (path : Option Path) (project : Option String) :
    Except Error Config := do
  let doc ← document tree path
  let sections ← (← Sections.ofDocument doc).overridden env
  let pathText := path.map Path.text
  let langs ← languageFields (pathText.getD "") (project.getD tree.current.name) doc
    sections.projects
  (check langs sections).mapError (reported pathText)

end Proctor.Config
