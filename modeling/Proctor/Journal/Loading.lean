import Proctor.Command.Template
import Proctor.Config.Load
import Proctor.Log

/-!
# What loading a configuration says

The records that loading leaves in the journal, stage by stage. A stage that fails is
the last one that says something, and only a configuration that was loaded is
announced at the end.
-/

namespace Proctor.Journal

open Config (Languages Sections)

/-- The part of the tool that loads configurations. -/
def loader : String := "config.loader"

/-- What is said about the source of the document. -/
def ofSource (path : Option Path) : Log.Record :=
  match path with
  | some p => .plain .debug loader "Loading configuration file" [("path", .text p.text)]
  | none => .plain .debug loader "No configuration file given, using built-in defaults" []

/-- What is said about a variable that overrides a setting. -/
def ofVariable (environment : Environment) (name event : String) : List Log.Record :=
  (environment.get? name).toList.map fun value =>
    .plain .debug loader event [("value", .text value)]

/-- What is said about the environment's overrides. -/
def ofEnvironment (environment : Environment) : List Log.Record :=
  ofVariable environment Config.levelVariable "Overriding log_level from environment" ++
    ofVariable environment Config.outputVariable "Overriding output mode from environment"

/-- What is said about the entries of a project, up to the first that is faulty. -/
def ofOverrides (project : String) : Languages → Toml.Entries → List Log.Record
  | _, [] => []
  | langs, (tag, v) :: rest =>
    match langs.lookup tag, v with
    | some base, .table upper =>
      match Config.mergeFields tag base upper with
      | .ok fields => ofOverrides project (Config.set tag fields langs) rest
      | .error _ => []
    | _, _ =>
      .plain .warning loader "Ignoring project override for unknown language"
        [("project", .text project), ("language", .text tag)] :: ofOverrides project langs rest

/-- What is said about the overrides of the current project. -/
def ofProject (project : String) (langs : Languages) (projects : Toml.Entries) :
    List Log.Record :=
  match Config.projectOverrides project projects with
  | some upper =>
    .plain .info loader "Applying project-specific overrides" [("project", .text project)] ::
      ofOverrides project langs upper
  | none => []

/-- What is said about a template: only that it repeats some placeholders. -/
def ofTemplate (template : String) : List Log.Record :=
  let repeated := Command.repeated template
  if repeated.isEmpty then []
  else [.plain .warning "config.models"
    "Command template repeats a placeholder; every occurrence receives the same value"
    [("template", .text template),
     ("placeholders", .list (repeated.map fun p =>
       .text ("%" ++ String.singleton p.letter)))]]

/-- What is said about the profiles, up to the first that is faulty. -/
def ofProfiles : Languages → List Log.Record
  | [] => []
  | (tag, fields) :: rest =>
    match Config.profileOf tag fields with
    | .ok p => p.templates.flatMap ofTemplate ++ ofProfiles rest
    | .error _ => []

/-- What is said about a configuration that has been loaded. -/
def ofLoaded (path : Option Path) (c : Config) : Log.Record :=
  .plain .info loader "Configuration loaded"
    [("path", .text ((path.map Path.text).getD "<defaults>")),
     ("languages", .list (((c.languages.map (·.1)).mergeSort (· ≤ ·)).map .text)),
     ("output_mode", .text c.output.name), ("cwd_strategy", .text c.directory.name)]

/-- What is said from the merging of the languages on. -/
def ofMerging (tree : FileTree) (environment : Environment) (path : Option Path)
    (project : String) (doc projects : Toml.Entries) : List Log.Record :=
  let pathText := (path.map Path.text).getD ""
  match (Config.sectionOf "languages" doc).bind
      (Config.mergeLanguages pathText Builtin.languages) with
  | .error _ => []
  | .ok langs =>
    ofProject project langs projects ++
      match Config.languageFields pathText project doc projects with
      | .error _ => []
      | .ok langs =>
        ofProfiles langs ++
          match Config.load tree environment path (some project) with
          | .error _ => []
          | .ok config => [ofLoaded path config]

/-- What is said while a configuration is loaded. -/
def ofLoading (tree : FileTree) (environment : Environment) (path : Option Path)
    (project : Option String) : List Log.Record :=
  ofSource path ::
    match Config.document tree path with
    | .error _ => []
    | .ok doc =>
      match Sections.ofDocument doc with
      | .error _ => []
      | .ok sections =>
        ofEnvironment environment ++
          match sections.overridden environment with
          | .error _ => []
          | .ok sections =>
            ofMerging tree environment path (project.getD tree.current.name) doc
              sections.projects

end Proctor.Journal
