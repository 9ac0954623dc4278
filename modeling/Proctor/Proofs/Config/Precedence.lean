import Proctor.Proofs.Config.Overlay

/-!
# What takes precedence in a configuration

A field of a profile can be set in four places: for the project, for the language, in the
built-in profile, or nowhere. A configuration that loads has each of its values from the first
place that has it, and from that place alone. The places are named by paths into the document,
so what is said of a field is said without the stages of the loading.
-/

namespace Proctor

/-- The value at a path of keys. -/
def Value.at? : Value → List String → Option Value
  | v, [] => some v
  | v, k :: rest => (v.asTable?.bind (·.lookup k)).bind (·.at? rest)

/-- The value is read from what is set, and is the default if nothing is. -/
def ReadFrom {α : Type} (read : Value → Except Error α) (default : α) (v : Option Value)
    (x : α) : Prop :=
  match v with
  | some v => read v = .ok x
  | none => x = default

theorem readFrom_of_getD {α : Type} {read : Value → Except Error α} {default x : α} {d : Value}
    {v : Option Value} (base : read d = .ok default) (done : read (v.getD d) = .ok x) :
    ReadFrom read default v x := by
  cases v with
  | some v => exact done
  | none => exact Except.ok.inj (done.symm.trans base)

theorem ReadFrom.elim_eq_some {α : Type} {read : Value → Except Error α} {default x : α}
    {v : Option Value} (reads : ReadFrom read default v x) :
    v.elim (some default) (fun v => (read v).toOption) = some x := by
  cases v with
  | some v => exact Except.toOption_eq_some.mpr reads
  | none => exact congrArg some reads.symm

namespace Profile

/-- Every field of the profile is read from the value of its name. -/
structure ComesFrom (value : String → Option Value) (p : Profile) : Prop where
  patterns : ReadFrom readPatterns [] (value "patterns") p.patterns
  commands : ReadFrom (readTemplates · >>= texts) [] (value "commands") p.commands
  debugCommands : ReadFrom (readOptionalTemplates · >>= (·.mapM texts)) none
    (value "debug_commands") p.debugCommands
  coverageCommands : ReadFrom (readOptionalTemplates · >>= (·.mapM texts)) none
    (value "coverage_commands") p.coverageCommands
  rootMarkers : ReadFrom readMarkers [] (value "root_markers") p.rootMarkers
  testFileNaming : ReadFrom itemsOf [] (value "test_file_naming") p.testFileNaming
  extensions : ReadFrom readExtensions [] (value "extensions") p.extensions
  context : ReadFrom readStrategy none (value "context") p.context
  scopePatterns : ReadFrom readPatterns [] (value "scope_patterns") p.scopePatterns
  separator : ReadFrom .ok .null (value "context_separator") p.separator

theorem comesFrom_ofFields {fields : Fields} {p : Profile} (done : ofFields fields = .ok p) :
    p.ComesFrom (fields.lookup ·) := by
  unfold ofFields at done
  split at done
  next => cases done
  obtain ⟨patterns, readPatterns, done⟩ := Except.bind_eq_ok.mp done
  obtain ⟨commands, readCommands, done⟩ := Except.bind_eq_ok.mp done
  obtain ⟨debug, readDebug, done⟩ := Except.bind_eq_ok.mp done
  obtain ⟨coverage, readCoverage, done⟩ := Except.bind_eq_ok.mp done
  obtain ⟨markers, readMarkers, done⟩ := Except.bind_eq_ok.mp done
  obtain ⟨naming, readNaming, done⟩ := Except.bind_eq_ok.mp done
  obtain ⟨extensions, readExtensions, done⟩ := Except.bind_eq_ok.mp done
  obtain ⟨scopes, readScopes, done⟩ := Except.bind_eq_ok.mp done
  obtain ⟨context, readContext, done⟩ := Except.bind_eq_ok.mp done
  obtain ⟨commandTexts, textsCommands, done⟩ := Except.bind_eq_ok.mp done
  obtain ⟨debugTexts, textsDebug, done⟩ := Except.bind_eq_ok.mp done
  obtain ⟨coverageTexts, textsCoverage, done⟩ := Except.bind_eq_ok.mp done
  cases done
  exact {
    patterns := readFrom_of_getD rfl readPatterns
    commands := readFrom_of_getD rfl (Except.bind_eq_ok.mpr ⟨_, readCommands, textsCommands⟩)
    debugCommands := readFrom_of_getD rfl (Except.bind_eq_ok.mpr ⟨_, readDebug, textsDebug⟩)
    coverageCommands :=
      readFrom_of_getD rfl (Except.bind_eq_ok.mpr ⟨_, readCoverage, textsCoverage⟩)
    rootMarkers := readFrom_of_getD rfl readMarkers
    testFileNaming := readFrom_of_getD rfl readNaming
    extensions := readFrom_of_getD rfl readExtensions
    context := readFrom_of_getD rfl readContext
    scopePatterns := readFrom_of_getD rfl readScopes
    separator := readFrom_of_getD rfl rfl }

end Profile

/-- What is looked up by a name has that name. -/
theorem eq_name_of_find? {α : Type} {name : α → String} {all : List α} {s : String} {x : α}
    (found : all.find? (name · == s) = some x) : s = name x := by
  have same := List.find?_some found
  exact (eq_of_beq same).symm

namespace Config

open Toml (Entries)

/-! ## What is set where -/

/-- The tags under which the document has languages, in its order. -/
def languageTags (doc : Entries) : List String :=
  keys ((((Value.table doc).at? ["languages"]).bind Value.asTable?).getD [])

/-- The value that a field of a language has: that of the project, else that of the language,
else that of the built-in profile. -/
def fieldValue (doc : Entries) (project tag field : String) : Option Value :=
  ((Value.table doc).at? ["projects", project, tag, field]).or
    (((Value.table doc).at? ["languages", tag, field]).or
      ((Builtin.languages.lookup tag).bind (·.lookup field)))

/-- The value of a setting that a variable can override with its text. -/
def textSetting (doc : Entries) (env : Environment) (variable_ section_ key : String) :
    Option Value :=
  ((env.get? variable_).map .text).or ((Value.table doc).at? [section_, key])

/-- The configuration is put together from the document and the environment, with each value
taken from the first place that has it. -/
structure Follows (doc : Entries) (env : Environment) (project : String) (c : Config) : Prop where
  /-- The built-in languages come first, then the new ones of the document. -/
  tags : keys c.languages = keys Builtin.languages ++
    (languageTags doc).filter (· ∉ keys Builtin.languages)
  profile : ∀ tag, tag ∈ keys Builtin.languages ∨ tag ∈ languageTags doc →
    ∃ p, c.languages.lookup tag = some p ∧ p.ComesFrom (fieldValue doc project tag)
  logLevel : match textSetting doc env levelVariable "global" "log_level" with
    | some v => v = .text c.logLevel
    | none => c.logLevel = "WARNING"
  output : match textSetting doc env outputVariable "output" "mode" with
    | some v => v = .text c.output.name
    | none => c.output = .quickfix
  timeout : match env.get? timeoutVariable with
    | some s => Text.parseInt? s.toList = some c.timeout
    | none => match (Value.table doc).at? ["execution", "timeout"] with
      | some v => v = .int c.timeout
      | none => c.timeout = 30000

/-- The documents have the same value in every section but that of the projects, and there
under the name of the project. -/
def SameFor (project : String) (doc doc' : Entries) : Prop :=
  (∀ name, name ≠ "projects" → doc.lookup name = doc'.lookup name) ∧
    (sectionOf "projects" doc).map (·.lookup project) =
      (sectionOf "projects" doc').map (·.lookup project)

/-- The configuration without the overrides that it lists for all projects. -/
def withoutProjects (c : Config) : Config := { c with projects := [] }

/-! ## Sections -/

section Sections

variable {doc es : Entries} {name : String}

theorem sectionOf_eq_ok (taken : sectionOf name doc = .ok es) :
    (doc.lookup name = none ∧ es = []) ∨ doc.lookup name = some (.table es) := by
  unfold sectionOf at taken
  split at taken
  next absent => exact .inl ⟨absent, (Except.ok.inj taken).symm⟩
  next es' found => exact .inr (Except.ok.inj taken ▸ found)
  next => cases taken

theorem at?_of_sectionOf (taken : sectionOf name doc = .ok es) (k : String)
    (rest : List String) :
    (Value.table doc).at? (name :: k :: rest) = (Value.table es).at? (k :: rest) := by
  obtain ⟨absent, rfl⟩ | found := sectionOf_eq_ok taken
  · simp [Value.at?, Value.asTable?, absent]
  · simp [Value.at?, Value.asTable?, found]

theorem hasUniqueKeys_sectionOf (unique : (Value.table doc).HasUniqueKeys)
    (taken : sectionOf name doc = .ok es) : (Value.table es).HasUniqueKeys := by
  obtain ⟨-, rfl⟩ | found := sectionOf_eq_ok taken
  · exact Value.hasUniqueKeys_nil
  · exact Toml.hasUniqueKeys_of_lookup unique found

theorem languageTags_eq (taken : sectionOf "languages" doc = .ok es) :
    languageTags doc = keys es := by
  obtain ⟨absent, rfl⟩ | found := sectionOf_eq_ok taken
  · simp [languageTags, Value.at?, Value.asTable?, absent]
  · simp [languageTags, Value.at?, Value.asTable?, found]

theorem at?_singleton (k : String) : (Value.table es).at? [k] = es.lookup k := by
  cases found : es.lookup k <;> simp [Value.at?, Value.asTable?, found]

theorem at?_pair (tag field : String) :
    (Value.table es).at? [tag, field] = (fieldsAt es tag).bind (·.lookup field) := by
  cases found : es.lookup tag with
  | none => simp [Value.at?, Value.asTable?, fieldsAt, found]
  | some v => cases v <;> simp [Value.at?, Value.asTable?, fieldsAt, found]

theorem hasUniqueKeys_fieldsAt {tag : String} {upper : Fields}
    (unique : (Value.table es).HasUniqueKeys) (found : fieldsAt es tag = some upper) :
    (Value.table upper).HasUniqueKeys := by
  obtain ⟨v, held, isTable⟩ := Option.bind_eq_some_iff.mp found
  cases v with
  | table es' =>
    obtain rfl := Option.some.inj isTable
    exact Toml.hasUniqueKeys_of_lookup unique held
  | _ => cases isTable

theorem nodup_keys (unique : (Value.table es).HasUniqueKeys) : (keys es).Nodup :=
  (Value.hasUniqueKeys_table.mp unique).1

theorem at?_project (project tag field : String) :
    (Value.table es).at? [project, tag, field] =
      ((projectOverrides project es).bind (fieldsAt · tag)).bind (·.lookup field) := by
  change (es.lookup project).bind (·.at? [tag, field]) = _
  rw [projectOverrides]
  cases es.lookup project with
  | none => rfl
  | some v =>
    cases v with
    | table upper => exact at?_pair tag field
    | _ => rfl

end Sections

/-! ## Languages -/

section Languages

variable {doc projects : Entries} {path project tag : String} {langs mid : Languages}

/-- A language of the file has the fields of the file laid over the built-in ones. -/
theorem lookup_field_of_mergeLanguages {es : Entries} {base : Fields}
    (unique : (Value.table es).HasUniqueKeys)
    (done : mergeLanguages path Builtin.languages es = .ok mid)
    (found : mid.lookup tag = some base) (field : String) :
    base.lookup field = ((Value.table es).at? [tag, field]).or
      ((Builtin.languages.lookup tag).bind (·.lookup field)) := by
  have laid := lookup_mergeLanguages (nodup_keys unique) done tag
  rw [found] at laid
  rw [at?_pair]
  cases given : fieldsAt es tag with
  | none =>
    simp only [given] at laid
    rw [← laid]
    rfl
  | some upper =>
    simp only [given] at laid
    rw [Option.some.inj laid, lookup_overlay (nodup_keys (hasUniqueKeys_fieldsAt unique given))]
    cases Builtin.languages.lookup tag <;> rfl

/-- A project's fields are laid over those of the languages there are. -/
theorem lookup_field_of_mergeProject {upper : Entries} {base fields : Fields}
    (unique : (Value.table upper).HasUniqueKeys)
    (done : mergeProject mid upper = .ok langs) (below : mid.lookup tag = some base)
    (found : langs.lookup tag = some fields) (field : String) :
    fields.lookup field =
      ((fieldsAt upper tag).bind (·.lookup field)).or (base.lookup field) := by
  have laid := lookup_mergeProject (nodup_keys unique) done tag
  rw [found, below] at laid
  rw [Option.some.inj laid]
  cases given : fieldsAt upper tag with
  | none => rfl
  | some overrides => exact lookup_overlay (nodup_keys (hasUniqueKeys_fieldsAt unique given))

/-- The languages are those built in and those of the file, and each field of each has the
value that takes precedence. -/
theorem languageFields_spec (unique : (Value.table doc).HasUniqueKeys)
    (taken : sectionOf "projects" doc = .ok projects)
    (done : languageFields path project doc projects = .ok langs) :
    keys langs =
        keys Builtin.languages ++ (languageTags doc).filter (· ∉ keys Builtin.languages) ∧
      ∀ tag fields, langs.lookup tag = some fields →
        ∀ field, fields.lookup field = fieldValue doc project tag field := by
  obtain ⟨es, takenLanguages, done⟩ := Except.bind_eq_ok.mp done
  obtain ⟨mid, merged, done⟩ := Except.bind_eq_ok.mp done
  have uniqueLanguages := hasUniqueKeys_sectionOf unique takenLanguages
  have uniqueProjects := hasUniqueKeys_sectionOf unique taken
  have midKeys := keys_mergeLanguages (nodup_keys uniqueLanguages) merged
  rw [← languageTags_eq takenLanguages] at midKeys
  have midField {tag base} (found : mid.lookup tag = some base) (field : String) :=
    lookup_field_of_mergeLanguages uniqueLanguages merged found field
  simp only [fieldValue, at?_of_sectionOf taken, at?_of_sectionOf takenLanguages, at?_project]
  cases given : projectOverrides project projects with
  | none =>
    simp only [given] at done
    cases done
    exact ⟨midKeys, fun tag fields found field => midField found field⟩
  | some upper =>
    simp only [given] at done
    have uniqueUpper := hasUniqueKeys_fieldsAt uniqueProjects given
    refine ⟨(keys_mergeProject done).trans midKeys, ?_⟩
    intro tag fields found field
    have known : (mid.lookup tag).isSome := by
      rw [isSome_lookup_iff, ← keys_mergeProject done, ← isSome_lookup_iff, found]
      rfl
    obtain ⟨base, below⟩ := Option.isSome_iff_exists.mp known
    rw [lookup_field_of_mergeProject uniqueUpper done below found, midField below]
    rfl

theorem ofFields_of_profileOf {fields : Fields} {p : Profile}
    (done : profileOf tag fields = .ok p) : Profile.ofFields fields = .ok p := by
  unfold profileOf at done
  split at done
  next => cases done
  next => exact done

/-- The profiles are those of the languages, in their order. -/
theorem profilesOf_spec {profiles : List (String × Profile)}
    (done : profilesOf langs = .ok profiles) :
    keys profiles = keys langs ∧
      ∀ tag p, profiles.lookup tag = some p →
        ∃ fields, langs.lookup tag = some fields ∧ Profile.ofFields fields = .ok p := by
  have each := Except.mapM_eq_ok.mp done
  clear done
  induction each with
  | nil => exact ⟨rfl, fun tag p found => by cases found⟩
  | @cons l entry langs profiles one _ ih =>
    obtain ⟨sameKeys, all⟩ := ih
    obtain ⟨p, read, same⟩ := Except.bind_eq_ok.mp one
    cases same
    refine ⟨congrArg (l.1 :: ·) sameKeys, ?_⟩
    intro tag p' found
    rw [List.lookup_cons] at found ⊢
    cases here : tag == l.1 with
    | true =>
      simp only [here] at found ⊢
      cases found
      exact ⟨l.2, rfl, ofFields_of_profileOf read⟩
    | false =>
      simp only [here] at found ⊢
      exact all tag p' found

end Languages

/-! ## Settings -/

section Settings

variable {doc es : Entries} {env : Environment}

/-- The text of a variable comes before what the section has. -/
theorem lookup_overrideText {section_ : String} (taken : sectionOf section_ doc = .ok es)
    (variable_ key : String) :
    (overrideText env variable_ key es).lookup key =
      textSetting doc env variable_ section_ key := by
  rw [textSetting, at?_of_sectionOf taken, at?_singleton, overrideText]
  cases env.get? variable_ with
  | none => rfl
  | some s => exact lookup_set.trans (if_pos rfl)

theorem readLevel_spec {level : String} (done : readLevel es = .ok level) :
    match es.lookup "log_level" with
    | some v => v = .text level
    | none => level = "WARNING" := by
  obtain ⟨-, -, done⟩ := Except.bind_eq_ok.mp done
  split at done
  next absent =>
    cases done
    simp [absent]
  next s found =>
    split at done
    next =>
      cases done
      simp [found]
    next => cases done
  next => cases done

theorem readNamed_eq_ok {α : Type} {field : String} {named? : String → Option α}
    {names : List String} {v : Value} {x : α} (done : readNamed field named? names v = .ok x) :
    ∃ s, v = .text s ∧ named? s = some x := by
  unfold readNamed at done
  split at done
  next y found =>
    cases done
    obtain ⟨s, isText, named⟩ := Option.bind_eq_some_iff.mp found
    exact ⟨s, Value.eq_text_of_asText? isText, named⟩
  next => cases done

theorem readOutput_spec {m : OutputMode} (done : readOutput es = .ok m) :
    match es.lookup "mode" with
    | some v => v = .text m.name
    | none => m = .quickfix := by
  obtain ⟨-, -, done⟩ := Except.bind_eq_ok.mp done
  split at done
  next absent =>
    cases done
    simp [absent]
  next v found =>
    obtain ⟨s, rfl, named⟩ := readNamed_eq_ok done
    have same : s = m.name := eq_name_of_find? named
    simp [found, same]

theorem readTimeout_eq_ok {v : Value} {n : Nat} (done : readTimeout v = .ok n) : v = .int n := by
  unfold readTimeout at done
  split at done
  next m =>
    cases done
    rfl
  next => cases done

theorem readExecution_eq_ok {timeout : Nat} {directory : DirectoryRule} {extra : Value}
    (done : readExecution es = .ok (timeout, directory, extra)) :
    ReadFrom readTimeout 30000 (es.lookup "timeout") timeout ∧
      ReadFrom (readNamed "cwd_strategy" DirectoryRule.named? DirectoryRule.names) .projectRoot
        (es.lookup "cwd_strategy") directory ∧
      extra = (es.lookup "env").getD (.table []) := by
  obtain ⟨-, -, done⟩ := Except.bind_eq_ok.mp done
  cases limit : es.lookup "timeout" <;> cases rule : es.lookup "cwd_strategy" <;>
    simp only [limit, rule, pure_bind] at done
  case none.none =>
    cases done
    exact ⟨rfl, rfl, rfl⟩
  case none.some =>
    obtain ⟨_, named, done⟩ := Except.bind_eq_ok.mp done
    cases done
    exact ⟨rfl, named, rfl⟩
  case some.none =>
    obtain ⟨_, read, done⟩ := Except.bind_eq_ok.mp done
    cases done
    exact ⟨read, rfl, rfl⟩
  case some.some =>
    obtain ⟨_, read, done⟩ := Except.bind_eq_ok.mp done
    obtain ⟨_, named, done⟩ := Except.bind_eq_ok.mp done
    cases done
    exact ⟨read, named, rfl⟩

theorem readExecution_spec {timeout : Nat} {directory : DirectoryRule} {extra : Value}
    (done : readExecution es = .ok (timeout, directory, extra)) :
    match es.lookup "timeout" with
    | some v => v = .int timeout
    | none => timeout = 30000 := by
  obtain ⟨read, -, -⟩ := readExecution_eq_ok done
  cases found : es.lookup "timeout" with
  | none =>
    rw [found] at read
    exact read
  | some v =>
    rw [found] at read
    exact readTimeout_eq_ok read

end Settings

/-! ## Configurations -/

section Configurations

variable {doc doc' : Entries} {env : Environment} {project : String} {s s' : Sections}
  {langs : Languages} {c : Config} {tree : FileTree} {path : Option Path}

theorem ofDocument_eq_ok (taken : Sections.ofDocument doc = .ok s) :
    sectionOf "global" doc = .ok s.general ∧ sectionOf "output" doc = .ok s.output ∧
      sectionOf "execution" doc = .ok s.execution ∧ sectionOf "projects" doc = .ok s.projects := by
  obtain ⟨general, takenGeneral, taken⟩ := Except.bind_eq_ok.mp taken
  obtain ⟨output, takenOutput, taken⟩ := Except.bind_eq_ok.mp taken
  obtain ⟨execution, takenExecution, taken⟩ := Except.bind_eq_ok.mp taken
  obtain ⟨projects, takenProjects, taken⟩ := Except.bind_eq_ok.mp taken
  cases taken
  exact ⟨takenGeneral, takenOutput, takenExecution, takenProjects⟩

theorem overridden_eq_ok (done : s.overridden env = .ok s') :
    s'.general = overrideText env levelVariable "log_level" s.general ∧
      s'.output = overrideText env outputVariable "mode" s.output ∧
      s'.projects = s.projects ∧
      match env.get? timeoutVariable with
      | some text => ∃ n, Text.parseInt? text.toList = some n ∧
          s'.execution.lookup "timeout" = some (.int n)
      | none => s'.execution = s.execution := by
  unfold Sections.overridden at done
  simp only at done
  split at done
  next unset =>
    cases done
    simp [unset]
  next text isSet =>
    split at done
    next n parsed =>
      cases done
      simp [isSet, parsed, lookup_set]
    next => cases done

/-- The environment has no say in the other settings of the execution. -/
theorem lookup_execution_of_overridden {key : String} (done : s.overridden env = .ok s')
    (other : key ≠ "timeout") : s'.execution.lookup key = s.execution.lookup key := by
  unfold Sections.overridden at done
  simp only at done
  split at done
  next =>
    cases done
    rfl
  next =>
    split at done
    next n parsed =>
      cases done
      exact lookup_set.trans (if_neg other)
    next => cases done

theorem check_eq_ok (done : check langs s = .ok c) :
    profilesOf langs = .ok c.languages ∧ readLevel s.general = .ok c.logLevel ∧
      readOutput s.output = .ok c.output ∧
      readExecution s.execution = .ok (c.timeout, c.directory, c.env) := by
  obtain ⟨languages, profiles, done⟩ := Except.bind_eq_ok.mp done
  obtain ⟨level, readLevel, done⟩ := Except.bind_eq_ok.mp done
  obtain ⟨output, readOutput, done⟩ := Except.bind_eq_ok.mp done
  obtain ⟨⟨timeout, directory, extra⟩, readExecution, done⟩ := Except.bind_eq_ok.mp done
  cases done
  exact ⟨profiles, readLevel, readOutput, readExecution⟩

theorem readDocument_eq_ok {p : Path} (read : readDocument tree p = .ok doc) :
    ∃ bytes cs, tree.read p = .ok bytes ∧ Text.Utf8.decode? bytes = some cs ∧
      Toml.parse cs = .ok doc := by
  unfold readDocument at read
  split at read
  next => cases read
  next => cases read
  next bytes readBytes =>
    split at read
    next => cases read
    next cs decoded =>
      split at read
      next es parsed =>
        cases read
        exact ⟨bytes, cs, readBytes, decoded, parsed⟩
      next => cases read
      next => cases read

theorem hasUniqueKeys_document (read : document tree path = .ok doc) :
    (Value.table doc).HasUniqueKeys := by
  cases path with
  | none =>
    cases read
    exact Value.hasUniqueKeys_nil
  | some p =>
    obtain ⟨bytes, cs, -, -, parsed⟩ := readDocument_eq_ok read
    exact Toml.hasUniqueKeys_parse parsed

theorem load_eq_ok {name : Option String} (done : load tree env path name = .ok c) :
    ∃ doc s s' langs, document tree path = .ok doc ∧ Sections.ofDocument doc = .ok s ∧
      s.overridden env = .ok s' ∧
      languageFields ((path.map Path.text).getD "") (name.getD tree.current.name) doc
        s'.projects = .ok langs ∧
      check langs s' = .ok c := by
  obtain ⟨doc, read, done⟩ := Except.bind_eq_ok.mp done
  obtain ⟨s, taken, done⟩ := Except.bind_eq_ok.mp done
  obtain ⟨s', changed, done⟩ := Except.bind_eq_ok.mp done
  obtain ⟨langs, merged, done⟩ := Except.bind_eq_ok.mp done
  exact ⟨doc, s, s', langs, read, taken, changed, merged, Except.mapError_eq_ok.mp done⟩

/-- A configuration that loads follows the order of precedence. -/
theorem follows_of_load {name : Option String} (done : load tree env path name = .ok c) :
    ∃ doc, document tree path = .ok doc ∧
      Follows doc env (name.getD tree.current.name) c := by
  obtain ⟨doc, s, s', langs, read, taken, changed, merged, checked⟩ := load_eq_ok done
  obtain ⟨takenGeneral, takenOutput, takenExecution, takenProjects⟩ := ofDocument_eq_ok taken
  obtain ⟨general, output, projects, execution⟩ := overridden_eq_ok changed
  obtain ⟨profiles, level, mode, rest⟩ := check_eq_ok checked
  obtain ⟨sameKeys, readFrom⟩ := profilesOf_spec profiles
  rw [projects] at merged
  obtain ⟨langKeys, fields⟩ :=
    languageFields_spec (hasUniqueKeys_document read) takenProjects merged
  refine ⟨doc, read, sameKeys.trans langKeys, ?_, ?_, ?_, ?_⟩
  · intro tag known
    have mem : tag ∈ keys c.languages := by
      rw [sameKeys, langKeys, List.mem_append, List.mem_filter]
      by_cases builtIn : tag ∈ keys Builtin.languages
      · exact .inl builtIn
      · exact .inr ⟨known.resolve_left builtIn, by simpa using builtIn⟩
    obtain ⟨p, held⟩ := Option.isSome_iff_exists.mp (isSome_lookup_iff.mpr mem)
    obtain ⟨fs, found, readFields⟩ := readFrom tag p held
    refine ⟨p, held, ?_⟩
    have same : (fs.lookup ·) = fieldValue doc _ tag := funext (fields tag fs found)
    exact same ▸ Profile.comesFrom_ofFields readFields
  · have spec := readLevel_spec level
    rwa [general, lookup_overrideText takenGeneral] at spec
  · have spec := readOutput_spec mode
    rwa [output, lookup_overrideText takenOutput] at spec
  · have spec := readExecution_spec rest
    cases isSet : env.get? timeoutVariable with
    | some text =>
      simp only [isSet] at execution
      obtain ⟨n, parsed, held⟩ := execution
      simp only [held] at spec
      exact parsed.trans (congrArg some (Value.int.inj spec))
    | none =>
      simp only [isSet] at execution
      rwa [execution, ← at?_singleton, ← at?_of_sectionOf takenExecution] at spec

/-! ### The overrides of other projects -/

theorem sectionOf_congr {name : String} (same : doc.lookup name = doc'.lookup name) :
    sectionOf name doc = sectionOf name doc' := by
  rw [sectionOf, sectionOf, same]

theorem SameFor.ofDocument (same : SameFor project doc doc') :
    (∃ e, Sections.ofDocument doc = .error e ∧ Sections.ofDocument doc' = .error e) ∨
      ∃ s ps, Sections.ofDocument doc = .ok s ∧
        Sections.ofDocument doc' = .ok { s with projects := ps } ∧
        ps.lookup project = s.projects.lookup project := by
  obtain ⟨others, projects⟩ := same
  rw [Sections.ofDocument, Sections.ofDocument, sectionOf_congr (others "global" (by decide)),
    sectionOf_congr (others "output" (by decide)),
    sectionOf_congr (others "execution" (by decide))]
  cases sectionOf "global" doc' with
  | error e => exact .inl ⟨e, rfl, rfl⟩
  | ok general =>
    cases sectionOf "output" doc' with
    | error e => exact .inl ⟨e, rfl, rfl⟩
    | ok output =>
      cases sectionOf "execution" doc' with
      | error e => exact .inl ⟨e, rfl, rfl⟩
      | ok execution =>
        cases here : sectionOf "projects" doc <;> cases there : sectionOf "projects" doc' <;>
          rw [here, there] at projects
        case error.error e e' =>
          cases projects
          exact .inl ⟨e, rfl, rfl⟩
        case ok.ok ps ps' =>
          exact .inr ⟨_, ps', rfl, rfl, (Except.ok.inj projects).symm⟩
        all_goals cases projects

theorem overridden_projects (env : Environment) (s : Sections) (ps : Entries) :
    { s with projects := ps }.overridden env =
      (s.overridden env).map ({ · with projects := ps }) := by
  unfold Sections.overridden
  simp only
  split
  · rfl
  · split <;> rfl

theorem languageFields_congr (path : String) {ps : Entries} (same : SameFor project doc doc')
    (samePs : ps.lookup project = s.projects.lookup project) :
    languageFields path project doc' ps = languageFields path project doc s.projects := by
  rw [languageFields, languageFields, projectOverrides, projectOverrides, samePs,
    sectionOf_congr (same.1 "languages" (by decide))]

theorem check_projects (ps : Entries) :
    (check langs { s with projects := ps }).map withoutProjects =
      (check langs s).map withoutProjects := by
  unfold check
  cases profilesOf langs with
  | error e => rfl
  | ok languages =>
    cases readLevel s.general with
    | error e => rfl
    | ok level =>
      cases readOutput s.output with
      | error e => rfl
      | ok output =>
        cases readExecution s.execution with
        | error e => rfl
        | ok settings => rfl

/-- Documents that are the same for a project give the same configuration for it, up to the
list of all projects. -/
theorem load_congr {tree' : FileTree} {name : Option String}
    (read : document tree path = .ok doc) (read' : document tree' path = .ok doc')
    (current : tree'.current = tree.current)
    (same : SameFor (name.getD tree.current.name) doc doc') :
    (load tree env path name).map withoutProjects =
      (load tree' env path name).map withoutProjects := by
  rw [load, load, read, read', current, Except.ok_bind, Except.ok_bind]
  obtain ⟨e, fails, fails'⟩ | ⟨s, ps, taken, taken', samePs⟩ := same.ofDocument
  · rw [fails, fails', Except.error_bind, Except.error_bind]
  · have changed' := overridden_projects env s ps
    rw [taken, taken', Except.ok_bind, Except.ok_bind, changed']
    cases changed : s.overridden env with
    | error e => rfl
    | ok s' =>
      obtain ⟨-, -, projects, -⟩ := overridden_eq_ok changed
      have sameFields := languageFields_congr ((path.map Path.text).getD "") same
        (projects ▸ samePs)
      rw [Except.map, Except.ok_bind, Except.ok_bind]
      simp only [sameFields]
      cases languageFields _ _ doc s'.projects with
      | error e => rfl
      | ok langs =>
        rw [Except.ok_bind, Except.ok_bind, Except.map_mapError, Except.map_mapError]
        exact congrArg _ (check_projects ps).symm

/-- A configuration that loads has each value from the first place that has it, and two files
that differ only in the overrides of other projects give the same configuration. -/
theorem load_precedence (tree : FileTree) (env : Environment) (path : Option Path)
    (name : Option String) :
    (∀ c, load tree env path name = .ok c →
      ∃ doc, document tree path = .ok doc ∧
        Follows doc env (name.getD tree.current.name) c) ∧
    ∀ tree' doc doc', tree'.current = tree.current → document tree path = .ok doc →
      document tree' path = .ok doc' → SameFor (name.getD tree.current.name) doc doc' →
      (load tree env path name).map withoutProjects =
        (load tree' env path name).map withoutProjects := by
  constructor
  · intro c done
    exact follows_of_load done
  · intro tree' doc doc' current read read' same
    exact load_congr read read' current same

end Configurations

/-! ### Two files for two projects -/

/-- The directory of a project with one file, and the file. -/
def home (text : String) : FileTree where
  top := .directory [("app", .directory [
    ("t.toml", .file (text.toList.map fun c => c.val.toUInt8) false)])]
  current := ⟨.slash, ["app"]⟩

/-- The name of the file. -/
def tomlPath : Path := ⟨.relative, ["t.toml"]⟩

/-- A file that sets fields of languages, one of them for the project too. -/
def appText : String :=
  "[languages]\ngo.commands = 'a'\ngo.root_markers = ['b']\nzig.extensions = ['Z']\n" ++
  "[projects.app]\ngo.commands = 'c'\nnim.commands = 'd'\n"

/-- A file with overrides for another project. -/
def libText : String := "[projects.lib]\ngo.commands = 'a'\n"

/-- A file with overrides for yet another project. -/
def siteText : String := "[projects.site]\ngo.extensions = ['b']\nzig.commands = 'c'\n"

/-- The environment of a run with a timeout of its own. -/
def hurried : Environment := [(timeoutVariable, "500")]

theorem sameFor_of_keys {project : String} {doc doc' ps ps' : Entries}
    (only : keys doc = ["projects"]) (only' : keys doc' = ["projects"])
    (taken : sectionOf "projects" doc = .ok ps) (taken' : sectionOf "projects" doc' = .ok ps')
    (absent : project ∉ keys ps) (absent' : project ∉ keys ps') : SameFor project doc doc' := by
  constructor
  · intro name other
    have missing : doc.lookup name = none := lookup_eq_none_iff.mpr (by simp [only, other])
    have missing' : doc'.lookup name = none := lookup_eq_none_iff.mpr (by simp [only', other])
    rw [missing, missing']
  · rw [taken, taken', Except.map, Except.map, lookup_eq_none_iff.mpr absent,
      lookup_eq_none_iff.mpr absent']

/-- The document in a file that has overrides of the named projects and nothing else. -/
theorem exists_document_of_projects (text : String) (projects : List String)
    (read : ((document (home text) (some tomlPath)).toOption.map fun doc =>
      (keys doc, (sectionOf "projects" doc).toOption.map keys)) =
        some (["projects"], some projects)) :
    ∃ doc ps, document (home text) (some tomlPath) = .ok doc ∧ keys doc = ["projects"] ∧
      sectionOf "projects" doc = .ok ps ∧ keys ps = projects := by
  obtain ⟨doc, held, same⟩ := Option.map_eq_some_iff.mp read
  obtain ⟨only, inner⟩ := Prod.mk.inj same
  obtain ⟨ps, taken, named⟩ := Option.map_eq_some_iff.mp inner
  exact ⟨doc, ps, Except.toOption_eq_some.mp held, only, Except.toOption_eq_some.mp taken, named⟩

/-- What holds of the document that is read holds of the document. -/
theorem eq_of_document {α : Type} {tree : FileTree} {path : Option Path} {doc : Entries}
    {f : Entries → α} {a : α} (read : document tree path = .ok doc)
    (fact : (document tree path).toOption.map f = some a) : f doc = a := by
  rw [read] at fact
  exact Option.some.inj fact

theorem load_precedence_app :
    (∃ c, load (home appText) hurried (some tomlPath) none = .ok c ∧
      keys c.languages = ["go", "python", "rust", "javascript", "typescript", "zig"] ∧
      (∃ p, c.languages.lookup "go" = some p ∧ p.commands = ["c"] ∧
        p.rootMarkers.map Value.asText? = [some "b"] ∧ p.extensions = ["go"]) ∧
      c.logLevel = "WARNING" ∧ c.timeout = 500) ∧
    (load (home libText) [] (some tomlPath) none).map withoutProjects =
      (load (home siteText) [] (some tomlPath) none).map withoutProjects := by
  constructor
  · have loads : (load (home appText) hurried (some tomlPath) none).toOption.isSome := by
      decide +kernel
    obtain ⟨c, found⟩ := Option.isSome_iff_exists.mp loads
    have done := Except.toOption_eq_some.mp found
    obtain ⟨doc, read, follows⟩ := (load_precedence _ _ _ _).1 c done
    have tags := eq_of_document (f := languageTags) (a := ["go", "zig"]) read
      (by decide +kernel)
    have commands := eq_of_document (a := some ["c"]) (f := fun doc =>
      (fieldValue doc "app" "go" "commands").elim (some []) fun v =>
        (Profile.readTemplates v >>= Profile.texts).toOption) read (by decide +kernel)
    have markers := eq_of_document (a := some [some "b"]) (f := fun doc =>
      ((fieldValue doc "app" "go" "root_markers").elim (some []) fun v =>
        (Profile.readMarkers v).toOption).map (·.map Value.asText?)) read (by decide +kernel)
    have extensions := eq_of_document (a := some ["go"]) (f := fun doc =>
      (fieldValue doc "app" "go" "extensions").elim (some []) fun v =>
        (Profile.readExtensions v).toOption) read (by decide +kernel)
    have unset := eq_of_document (a := true) (f := fun doc =>
      (textSetting doc hurried levelVariable "global" "log_level").isNone) read
      (by decide +kernel)
    obtain ⟨p, held, fields⟩ := follows.profile "go" (.inl (by decide))
    refine ⟨c, done, ?_, ⟨p, held, ?_, ?_, ?_⟩, ?_, ?_⟩
    · rw [follows.tags, tags]
      decide
    · exact Option.some.inj (fields.commands.elim_eq_some.symm.trans commands)
    · have read := congrArg (Option.map (·.map Value.asText?)) fields.rootMarkers.elim_eq_some
      exact Option.some.inj (read.symm.trans markers)
    · exact Option.some.inj (fields.extensions.elim_eq_some.symm.trans extensions)
    · have level := follows.logLevel
      rw [Option.isNone_iff_eq_none.mp unset] at level
      exact level
    · have parsed : Text.parseInt? "500".toList = some 500 := by decide +kernel
      have same := Option.some.inj (follows.timeout.symm.trans parsed)
      exact Int.ofNat.inj same
  · obtain ⟨lib, libs, readLib, onlyLib, takenLib, libKeys⟩ :=
      exists_document_of_projects libText ["lib"] (by decide +kernel)
    obtain ⟨site, sites, readSite, onlySite, takenSite, siteKeys⟩ :=
      exists_document_of_projects siteText ["site"] (by decide +kernel)
    have same : SameFor "app" lib site :=
      sameFor_of_keys onlyLib onlySite takenLib takenSite (by simp [libKeys])
        (by simp [siteKeys])
    exact (load_precedence _ _ _ _).2 _ _ _ rfl readLib readSite same

end Config

end Proctor
