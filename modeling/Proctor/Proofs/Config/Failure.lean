import Proctor.Proofs.Config.Precedence

/-!
# How loading a configuration fails

What a file can hold is refused in many places, and almost every refusal is reported as an
error of the configuration. Four things are not: bytes that are no text, a decimal number with
more digits than are read, a value of another type where a text is asked for its upper or lower
case, and a pattern that repeats too often. Each stage of the loading is shown to fail in its own
ways only, and the ways of the whole are those of its stages.
-/

namespace Proctor

/-- Is the error reported as one of the configuration, when it is met among its values? -/
def Error.isReported : Error → Bool
  | .misconfigured _ | .pattern .. | .wrongType | .unfit _ => true
  | _ => false

namespace Profile

open Except (failsOnly_ok failsOnly_error failsOnly_mapM)

/-- The values that are read as patterns: a single one, or the items. -/
def sources : Value → List Value
  | .text s => [.text s]
  | v => v.items?.getD []

/-- The errors of a profile that are not reported, with their causes among its fields. -/
inductive Escape (value : String → Option Value) : Error → Prop
  /-- An extension that is no text. -/
  | extension {v item : Value} {items : List Value} :
      value "extensions" = some v → v.items? = some items → item ∈ items →
      item.asText? = none → Escape value .noSuchPart
  /-- A pattern that repeats too often to be counted. -/
  | rounds {field s : String} {v : Value} :
      field = "patterns" ∨ field = "scope_patterns" → value field = some v →
      .text s ∈ sources v → Pattern.Syntax.parse s = .error .tooManyRounds →
      Escape value .overflow

/-- An error is reported, or escapes for a cause among the fields. -/
def Fails (value : String → Option Value) (e : Error) : Prop :=
  e.isReported = true ∨ Escape value e

theorem compile_eq_tooManyRounds {s : String} :
    Pattern.compile s = .error .tooManyRounds ↔
      Pattern.Syntax.parse s = .error .tooManyRounds := by
  unfold Pattern.compile
  split
  next parsed => simp [parsed]
  next parsed => simp [parsed]
  next parsed => simp [parsed]
  next parsed => simp [parsed]
  next parsed => split <;> simp [parsed]

theorem failsOnly_ofValue (v : Value) :
    ((Pattern.ofValue v).mapError Error.ofPattern).FailsOnly fun e =>
      e.isReported = true ∨ ∃ s, v = .text s ∧
        Pattern.Syntax.parse s = .error .tooManyRounds ∧ e = .overflow := by
  apply Except.FailsOnly.mapError
  intro fault failed
  cases v with
  | text s =>
    cases fault with
    | tooManyRounds => exact .inr ⟨s, rfl, compile_eq_tooManyRounds.mp failed, rfl⟩
    | _ => exact .inl rfl
  | _ =>
    cases failed
    exact .inl rfl

theorem failsOnly_itemsOf (v : Value) : (itemsOf v).FailsOnly (·.isReported = true) := by
  unfold itemsOf
  split
  · exact failsOnly_ok _
  · exact failsOnly_error rfl

/-- The sources of patterns are read first, each by itself then. -/
theorem readPatterns_eq (v : Value) :
    readPatterns v = .error .wrongType ∨
      readPatterns v =
        (sources v).mapM fun s => (Pattern.ofValue s).mapError Error.ofPattern := by
  cases v with
  | text s => exact .inr rfl
  | list items => exact .inr rfl
  | table entries => exact .inr rfl
  | null => exact .inr rfl
  | _ => exact .inl rfl

theorem failsOnly_readPatterns {value : String → Option Value} {field : String}
    (named : field = "patterns" ∨ field = "scope_patterns") :
    (readPatterns ((value field).getD .null)).FailsOnly (Fails value) := by
  obtain refused | each := readPatterns_eq ((value field).getD .null)
  · rw [refused]
    exact failsOnly_error (.inl rfl)
  rw [each]
  apply failsOnly_mapM
  intro item mem
  refine (failsOnly_ofValue item).mono ?_
  rintro e (reported | ⟨s, rfl, tooMany, rfl⟩)
  · exact .inl reported
  · cases isSet : value field with
    | none =>
      rw [isSet] at mem
      cases mem
    | some v =>
      rw [isSet] at mem
      exact .inr (.rounds named isSet mem tooMany)

theorem failsOnly_readTemplates (v : Value) :
    (readTemplates v).FailsOnly (·.isReported = true) := by
  unfold readTemplates
  split
  · exact failsOnly_ok _
  · exact failsOnly_ok _
  · exact failsOnly_itemsOf _

theorem failsOnly_readOptionalTemplates (v : Value) :
    (readOptionalTemplates v).FailsOnly (·.isReported = true) := by
  unfold readOptionalTemplates
  split
  · exact failsOnly_ok _
  · exact (failsOnly_readTemplates _).map

theorem failsOnly_readMarkers (v : Value) : (readMarkers v).FailsOnly (·.isReported = true) := by
  refine (failsOnly_itemsOf v).bind ?_
  intro items _
  split
  · exact failsOnly_ok _
  · exact failsOnly_error rfl

theorem failsOnly_readExtensions {value : String → Option Value} :
    (readExtensions ((value "extensions").getD .null)).FailsOnly (Fails value) := by
  cases isSet : value "extensions" with
  | none => exact failsOnly_ok []
  | some v =>
    rw [Option.getD_some, readExtensions]
    split
    · refine (failsOnly_itemsOf v).or_inl.bind ?_
      intro items got
      have held : v.items? = some items := by
        unfold itemsOf at got
        split at got
        next items' held =>
          cases got
          exact held
        next => cases got
      apply failsOnly_mapM
      intro item mem
      cases item with
      | text s => exact failsOnly_ok _
      | _ => exact failsOnly_error (.inr (.extension isSet held mem rfl))
    · exact failsOnly_ok []

theorem failsOnly_readStrategy (v : Value) : (readStrategy v).FailsOnly (·.isReported = true) := by
  unfold readStrategy
  simp only
  split
  · exact failsOnly_ok _
  · split
    · exact failsOnly_ok _
    · exact failsOnly_error rfl
  · exact failsOnly_error rfl

theorem failsOnly_texts (vs : List Value) : (texts vs).FailsOnly (·.isReported = true) := by
  apply failsOnly_mapM
  intro v _
  split
  · exact failsOnly_ok _
  · exact failsOnly_error rfl

theorem failsOnly_optionalTexts (vs : Option (List Value)) :
    (vs.mapM texts).FailsOnly (·.isReported = true) := by
  cases vs with
  | none => exact failsOnly_ok none
  | some vs => exact (failsOnly_texts vs).map

/-- Reading a profile fails with what is reported, or for one of the two causes. -/
theorem failsOnly_ofFields (fields : Fields) :
    (ofFields fields).FailsOnly (Fails (fields.lookup ·)) := by
  unfold ofFields
  split
  · exact failsOnly_error (.inl rfl)
  refine (failsOnly_readPatterns (.inl rfl)).bind fun patterns _ => ?_
  refine (failsOnly_readTemplates _).or_inl.bind fun commands _ => ?_
  refine (failsOnly_readOptionalTemplates _).or_inl.bind fun debug _ => ?_
  refine (failsOnly_readOptionalTemplates _).or_inl.bind fun coverage _ => ?_
  refine (failsOnly_readMarkers _).or_inl.bind fun markers _ => ?_
  refine (failsOnly_itemsOf _).or_inl.bind fun naming _ => ?_
  refine failsOnly_readExtensions.bind fun extensions _ => ?_
  refine (failsOnly_readPatterns (.inr rfl)).bind fun scopes _ => ?_
  refine (failsOnly_readStrategy _).or_inl.bind fun context _ => ?_
  refine (failsOnly_texts _).or_inl.bind fun commandTexts _ => ?_
  refine (failsOnly_optionalTexts _).or_inl.bind fun debugTexts _ => ?_
  refine (failsOnly_optionalTexts _).or_inl.bind fun coverageTexts _ => ?_
  exact failsOnly_ok _

theorem isText_of_readExtensions {v item : Value} {items : List Value} {exts : List String}
    (done : readExtensions v = .ok exts) (held : v.items? = some items) (mem : item ∈ items) :
    ∃ s, item = .text s := by
  cases v with
  | list items' =>
    obtain rfl := Option.some.inj held
    have isSet : (Value.list items').isSet = true := by
      simpa [Value.isSet] using List.ne_nil_of_mem mem
    rw [readExtensions, if_pos isSet] at done
    obtain ⟨_, same, done⟩ := Except.bind_eq_ok.mp done
    cases same
    obtain ⟨ext, read⟩ := Except.exists_of_mapM_eq_ok done mem
    cases item with
    | text s => exact ⟨s, rfl⟩
    | _ => cases read
  | text s =>
    obtain rfl := Option.some.inj held
    obtain ⟨c, -, rfl⟩ := List.mem_map.mp mem
    exact ⟨_, rfl⟩
  | table entries =>
    obtain rfl := Option.some.inj held
    obtain ⟨entry, -, rfl⟩ := List.mem_map.mp mem
    exact ⟨_, rfl⟩
  | _ => cases held

theorem parse_of_readPatterns {v : Value} {s : String} {ps : List Pattern}
    (done : readPatterns v = .ok ps) (mem : .text s ∈ sources v) :
    Pattern.Syntax.parse s ≠ .error .tooManyRounds := by
  intro tooMany
  obtain refused | each := readPatterns_eq v
  · cases refused.symm.trans done
  · obtain ⟨p, read⟩ := Except.exists_of_mapM_eq_ok (each.symm.trans done) mem
    have compiled := Except.mapError_eq_ok.mp read
    cases compiled.symm.trans (compile_eq_tooManyRounds.mpr tooMany)

/-- A profile that can be read has no cause of an escaping error. -/
theorem not_escape_of_comesFrom {value : String → Option Value} {p : Profile}
    (reads : p.ComesFrom value) (e : Error) : ¬ Escape value e := by
  intro escapes
  cases escapes with
  | extension isSet held mem noText =>
    have read := reads.extensions
    rw [isSet] at read
    obtain ⟨s, rfl⟩ := isText_of_readExtensions read held mem
    cases noText
  | rounds named isSet mem tooMany =>
    obtain rfl | rfl := named
    · have read := reads.patterns
      rw [isSet] at read
      exact parse_of_readPatterns read mem tooMany
    · have read := reads.scopePatterns
      rw [isSet] at read
      exact parse_of_readPatterns read mem tooMany

end Profile

namespace Config

open Except (failsOnly_ok failsOnly_error failsOnly_mapM)
open Toml (Entries)

/-- The errors of loading that are none of the configuration, with their causes. -/
inductive Escape (tree : FileTree) (env : Environment) (path : Option Path) (project : String) :
    Error → Prop
  /-- The file is no text. -/
  | notText {p : Path} {bytes : List UInt8} :
      path = some p → tree.read p = .ok bytes → Text.Utf8.decode? bytes = none →
      Escape tree env path project .notText
  /-- A decimal number in the file is too long to be read. -/
  | noNumber {p : Path} {bytes : List UInt8} {cs : List Char} :
      path = some p → tree.read p = .ok bytes → Text.Utf8.decode? bytes = some cs →
      Toml.parse cs = .error .tooManyDigits → Escape tree env path project .noNumber
  /-- A profile has an extension that is no text, or a pattern that repeats too often. -/
  | profile {doc : Entries} {tag : String} {e : Error} :
      document tree path = .ok doc → tag ∈ keys Builtin.languages ∨ tag ∈ languageTags doc →
      Profile.Escape (fieldValue doc project tag) e → Escape tree env path project e
  /-- The logging level is no text. -/
  | level {doc : Entries} {v : Value} :
      document tree path = .ok doc →
      textSetting doc env levelVariable "global" "log_level" = some v → v.asText? = none →
      Escape tree env path project .noSuchPart

section Stages

variable {tree : FileTree} {env : Environment} {path : Option Path} {project tag : String}
  {doc es entries : Entries} {langs : Languages}

theorem failsOnly_sectionOf (name : String) (doc : Entries) :
    (sectionOf name doc).FailsOnly (·.isConfiguration = true) := by
  unfold sectionOf
  split
  · exact failsOnly_ok []
  · exact failsOnly_ok _
  · exact failsOnly_error rfl

theorem failsOnly_ofDocument (doc : Entries) :
    (Sections.ofDocument doc).FailsOnly (·.isConfiguration = true) := by
  refine (failsOnly_sectionOf _ _).bind fun general _ => ?_
  refine (failsOnly_sectionOf _ _).bind fun output _ => ?_
  refine (failsOnly_sectionOf _ _).bind fun execution _ => ?_
  refine (failsOnly_sectionOf _ _).bind fun projects _ => ?_
  exact failsOnly_ok _

theorem failsOnly_overridden (env : Environment) (s : Sections) :
    (s.overridden env).FailsOnly (·.isConfiguration = true) := by
  unfold Sections.overridden
  simp only
  split
  · exact failsOnly_ok _
  · split
    · exact failsOnly_ok _
    · exact failsOnly_error rfl

theorem failsOnly_mergeFields (tag : String) (base upper : Fields) :
    (mergeFields tag base upper).FailsOnly (·.isConfiguration = true) := by
  unfold mergeFields
  simp only
  split
  · exact failsOnly_ok _
  · exact failsOnly_error rfl

theorem failsOnly_mergeLanguages (file : String) (langs : Languages) (entries : Entries) :
    (mergeLanguages file langs entries).FailsOnly (·.isConfiguration = true) := by
  induction entries generalizing langs with
  | nil => exact failsOnly_ok langs
  | cons e rest ih =>
    obtain ⟨tag, v⟩ := e
    cases v with
    | table upper => exact (failsOnly_mergeFields _ _ _).bind fun merged _ => ih _
    | _ => exact failsOnly_error rfl

theorem failsOnly_mergeProject (langs : Languages) (entries : Entries) :
    (mergeProject langs entries).FailsOnly (·.isConfiguration = true) := by
  induction entries generalizing langs with
  | nil => exact failsOnly_ok langs
  | cons e rest ih =>
    unfold mergeProject
    split
    · exact (failsOnly_mergeFields _ _ _).bind fun merged _ => ih _
    · exact ih langs

theorem failsOnly_languageFields (file project : String) (doc projects : Entries) :
    (languageFields file project doc projects).FailsOnly (·.isConfiguration = true) := by
  refine (failsOnly_sectionOf _ _).bind fun entries _ => ?_
  refine (failsOnly_mergeLanguages _ _ _).bind fun langs _ => ?_
  split
  · exact failsOnly_mergeProject _ _
  · exact failsOnly_ok langs

theorem failsOnly_onlyKeys (names : List String) (es : Entries) :
    (onlyKeys names es).FailsOnly (·.isReported = true) := by
  unfold onlyKeys
  split
  · exact failsOnly_ok ()
  · exact failsOnly_error rfl

theorem failsOnly_readLevel (es : Entries) :
    (readLevel es).FailsOnly fun e =>
      e.isReported = true ∨
        ∃ v, es.lookup "log_level" = some v ∧ v.asText? = none ∧ e = .noSuchPart := by
  refine (failsOnly_onlyKeys _ es).or_inl.bind fun _ _ => ?_
  split
  next => exact failsOnly_ok _
  next s held =>
    split
    · exact failsOnly_ok s
    · exact failsOnly_error (.inl rfl)
  next v noText held =>
    refine failsOnly_error (.inr ⟨v, held, ?_, rfl⟩)
    cases v with
    | text s => exact absurd rfl (noText s)
    | _ => rfl

theorem failsOnly_readNamed {α : Type} (field : String) (named? : String → Option α)
    (names : List String) (v : Value) :
    (readNamed field named? names v).FailsOnly (·.isReported = true) := by
  unfold readNamed
  split
  · exact failsOnly_ok _
  · exact failsOnly_error rfl

theorem failsOnly_readOutput (es : Entries) :
    (readOutput es).FailsOnly (·.isReported = true) := by
  refine (failsOnly_onlyKeys _ es).bind fun _ _ => ?_
  split
  · exact failsOnly_ok _
  · exact failsOnly_readNamed _ _ _ _

theorem failsOnly_readTimeout (v : Value) : (readTimeout v).FailsOnly (·.isReported = true) := by
  unfold readTimeout
  split
  · exact failsOnly_ok _
  · exact failsOnly_error rfl

theorem failsOnly_readExecution (es : Entries) :
    (readExecution es).FailsOnly (·.isReported = true) := by
  refine (failsOnly_onlyKeys _ es).bind fun _ _ => ?_
  cases es.lookup "timeout" with
  | none =>
    simp only [pure_bind]
    split
    · exact failsOnly_ok _
    · exact (failsOnly_readNamed _ _ _ _).bind fun rule _ => failsOnly_ok _
  | some v =>
    refine (failsOnly_readTimeout v).bind fun timeout _ => ?_
    simp only [pure_bind]
    split
    · exact failsOnly_ok _
    · exact (failsOnly_readNamed _ _ _ _).bind fun rule _ => failsOnly_ok _

/-- A faulty pattern is reported with its language; all other errors stay what they are. -/
theorem failsOnly_profileOf (tag : String) (fields : Fields) :
    (profileOf tag fields).FailsOnly (Profile.Fails (fields.lookup ·)) := by
  unfold profileOf
  split
  · exact failsOnly_error (.inl rfl)
  · exact Profile.failsOnly_ofFields fields

theorem failsOnly_profilesOf (langs : Languages) :
    (profilesOf langs).FailsOnly fun e =>
      ∃ l ∈ langs, Profile.Fails (l.2.lookup ·) e := by
  apply failsOnly_mapM
  intro l mem
  refine ((failsOnly_profileOf l.1 l.2).mono fun e fails => ⟨l, mem, fails⟩).bind fun p _ => ?_
  exact failsOnly_ok _

theorem failsOnly_check (langs : Languages) (s : Sections) :
    (check langs s).FailsOnly fun e =>
      e.isReported = true ∨ (∃ l ∈ langs, Profile.Escape (l.2.lookup ·) e) ∨
        ∃ v, s.general.lookup "log_level" = some v ∧ v.asText? = none ∧ e = .noSuchPart := by
  refine ((failsOnly_profilesOf langs).mono ?_).bind fun profiles _ => ?_
  · rintro e ⟨l, mem, reported | escapes⟩
    · exact .inl reported
    · exact .inr (.inl ⟨l, mem, escapes⟩)
  refine ((failsOnly_readLevel _).mono ?_).bind fun level _ => ?_
  · rintro e (reported | noText)
    · exact .inl reported
    · exact .inr (.inr noText)
  refine (failsOnly_readOutput _).or_inl.bind fun output _ => ?_
  refine (failsOnly_readExecution _).or_inl.bind fun settings _ => ?_
  exact failsOnly_ok _

theorem isConfiguration_reported {e : Error} (file : Option String) (kind : e.isReported = true) :
    (reported file e).isConfiguration = true := by
  cases e with
  | misconfigured | pattern | wrongType | unfit => rfl
  | _ => cases kind

theorem reported_escape {value : String → Option Value} {e : Error} (file : Option String)
    (escapes : Profile.Escape value e) : reported file e = e := by
  cases escapes <;> rfl

theorem failsOnly_document (tree : FileTree) (env : Environment) (path : Option Path)
    (project : String) :
    (document tree path).FailsOnly fun e =>
      e.isConfiguration = true ∨ Escape tree env path project e := by
  unfold document
  split
  next p =>
    unfold readDocument
    split
    next => exact failsOnly_error (.inl rfl)
    next => exact failsOnly_error (.inl rfl)
    next bytes read =>
      split
      next noText => exact failsOnly_error (.inr (.notText rfl read noText))
      next cs decoded =>
        split
        next => exact failsOnly_ok _
        next => exact failsOnly_error (.inl rfl)
        next tooMany => exact failsOnly_error (.inr (.noNumber rfl read decoded tooMany))
  next => exact failsOnly_ok []

/-! ## The whole -/

theorem nodup_languageTags (unique : (Value.table doc).HasUniqueKeys) :
    (languageTags doc).Nodup := by
  have same : languageTags doc = keys ((fieldsAt doc "languages").getD []) := by
    rw [languageTags, at?_singleton, fieldsAt]
  rw [same]
  cases found : fieldsAt doc "languages" with
  | none => exact List.nodup_nil
  | some es => exact nodup_keys (hasUniqueKeys_fieldsAt unique found)

theorem nodup_languageFields (unique : (Value.table doc).HasUniqueKeys)
    (all : keys langs =
      keys Builtin.languages ++ (languageTags doc).filter (· ∉ keys Builtin.languages)) :
    (keys langs).Nodup := by
  rw [all, List.nodup_append]
  refine ⟨by decide, (nodup_languageTags unique).filter _, ?_⟩
  rintro tag builtIn _ new rfl
  simpa [builtIn] using (List.mem_filter.mp new).2

/-- A profile that escapes while languages are checked is that of a tag of the document. -/
theorem escape_of_mem {projects : Entries} {file : String} {e : Error} {l : String × Fields}
    (read : document tree path = .ok doc) (taken : sectionOf "projects" doc = .ok projects)
    (merged : languageFields file project doc projects = .ok langs) (mem : l ∈ langs)
    (escapes : Profile.Escape (l.2.lookup ·) e) : Escape tree env path project e := by
  have unique := hasUniqueKeys_document read
  obtain ⟨all, fields⟩ := languageFields_spec unique taken merged
  have held := lookup_of_mem (nodup_languageFields unique all) mem
  have same : (l.2.lookup ·) = fieldValue doc project l.1 := funext (fields l.1 l.2 held)
  have known : l.1 ∈ keys langs := List.mem_map_of_mem mem
  rw [all, List.mem_append] at known
  exact .profile read (known.imp_right fun new => (List.mem_filter.mp new).1) (same ▸ escapes)

/-- A configuration that loads has no cause of an escaping error. -/
theorem not_escape_of_load {name : Option String} {c : Config} {e : Error}
    (done : load tree env path name = .ok c) :
    ¬ Escape tree env path (name.getD tree.current.name) e := by
  intro escapes
  obtain ⟨doc, read, follows⟩ := follows_of_load done
  cases escapes with
  | notText isPath readBytes noText =>
    subst isPath
    obtain ⟨bytes, cs, readBytes', decoded, -⟩ := readDocument_eq_ok read
    cases readBytes.symm.trans readBytes'
    cases noText.symm.trans decoded
  | noNumber isPath readBytes decoded tooMany =>
    subst isPath
    obtain ⟨bytes, cs, readBytes', decoded', parsed⟩ := readDocument_eq_ok read
    cases readBytes.symm.trans readBytes'
    cases decoded.symm.trans decoded'
    cases tooMany.symm.trans parsed
  | profile read' known inner =>
    cases read.symm.trans read'
    obtain ⟨p, -, reads⟩ := follows.profile _ known
    exact Profile.not_escape_of_comesFrom reads _ inner
  | level read' isSet noText =>
    cases read.symm.trans read'
    have level := follows.logLevel
    simp only [isSet] at level
    rw [level] at noText
    cases noText

/-- Loading fails with an error of the configuration, or for one of the named causes. -/
theorem failsOnly_load (tree : FileTree) (env : Environment) (path : Option Path)
    (name : Option String) :
    (load tree env path name).FailsOnly fun e =>
      e.isConfiguration = true ∨ Escape tree env path (name.getD tree.current.name) e := by
  refine (failsOnly_document _ _ _ _).bind fun doc read => ?_
  refine (failsOnly_ofDocument doc).or_inl.bind fun s taken => ?_
  refine (failsOnly_overridden env s).or_inl.bind fun s' changed => ?_
  refine (failsOnly_languageFields _ _ _ _).or_inl.bind fun langs merged => ?_
  obtain ⟨takenGeneral, -, -, takenProjects⟩ := ofDocument_eq_ok taken
  obtain ⟨general, -, projects, -⟩ := overridden_eq_ok changed
  refine ((failsOnly_check langs s').mono ?_).mapError
  rintro e (reported | ⟨l, mem, escapes⟩ | ⟨v, held, noText, rfl⟩)
  · exact .inl (isConfiguration_reported _ reported)
  · rw [reported_escape _ escapes]
    exact .inr (escape_of_mem read (projects ▸ takenProjects) merged mem escapes)
  · rw [general, lookup_overrideText takenGeneral] at held
    exact .inr (.level read held noText)

/-- Loading gives a configuration or fails with an error of the configuration, unless one of
the named causes is there; with such a cause it gives no configuration. -/
theorem load_failure (tree : FileTree) (env : Environment) (path : Option Path)
    (name : Option String) :
    (∀ e, load tree env path name = .error e →
      e.isConfiguration = true ∨ Escape tree env path (name.getD tree.current.name) e) ∧
    ∀ e, Escape tree env path (name.getD tree.current.name) e →
      ∀ c, load tree env path name ≠ .ok c := by
  constructor
  · exact failsOnly_load tree env path name
  · intro e escapes c done
    exact not_escape_of_load done escapes

end Stages

/-! ### Files whose faults escape -/

/-- The kind of the error a load fails with, if it fails. -/
def failsAs (r : Except Error Config) : Option Bool :=
  match r with
  | .ok _ => none
  | .error e => some e.isConfiguration

theorem failsAs_eq_some {r : Except Error Config} {kind : Bool} :
    failsAs r = some kind ↔ ∃ e, r = .error e ∧ e.isConfiguration = kind := by
  cases r <;> simp [failsAs]

/-- A file with an extension that is a number. -/
def numberedText : String := "[languages.go]\nextensions = [5]\n"

theorem load_failure_numbered :
    ∃ e, load (home numberedText) [] (some tomlPath) none = .error e ∧
      Escape (home numberedText) [] (some tomlPath) "app" e := by
  have fails : failsAs (load (home numberedText) [] (some tomlPath) none) = some false := by
    decide +kernel
  obtain ⟨e, failed, kind⟩ := failsAs_eq_some.mp fails
  refine ⟨e, failed, ?_⟩
  have either := (load_failure _ _ _ _).1 e failed
  exact either.resolve_left (by simp [kind])

/-- A file with a pattern that repeats too often. -/
def repeatedText : String := "[languages.go]\npatterns = '(a)\x7b4294967295\x7d'\n"

/-- Errors escape that are none of the configuration: for an extension that is a number, for a
pattern that repeats too often, and for a byte that is no text. -/
theorem load_escapes :
    (∃ e, load (home numberedText) [] (some tomlPath) none = .error e ∧
      e.isConfiguration = false) ∧
    (∃ e, load (home repeatedText) [] (some tomlPath) none = .error e ∧
      e.isConfiguration = false) ∧
    ∃ e, load (home "ÿ") [] (some tomlPath) none = .error e ∧ e.isConfiguration = false := by
  simp only [← failsAs_eq_some]
  decide +kernel

end Config

end Proctor
