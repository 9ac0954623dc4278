import Proctor.Proofs.Config.Failure

/-!
# What a configuration that loads can hold

Much of a configuration is checked as it is loaded: numbers and names are in their domains, and
every pattern has one group. Other values are taken as they come. What is to be a list of texts
is gone through item by item, whatever it is, so a single text falls apart into its characters
and a table into its keys; root markers and naming rules may be anything, and so may the
separator and what is added to the environment. Here it is said of each value whether it comes
out as the file lists it, and a configuration is well formed exactly if all of them do.
-/

namespace Proctor

namespace Value

/-- The texts that a value lists: those of a list, or a single one. -/
inductive Lists : Value → List String → Prop
  | nothing : Lists .null []
  | single (s : String) : Lists (.text s) [s]
  | several (ss : List String) : Lists (.list (ss.map .text)) ss

/-- Does the value come out as it is listed when it is gone through item by item? A list of
texts does, and of the single texts those of one character. -/
def isItemized : Value → Bool
  | .null => true
  | .text s => s.length == 1
  | .list items => items.all (·.asText?.isSome)
  | _ => false

/-- Is it a text, or nothing? -/
def isTextOrNull : Value → Bool
  | .null | .text _ => true
  | _ => false

/-- Is it a table of texts? -/
def isTextTable : Value → Bool
  | .table entries => entries.all (·.2.asText?.isSome)
  | _ => false

theorem all_isText_iff {items : List Value} :
    items.all (·.asText?.isSome) ↔ ∃ ss : List String, items = ss.map .text := by
  induction items with
  | nil => exact ⟨fun _ => ⟨[], rfl⟩, fun _ => rfl⟩
  | cons v rest ih =>
    constructor
    · intro all
      obtain ⟨first, others⟩ := Bool.and_eq_true_iff.mp all
      obtain ⟨s, isText⟩ := Option.isSome_iff_exists.mp first
      obtain ⟨ss, rfl⟩ := ih.mp others
      exact ⟨s :: ss, by rw [eq_text_of_asText? isText]; rfl⟩
    · rintro ⟨ss, same⟩
      cases ss with
      | nil => cases same
      | cons s ss =>
        obtain ⟨rfl, rfl⟩ := List.cons.inj same
        exact Bool.and_eq_true_iff.mpr ⟨rfl, ih.mpr ⟨ss, rfl⟩⟩

/-- What holds of the texts of every list, and of a single text if it is one character, holds of
what a value lists exactly if the value is itemized. -/
theorem exists_lists_iff {v : Value} {P : List String → Prop} (nothing : v = .null → P [])
    (single : ∀ s, v = .text s → (P [s] ↔ s.length = 1))
    (several : ∀ ss : List String, v = .list (ss.map .text) → P ss) :
    (∃ ss, v.Lists ss ∧ P ss) ↔ v.isItemized := by
  cases v with
  | null => exact ⟨fun _ => rfl, fun _ => ⟨[], .nothing, nothing rfl⟩⟩
  | text s =>
    rw [isItemized, beq_iff_eq, ← single s rfl]
    constructor
    · rintro ⟨_, ⟨⟩, holds⟩
      exact holds
    · intro holds
      exact ⟨[s], .single s, holds⟩
  | list items =>
    rw [isItemized, all_isText_iff]
    constructor
    · rintro ⟨ss, ⟨⟩, -⟩
      exact ⟨ss, rfl⟩
    · rintro ⟨ss, rfl⟩
      exact ⟨ss, .several ss, several ss rfl⟩
  | _ =>
    constructor
    · rintro ⟨_, ⟨⟩, -⟩
    · intro itemized
      cases itemized

/-- The characters of a text, each as a text. -/
theorem items?_text (s : String) :
    (text s).items? = some ((s.toList.map String.singleton).map .text) := by
  rw [List.map_map]
  rfl

theorem singletons_of_length {s : String} (one : s.length = 1) :
    s.toList.map String.singleton = [s] := by
  obtain ⟨c, only⟩ := List.length_eq_one_iff.mp (String.length_toList.trans one)
  have same : String.singleton c = s := String.toList_inj.mp (by simp [only])
  rw [only, List.map_singleton, same]

theorem map_singletons_eq_iff {α : Type} {f : String → α} {s : String} :
    (s.toList.map String.singleton).map f = [s].map f ↔ s.length = 1 := by
  constructor
  · intro same
    have lengths := congrArg List.length same
    rwa [List.length_map, List.length_map, String.length_toList] at lengths
  · intro one
    rw [singletons_of_length one]

/-- One of some texts is in their set, and nothing else is. -/
theorem mem_distinct_texts {ss : List String} {v : Value} :
    v ∈ distinct (ss.map .text) ↔ v ∈ ss.map .text := by
  induction ss with
  | nil => rfl
  | cons s ss ih =>
    simp only [List.map_cons, distinct, List.mem_cons, List.mem_filter, ih]
    constructor
    · rintro (here | ⟨later, -⟩)
      · exact .inl here
      · exact .inr later
    · rintro (here | later)
      · exact .inl here
      · obtain ⟨t, -, rfl⟩ := List.mem_map.mp later
        by_cases same : t = s
        · exact .inl (congrArg text same)
        · exact .inr ⟨later, by simp [Value.same, Ne.symm same]⟩

end Value

/-- What is read from the value in effect is read from the default, if there is none. -/
theorem ReadFrom.getD {α : Type} {read : Value → Except Error α} {default x : α} {d : Value}
    {o : Option Value} (reads : ReadFrom read default o x) (base : read d = .ok default) :
    read (o.getD d) = .ok x := by
  cases o with
  | some v => exact reads
  | none => exact base.trans (congrArg Except.ok reads.symm)

namespace Profile

variable {v : Value} {ss : List String}

theorem texts_eq_ok {vs : List Value} : texts vs = .ok ss ↔ vs = ss.map .text := by
  rw [texts, Except.mapM_eq_ok, ← List.forall₂_eq_eq_eq, List.forall₂_map_right_iff]
  constructor
  · refine List.Forall₂.imp fun v s done => ?_
    cases v with
    | text t => exact congrArg Value.text (Except.ok.inj done)
    | _ => cases done
  · refine List.Forall₂.imp fun v s same => ?_
    rw [same]

theorem itemsOf_eq_ok {items : List Value} : itemsOf v = .ok items ↔ v.items? = some items := by
  unfold itemsOf
  cases v.items? <;> simp

/-! ## What is read from what is listed -/

/-- Templates come out as they are listed unless they are the keys of a table. -/
theorem lists_templates (read : (readTemplates v >>= texts) = .ok ss) :
    v.Lists ss ↔ v.asTable? = none := by
  obtain ⟨items, taken, isTexts⟩ := Except.bind_eq_ok.mp read
  obtain rfl := texts_eq_ok.mp isTexts
  cases v with
  | null =>
    obtain rfl := List.map_eq_nil_iff.mp (Except.ok.inj taken).symm
    exact ⟨fun _ => rfl, fun _ => .nothing⟩
  | text s =>
    obtain rfl : ss = [s] := by
      have same : [s].map Value.text = ss.map .text := Except.ok.inj taken
      exact (List.map_inj_right fun _ _ => Value.text.inj).mp same.symm
    exact ⟨fun _ => rfl, fun _ => .single s⟩
  | list items =>
    obtain rfl : items = ss.map .text := Except.ok.inj taken
    exact ⟨fun _ => rfl, fun _ => .several ss⟩
  | table entries =>
    constructor
    · rintro ⟨⟩
    · intro noTable
      cases noTable
  | _ => cases taken

/-- Optional templates are read as templates, of which there are none if they are absent. -/
theorem readTemplates_of_optional {listed : Option (List String)}
    (read : (readOptionalTemplates v >>= (·.mapM texts)) = .ok listed) :
    (readTemplates v >>= texts) = .ok (listed.getD []) := by
  obtain ⟨items, taken, isTexts⟩ := Except.bind_eq_ok.mp read
  unfold readOptionalTemplates at taken
  split at taken
  next =>
    obtain rfl := Except.ok.inj taken
    obtain rfl := Except.ok.inj isTexts
    rfl
  next =>
    obtain ⟨items, readItems, rfl⟩ := Except.map_eq_ok.mp taken
    obtain ⟨ss, readTexts, rfl⟩ := Except.map_eq_ok.mp isTexts
    exact Except.bind_eq_ok.mpr ⟨items, readItems, readTexts⟩

/-- Naming rules are the items themselves. -/
theorem lists_items {items : List Value} (read : itemsOf v = .ok items) :
    (∃ ss, v.Lists ss ∧ items = ss.map .text) ↔ v.isItemized := by
  have taken := itemsOf_eq_ok.mp read
  apply Value.exists_lists_iff
  case nothing =>
    rintro rfl
    cases taken
  case single =>
    rintro s rfl
    obtain rfl := Option.some.inj (taken.symm.trans (Value.items?_text s))
    exact Value.map_singletons_eq_iff
  case several =>
    rintro ss rfl
    exact (Option.some.inj taken).symm

/-- Root markers are the set of the items. -/
theorem lists_markers {markers : List Value} (read : readMarkers v = .ok markers) :
    (∃ ss, v.Lists ss ∧ ∀ m, m ∈ markers ↔ m ∈ ss.map .text) ↔ v.isItemized := by
  obtain ⟨items, taken, read⟩ := Except.bind_eq_ok.mp read
  rw [itemsOf_eq_ok] at taken
  split at read
  next =>
    obtain rfl := Except.ok.inj read
    apply Value.exists_lists_iff
    case nothing =>
      rintro rfl
      cases taken
    case single =>
      rintro s rfl
      obtain rfl := Option.some.inj (taken.symm.trans (Value.items?_text s))
      simp only [Value.mem_distinct_texts]
      constructor
      · intro same
        have held := (same (.text s)).mpr List.mem_cons_self
        obtain ⟨t, isChar, inj⟩ := List.mem_map.mp held
        obtain ⟨c, -, rfl⟩ := List.mem_map.mp isChar
        obtain rfl := Value.text.inj inj
        exact String.length_singleton
      · intro one m
        rw [Value.singletons_of_length one]
    case several =>
      rintro ss rfl m
      obtain rfl := Option.some.inj taken
      exact Value.mem_distinct_texts
  next => cases read

theorem items_of_not_isSet {items : List Value} (unset : ¬ v.isSet = true)
    (taken : v.items? = some items) : items = [] := by
  cases v with
  | text s =>
    obtain rfl := Option.some.inj taken
    have empty : s = "" := by simpa [Value.isSet] using unset
    rw [empty]
    rfl
  | list items' =>
    obtain rfl := Option.some.inj taken
    simpa [Value.isSet] using unset
  | table entries =>
    obtain rfl := Option.some.inj taken
    simpa [Value.isSet] using unset
  | _ => cases taken

theorem readExtensions_of_items (taken : v.items? = some (ss.map .text)) :
    readExtensions v = .ok (ss.map normalExtension) := by
  unfold readExtensions
  split
  next =>
    rw [itemsOf_eq_ok.mpr taken, Except.ok_bind, Except.mapM_eq_ok, List.forall₂_map_left_iff,
      List.forall₂_map_right_iff]
    exact List.forall₂_same.mpr fun s _ => rfl
  next unset =>
    obtain rfl := List.map_eq_nil_iff.mp (items_of_not_isSet unset taken)
    rfl

/-- Extensions are the normal forms of the items. -/
theorem lists_extensions {extensions : List String}
    (read : readExtensions v = .ok extensions) :
    (∃ ss, v.Lists ss ∧ extensions = ss.map normalExtension) ↔ v.isItemized := by
  apply Value.exists_lists_iff
  case nothing =>
    rintro rfl
    exact (Except.ok.inj read).symm
  case single =>
    rintro s rfl
    obtain rfl := Except.ok.inj (read.symm.trans (readExtensions_of_items (Value.items?_text s)))
    exact Value.map_singletons_eq_iff
  case several =>
    rintro ss rfl
    exact Except.ok.inj (read.symm.trans (readExtensions_of_items rfl))

/-! ## Profiles -/

variable {value : String → Option Value} {p : Profile}

/-- The value of a field that is to be a list; one that is not given lists nothing. -/
def listed (value : String → Option Value) (field : String) : Value :=
  (value field).getD (.list [])

/-- What the checks of a profile establish: every source given is a pattern of one group, and the
strategy given is one there is. -/
structure Checked (value : String → Option Value) (p : Profile) : Prop where
  patterns : p.patterns.map (fun q => Value.text q.source) =
    sources ((value "patterns").getD .null)
  scopePatterns : p.scopePatterns.map (fun q => Value.text q.source) =
    sources ((value "scope_patterns").getD .null)
  groups : ∀ q ∈ p.patterns ++ p.scopePatterns,
    Pattern.Syntax.parse q.source = .ok (q.expression, 1)
  context : (value "context").getD .null =
    (p.context.map fun strategy => Value.text strategy.name).getD .null

/-- Every field that is to hold texts has those that are listed for it. -/
structure WellFormed (value : String → Option Value) (p : Profile) : Prop where
  commands : (listed value "commands").Lists p.commands
  debugCommands : (listed value "debug_commands").Lists (p.debugCommands.getD [])
  coverageCommands : (listed value "coverage_commands").Lists (p.coverageCommands.getD [])
  rootMarkers : ∃ ss, (listed value "root_markers").Lists ss ∧
    ∀ m, m ∈ p.rootMarkers ↔ m ∈ ss.map .text
  testFileNaming : ∃ ss, (listed value "test_file_naming").Lists ss ∧
    p.testFileNaming = ss.map .text
  extensions : ∃ ss, (listed value "extensions").Lists ss ∧
    p.extensions = ss.map normalExtension
  separator : p.separator.isTextOrNull

/-- Can the fields be read as they are listed? Templates are if they are no table, what is gone
through item by item if it is a list of texts or one character, and the separator if it is a
text. -/
def isPlain (value : String → Option Value) : Bool :=
  ["commands", "debug_commands", "coverage_commands"].all
      (fun field => (listed value field).asTable?.isNone) &&
    ["root_markers", "test_file_naming", "extensions"].all
      (fun field => (listed value field).isItemized) &&
    ((value "context_separator").getD .null).isTextOrNull

theorem sources_of_readPatterns {ps : List Pattern} (read : readPatterns v = .ok ps) :
    ps.map (fun q => Value.text q.source) = sources v := by
  obtain refused | each := readPatterns_eq v
  · cases refused.symm.trans read
  rw [each, Except.mapM_eq_ok] at read
  rw [← List.forall₂_eq_eq_eq, List.forall₂_map_left_iff]
  refine read.flip.imp fun q source done => ?_
  have compiled := Except.mapError_eq_ok.mp done
  cases source with
  | text s => exact congrArg Value.text (Pattern.source_of_compile compiled)
  | _ => cases compiled

theorem readStrategy_eq_ok {context : Option Strategy} (read : readStrategy v = .ok context) :
    v = (context.map fun strategy => Value.text strategy.name).getD .null := by
  unfold readStrategy at read
  simp only at read
  split at read
  next =>
    cases read
    rfl
  next s =>
    split at read
    next strategy named =>
      cases read
      exact congrArg Value.text (eq_name_of_find? named)
    next => cases read
  next => cases read

theorem checked_of_comesFrom (reads : p.ComesFrom value) : p.Checked value where
  patterns := sources_of_readPatterns (reads.patterns.getD rfl)
  scopePatterns := sources_of_readPatterns (reads.scopePatterns.getD rfl)
  groups := fun q _ => q.parsed
  context := readStrategy_eq_ok (reads.context.getD rfl)

theorem lists_optionalTemplates {o : Option Value} {opt : Option (List String)}
    (reads : ReadFrom (readOptionalTemplates · >>= (·.mapM texts)) none o opt) :
    (o.getD (.list [])).Lists (opt.getD []) ↔ (o.getD (.list [])).asTable? = none := by
  cases o with
  | some v => exact lists_templates (readTemplates_of_optional reads)
  | none =>
    obtain rfl := reads
    exact ⟨fun _ => rfl, fun _ => .several []⟩

/-- A profile is well formed exactly if its fields can be read as they are listed. -/
theorem wellFormed_iff_isPlain (reads : p.ComesFrom value) :
    p.WellFormed value ↔ isPlain value := by
  have commands := lists_templates (reads.commands.getD (d := .list []) rfl)
  have debug := lists_optionalTemplates reads.debugCommands
  have coverage := lists_optionalTemplates reads.coverageCommands
  have markers := lists_markers (reads.rootMarkers.getD (d := .list []) rfl)
  have naming := lists_items (reads.testFileNaming.getD (d := .list []) rfl)
  have extensions := lists_extensions (reads.extensions.getD (d := .list []) rfl)
  have separator : (value "context_separator").getD .null = p.separator :=
    Except.ok.inj (reads.separator.getD rfl)
  simp only [isPlain, listed, List.all_cons, List.all_nil, Bool.and_true, Bool.and_eq_true,
    Option.isNone_iff_eq_none, ← commands, ← debug, ← coverage, ← markers, ← naming,
    ← extensions, separator]
  constructor
  · rintro ⟨commands, debug, coverage, markers, naming, extensions, separator⟩
    exact ⟨⟨⟨commands, debug, coverage⟩, markers, naming, extensions⟩, separator⟩
  · rintro ⟨⟨⟨commands, debug, coverage⟩, markers, naming, extensions⟩, separator⟩
    exact ⟨commands, debug, coverage, markers, naming, extensions, separator⟩

end Profile

namespace Config

open Toml (Entries)

/-! ## Configurations -/

/-- What the checks of a configuration establish: a positive timeout, names there are, and
checked profiles. -/
structure Checked (doc : Entries) (env : Environment) (project : String) (c : Config) : Prop where
  timeout : 0 < c.timeout
  logLevel : (Text.asciiUpper? c.logLevel).map Unfit.logLevels.contains = some true
  output : ∀ v, textSetting doc env outputVariable "output" "mode" = some v →
    v = .text c.output.name
  directory : ∀ v, (Value.table doc).at? ["execution", "cwd_strategy"] = some v →
    v = .text c.directory.name
  profile : ∀ tag p, c.languages.lookup tag = some p → p.Checked (fieldValue doc project tag)

/-- What is added to the environment are texts, and every profile has the texts that are listed
for it. -/
structure WellFormed (doc : Entries) (project : String) (c : Config) : Prop where
  env : c.env.isTextTable
  profile : ∀ tag p, c.languages.lookup tag = some p → p.WellFormed (fieldValue doc project tag)

/-- Can the document be read as it is written, in what is added to the environment and in every
language? -/
def isPlain (doc : Entries) (project : String) : Bool :=
  (((Value.table doc).at? ["execution", "env"]).getD (.table [])).isTextTable &&
    (keys Builtin.languages ++ languageTags doc).all
      fun tag => Profile.isPlain (fieldValue doc project tag)

section

variable {doc es : Entries} {env : Environment} {project tag : String} {c : Config}
  {tree : FileTree} {path : Option Path} {p : Profile}

theorem isKnown_of_readLevel {level : String} (done : readLevel es = .ok level) :
    (Text.asciiUpper? level).map Unfit.logLevels.contains = some true := by
  obtain ⟨-, -, done⟩ := Except.bind_eq_ok.mp done
  split at done
  next =>
    cases done
    decide +kernel
  next =>
    split at done
    next known =>
      cases done
      exact (Option.getD_eq_iff.mp known).resolve_right (by simp)
    next => cases done
  next => cases done

theorem pos_of_readTimeout {o : Option Value} {n : Nat}
    (reads : ReadFrom readTimeout 30000 o n) : 0 < n := by
  cases o with
  | none =>
    obtain rfl := reads
    decide
  | some v =>
    have done : readTimeout v = .ok n := reads
    unfold readTimeout at done
    split at done
    next =>
      cases done
      exact Nat.succ_pos _
    next => cases done

theorem Follows.known_of_lookup (follows : Follows doc env project c)
    (held : c.languages.lookup tag = some p) :
    tag ∈ keys Builtin.languages ∨ tag ∈ languageTags doc := by
  have known : tag ∈ keys c.languages := isSome_lookup_iff.mp (by simp [held])
  rw [follows.tags, List.mem_append] at known
  exact known.imp_right fun new => (List.mem_filter.mp new).1

/-- Each profile of the configuration comes from the fields of its language. -/
theorem Follows.comesFrom (follows : Follows doc env project c)
    (held : c.languages.lookup tag = some p) :
    p.ComesFrom (fieldValue doc project tag) := by
  obtain ⟨p', held', reads⟩ := follows.profile tag (follows.known_of_lookup held)
  obtain rfl := Option.some.inj (held.symm.trans held')
  exact reads

theorem Follows.wellFormed_iff_isPlain (follows : Follows doc env project c)
    (extra : c.env = ((Value.table doc).at? ["execution", "env"]).getD (.table [])) :
    c.WellFormed doc project ↔ isPlain doc project := by
  rw [isPlain, ← extra, Bool.and_eq_true, List.all_eq_true]
  constructor
  · rintro ⟨env, profile⟩
    refine ⟨env, fun tag known => ?_⟩
    obtain ⟨p, held, reads⟩ := follows.profile tag (List.mem_append.mp known)
    exact (Profile.wellFormed_iff_isPlain reads).mp (profile tag p held)
  · rintro ⟨env, plain⟩
    refine ⟨env, fun tag p held => ?_⟩
    have known := List.mem_append.mpr (follows.known_of_lookup held)
    exact (Profile.wellFormed_iff_isPlain (follows.comesFrom held)).mpr (plain tag known)

theorem Follows.output_of_set (follows : Follows doc env project c) {v : Value}
    (isSet : textSetting doc env outputVariable "output" "mode" = some v) :
    v = .text c.output.name := by
  have mode := follows.output
  simpa only [isSet] using mode

theorem directory_of_set {o : Option Value} {rule : DirectoryRule} {v : Value}
    (reads : ReadFrom (readNamed "cwd_strategy" DirectoryRule.named? DirectoryRule.names)
      .projectRoot o rule) (isSet : o = some v) : v = .text rule.name := by
  subst isSet
  obtain ⟨s, rfl, named⟩ := readNamed_eq_ok reads
  exact congrArg Value.text (eq_name_of_find? named)

/-- A configuration that loads is checked, and it is well formed exactly if the document is
plain. -/
theorem load_wellFormed {name : Option String} (done : load tree env path name = .ok c) :
    ∃ doc, document tree path = .ok doc ∧
      c.Checked doc env (name.getD tree.current.name) ∧
      (c.WellFormed doc (name.getD tree.current.name) ↔
        isPlain doc (name.getD tree.current.name)) := by
  obtain ⟨doc, read, follows⟩ := follows_of_load done
  obtain ⟨doc', s, s', langs, read', taken, changed, -, checked⟩ := load_eq_ok done
  obtain rfl := Except.ok.inj (read.symm.trans read')
  obtain ⟨-, -, execution, -⟩ := ofDocument_eq_ok taken
  obtain ⟨-, level, -, settings⟩ := check_eq_ok checked
  obtain ⟨timeout, directory, extra⟩ := readExecution_eq_ok settings
  have setting {key : String} (other : key ≠ "timeout") :
      s'.execution.lookup key = (Value.table doc).at? ["execution", key] := by
    rw [lookup_execution_of_overridden changed other, at?_of_sectionOf execution, at?_singleton]
  rw [setting (by decide)] at directory extra
  refine ⟨doc, read, ?_, follows.wellFormed_iff_isPlain extra⟩
  exact {
    timeout := pos_of_readTimeout timeout
    logLevel := isKnown_of_readLevel level
    output := fun v isSet => follows.output_of_set isSet
    directory := fun v isSet => directory_of_set directory isSet
    profile := fun tag p held => Profile.checked_of_comesFrom (follows.comesFrom held) }

end

/-! ### A plain file, and one that is not -/

theorem load_wellFormed_app :
    ∃ doc c, document (home appText) (some tomlPath) = .ok doc ∧
      load (home appText) hurried (some tomlPath) none = .ok c ∧
      0 < c.timeout ∧ c.WellFormed doc "app" := by
  have loads : (load (home appText) hurried (some tomlPath) none).toOption.isSome := by
    decide +kernel
  obtain ⟨c, found⟩ := Option.isSome_iff_exists.mp loads
  have done := Except.toOption_eq_some.mp found
  obtain ⟨doc, read, checked, wellFormed⟩ := load_wellFormed done
  have plain := eq_of_document (f := (isPlain · "app")) (a := true) read (by decide +kernel)
  exact ⟨doc, c, read, done, checked.timeout, wellFormed.mpr plain⟩

/-- A file with single texts where lists are to be, and numbers where texts are. -/
def looseText : String :=
  "[execution]
env = 5
[languages.go]
extensions = 'zig'
root_markers = 'ab'
" ++
  "test_file_naming = [5]
context_separator = 5
"

/-- The file loads; its texts have fallen apart and its numbers are kept. -/
theorem load_takes_apart :
    ∃ c, load (home looseText) [] (some tomlPath) none = .ok c ∧ c.env.isTextTable = false ∧
      ∃ p, c.languages.lookup "go" = some p ∧ p.extensions = ["z", "i", "g"] ∧
        p.rootMarkers.map Value.asText? = [some "a", some "b"] ∧
        p.testFileNaming.map Value.asText? = [none] ∧ p.separator.isTextOrNull = false := by
  -- All at once, since the built-in patterns are read anew with every load.
  have view : (load (home looseText) [] (some tomlPath) none).toOption.any fun c =>
      !c.env.isTextTable && (c.languages.lookup "go").any fun p =>
        p.extensions == ["z", "i", "g"] && p.rootMarkers.map Value.asText? == [some "a", some "b"] &&
          p.testFileNaming.map Value.asText? == [none] && !p.separator.isTextOrNull := by
    decide +kernel
  simp only [Option.any_eq_true, Bool.and_eq_true, Bool.not_eq_eq_eq_not, Bool.not_true,
    beq_iff_eq, Except.toOption_eq_some] at view
  obtain ⟨c, done, env, p, held, ⟨⟨extensions, markers⟩, naming⟩, separator⟩ := view
  exact ⟨c, done, env, p, held, extensions, markers, naming, separator⟩

end Config

end Proctor
