import Proctor.Proofs.Config.Precedence
import Proctor.Proofs.Counterpart.Name

/-!
# What built-in rules say of names

Whether a file is taken for a test depends on what a registry knows of names alone: the
extensions of its languages and their naming rules. The rules of the built-in languages ask for
a form of the name and for one ending each, which is not every ending of the language, and one
of them asks for nothing but the ending.
-/

namespace Proctor

/-- The registry of a configuration without a file. -/
@[irreducible] def Builtin.registry : Registry :=
  .ofList ((Config.profilesOf languages).toOption.getD [])

namespace Counterpart

variable {f : NameForm} {base ext name rule : String} {b m e : List Char} {path : Path}
  {registry : Registry}

/-! ## Naming -/

/-- What a registry knows of names: for each language its extensions and its naming rules. -/
def namingOf (registry : Registry) : List (String × List String × List Value) :=
  registry.entries.map fun e => (e.1, e.2.extensions, e.2.testFileNaming)

theorem map_asText?_eq {values : List Value} {texts : List String}
    (same : values.map (·.asText?) = texts.map some) : values = texts.map .text := by
  induction texts generalizing values with
  | nil => exact List.map_eq_nil_iff.mp same
  | cons text rest ih =>
    obtain ⟨value, values, rfl, here, later⟩ := List.map_eq_cons_iff.mp same
    rw [Value.eq_text_of_asText? here, ih later, List.map_cons]

theorem namingOf_eq {table : List (String × List String × List String)}
    (same : (namingOf registry).map (fun row => (row.1, row.2.1, row.2.2.map (·.asText?))) =
      table.map fun row => (row.1, row.2.1, row.2.2.map some)) :
    namingOf registry = table.map fun row => (row.1, row.2.1, row.2.2.map .text) := by
  generalize namingOf registry = naming at same
  induction table generalizing naming with
  | nil => exact List.map_eq_nil_iff.mp same
  | cons row rest ih =>
    obtain ⟨row', naming, rfl, here, later⟩ := List.map_eq_cons_iff.mp same
    obtain ⟨tag, extensions, rules⟩ := row'
    simp only [Prod.mk.injEq] at here
    obtain ⟨rfl, rfl, rules⟩ := here
    rw [List.map_cons, ih naming later, map_asText?_eq rules]

theorem lookup_namingOf (tag : String) : (namingOf registry).lookup tag =
    (registry.find? tag).map fun p => (p.extensions, p.testFileNaming) := by
  unfold namingOf Registry.find?
  induction registry.entries with
  | nil => rfl
  | cons e rest ih =>
    obtain ⟨key, p⟩ := e
    cases here : tag == key <;> simp [List.lookup_cons, here, ih]

theorem looksLikeTest_of_profile {p : Profile}
    (found : ((registry.languageFor? path).filter (!·.isEmpty)).bind registry.find? = some p) :
    looksLikeTest registry path = satisfiesAny path.name p.testFileNaming := by
  unfold looksLikeTest
  rw [found]
  rfl

/-- The rules of the first language with the extension decide. -/
theorem looksLikeTest_of_naming {tag : String} {extensions : List String} {rules : List Value}
    (ending : Registry.extensionOf path = ext) (nonempty : ext ≠ "") (tagged : tag ≠ "")
    (claimed : (namingOf registry).find? (·.2.1.contains ext) = some (tag, extensions, rules))
    (known : (namingOf registry).lookup tag = some (extensions, rules)) :
    looksLikeTest registry path = satisfiesAny path.name rules := by
  have language : registry.languageFor? path = some tag := by
    rw [namingOf, List.find?_map] at claimed
    obtain ⟨e, first, same⟩ := Option.map_eq_some_iff.mp claimed
    simp only [Prod.mk.injEq] at same
    have asked : ext.isEmpty = false := by simpa using nonempty
    simp only [Registry.languageFor?, ending, asked, Bool.false_eq_true, if_false]
    exact Option.map_eq_some_iff.mpr ⟨e, first, same.1⟩
  rw [lookup_namingOf] at known
  obtain ⟨p, found, same⟩ := Option.map_eq_some_iff.mp known
  obtain ⟨-, rfl⟩ := Prod.mk.inj same
  exact looksLikeTest_of_profile (by simp [language, Option.filter, tagged, found])

/-! ## Built-in languages -/

/-- The extensions and the naming rules of the built-in languages. -/
def builtinNaming : List (String × List String × List String) := [
  ("go", ["go"], ["*_test.go"]),
  ("python", ["py"], ["test_*.py", "*_test.py"]),
  ("rust", ["rs"], ["src/**/*test*.rs", "tests/**/*.rs"]),
  ("javascript", ["js", "jsx", "mjs", "cjs"], ["**/*.test.js", "**/*.spec.js"]),
  ("typescript", ["ts", "tsx", "mts", "cts"], ["**/*.test.ts", "**/*.spec.ts"])]

theorem namingOf_registry : namingOf Builtin.registry =
    builtinNaming.map fun row => (row.1, row.2.1, row.2.2.map .text) := by
  apply namingOf_eq
  decide +kernel

/-- The naming rules of the language of an ending. -/
def languageRules : String → List String
  | "go" => ["*_test.go"]
  | "py" => ["test_*.py", "*_test.py"]
  | "rs" => ["src/**/*test*.rs", "tests/**/*.rs"]
  | "js" | "jsx" | "mjs" | "cjs" => ["**/*.test.js", "**/*.spec.js"]
  | "ts" | "tsx" | "mts" | "cts" => ["**/*.test.ts", "**/*.spec.ts"]
  | _ => []

/-- The endings of the built-in languages. -/
def IsKnown (ext : String) : Prop := ∃ e ∈ Builtin.registry.entries, ext ∈ e.2.extensions

theorem isKnown_iff : IsKnown ext ↔ ext ∈ builtinNaming.flatMap (·.2.1) := by
  have all : Builtin.registry.entries.flatMap (·.2.extensions) = builtinNaming.flatMap (·.2.1) := by
    have same := congrArg (List.flatMap (·.2.1)) namingOf_registry
    rwa [namingOf, List.flatMap_map, List.flatMap_map] at same
  rw [← all, List.mem_flatMap]
  rfl

theorem IsKnown.ending (known : IsKnown ext) :
    ext.toList ≠ [] ∧ '.' ∉ ext.toList ∧ '/' ∉ ext.toList := by
  have each : ∀ ext ∈ builtinNaming.flatMap (·.2.1),
      ext.toList ≠ [] ∧ '.' ∉ ext.toList ∧ '/' ∉ ext.toList := by
    decide
  exact each ext (isKnown_iff.mp known)

theorem looksLikeTest_of_known (known : IsKnown ext) (ending : Registry.extensionOf path = ext) :
    looksLikeTest Builtin.registry path = .ok ((languageRules ext).any fun rule =>
      Glob.holds (nameRule rule) path.name) := by
  rw [isKnown_iff] at known
  rw [← satisfiesAny_texts]
  have row (tag : String) (extensions : List String) (tagged : tag ≠ "") (nonempty : ext ≠ "")
      (claimed : (builtinNaming.map fun row => (row.1, row.2.1, row.2.2.map Value.text)).find?
        (·.2.1.contains ext) = some (tag, extensions, (languageRules ext).map .text))
      (found : (builtinNaming.map fun row => (row.1, row.2.1, row.2.2.map Value.text)).lookup tag =
        some (extensions, (languageRules ext).map .text)) :
      looksLikeTest Builtin.registry path =
        satisfiesAny path.name ((languageRules ext).map .text) := by
    rw [← namingOf_registry] at claimed found
    exact looksLikeTest_of_naming ending nonempty tagged claimed found
  simp only [builtinNaming, List.flatMap_cons, List.flatMap_nil, List.cons_append, List.nil_append,
    List.append_nil, List.mem_cons, List.not_mem_nil, or_false] at known
  obtain rfl | rfl | rfl | rfl | rfl | rfl | rfl | rfl | rfl | rfl | rfl := known
  · exact row "go" _ (by decide) (by decide) rfl rfl
  · exact row "python" _ (by decide) (by decide) rfl rfl
  · exact row "rust" _ (by decide) (by decide) rfl rfl
  · exact row "javascript" _ (by decide) (by decide) rfl rfl
  · exact row "javascript" _ (by decide) (by decide) rfl rfl
  · exact row "javascript" _ (by decide) (by decide) rfl rfl
  · exact row "javascript" _ (by decide) (by decide) rfl rfl
  · exact row "typescript" _ (by decide) (by decide) rfl rfl
  · exact row "typescript" _ (by decide) (by decide) rfl rfl
  · exact row "typescript" _ (by decide) (by decide) rfl rfl
  · exact row "typescript" _ (by decide) (by decide) rfl rfl

theorem extensionOf_of_known (known : IsKnown ext) (named : path.name = fileName base ext)
    (nonempty : base ≠ "") : Registry.extensionOf path = ext := by
  have normal : ∀ ext ∈ builtinNaming.flatMap (·.2.1),
      Profile.normalExtension (String.ofList ('.' :: ext.toList)) = ext := by
    decide +kernel
  obtain ⟨ending, dotless, -⟩ := known.ending
  have cut : Path.cut path.name.toList = (base.toList, '.' :: ext.toList) := by
    rw [named, toList_fileName]
    exact Path.cut_append_dot (by simpa using nonempty) ending dotless
  rw [Registry.extensionOf, Path.ending, cut, normal ext (isKnown_iff.mp known)]

/-! ## Forms -/

/-- The forms that its language asks of the name of a test with the ending. -/
def languageForms : String → List NameForm
  | "go" => [⟨"", "_test"⟩]
  | "py" => [⟨"test_", ""⟩, ⟨"", "_test"⟩]
  | "rs" => [⟨"", ""⟩]
  | "js" | "ts" => [⟨"", ".test"⟩, ⟨"", ".spec"⟩]
  | _ => []

/-- The rules with one star, each with the form and the ending it asks for. -/
def formRules : List (String × NameForm × String) := [
  ("*_test.go", ⟨"", "_test"⟩, "go"),
  ("test_*.py", ⟨"test_", ""⟩, "py"), ("*_test.py", ⟨"", "_test"⟩, "py"),
  ("tests/**/*.rs", ⟨"", ""⟩, "rs"),
  ("**/*.test.js", ⟨"", ".test"⟩, "js"), ("**/*.spec.js", ⟨"", ".spec"⟩, "js"),
  ("**/*.test.ts", ⟨"", ".test"⟩, "ts"), ("**/*.spec.ts", ⟨"", ".spec"⟩, "ts")]

theorem holds_nameRule_iff {ending : String} (mem : (rule, f, ending) ∈ formRules)
    (named : name.toList = b ++ '.' :: e) (dotless : '.' ∉ e) :
    Glob.holds (nameRule rule) name ↔ e = ending.toList ∧ ∃ m, f.Forms m b := by
  have shaped : ∀ row ∈ formRules, '.' ∉ row.2.2.toList ∧ Glob.pieces (nameRule row.1) =
      row.2.1.before.toList.map .char ++
        .star :: (row.2.1.after.toList ++ '.' :: row.2.2.toList).map .char := by
    decide +kernel
  obtain ⟨dotless', shape⟩ := shaped _ mem
  exact holds_iff_forms shape dotless' named dotless

/-- A name with a known ending satisfies a rule of its language if it has a form of it. -/
theorem any_languageRules_iff (known : IsKnown ext) (named : name.toList = b ++ '.' :: ext.toList) :
    (languageRules ext).any (fun rule => Glob.holds (nameRule rule) name) ↔
      ∃ f ∈ languageForms ext, ∃ m, f.Forms m b := by
  have tables : ∀ ext ∈ builtinNaming.flatMap (·.2.1),
      (∀ rule ∈ languageRules ext, languageForms ext = [⟨"", ""⟩] ∨
        ∃ row ∈ formRules, row.1 = rule ∧ (ext = row.2.2 → row.2.1 ∈ languageForms ext)) ∧
      ∀ f ∈ languageForms ext, ∃ rule ∈ languageRules ext, (rule, f, ext) ∈ formRules := by
    decide +kernel
  obtain ⟨toForm, toRule⟩ := tables ext (isKnown_iff.mp known)
  have dotless := known.ending.2.1
  rw [List.any_eq_true]
  constructor
  · rintro ⟨rule, mem, holds⟩
    obtain all | ⟨⟨_, f, ending⟩, inside, rfl, form⟩ := toForm rule mem
    · exact ⟨⟨"", ""⟩, all ▸ List.mem_singleton_self _, b, by simp [NameForm.Forms]⟩
    · obtain ⟨same, forms⟩ := (holds_nameRule_iff inside named dotless).mp holds
      exact ⟨f, form (String.toList_inj.mp same), forms⟩
  · rintro ⟨f, mem, forms⟩
    obtain ⟨rule, mem', inside⟩ := toRule f mem
    exact ⟨rule, mem', (holds_nameRule_iff inside named dotless).mpr ⟨rfl, forms⟩⟩

/-- A file with a known ending is taken for a test if its name has a form of its language. -/
theorem looksLikeTest_registry (known : IsKnown ext) (named : path.name = fileName base ext)
    (nonempty : base ≠ "") : ∃ answer, looksLikeTest Builtin.registry path = .ok answer ∧
      (answer ↔ ∃ f ∈ languageForms ext, ∃ m, f.Forms m base.toList) := by
  refine ⟨_, looksLikeTest_of_known known (extensionOf_of_known known named nonempty), ?_⟩
  exact any_languageRules_iff known (by rw [named, toList_fileName])

/-- Every language but one asks for forms that the names of tests have. -/
theorem languageForms_subset (other : ext ≠ "rs") (mem : f ∈ languageForms ext) :
    f ∈ nameForms := by
  unfold languageForms at mem
  split at mem
  case h_3 => exact absurd rfl other
  all_goals revert f; decide

end Counterpart

end Proctor
