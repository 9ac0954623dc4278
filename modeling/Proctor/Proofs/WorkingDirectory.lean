import Proctor.Command
import Proctor.Proofs.ProjectRoot
import Proctor.WorkingDirectory

/-!
# Commands and the directories they run in

A command names the file of a test as it is seen from the root of the project, and a test
can run in that root. Both look for the root by themselves: where there is none, the command
has the mere name of the file, and the test runs in the directory of the file. So the name
leads from the directory to the file, root or no root.
-/

namespace Proctor

namespace DirectoryRule

theorem named?_name (r : DirectoryRule) : named? r.name = some r := by
  cases r <;> decide

theorem named?_eq_none_iff {s : String} : named? s = none ↔ s ∉ names := by
  simp only [named?, names, List.find?_eq_none, List.mem_map, beq_iff_eq, not_exists, not_and]

end DirectoryRule

namespace WorkingDirectory

/-! ## The rule that counts -/

section

variable {tree : FileTree} {registry : Registry} {configured : DirectoryRule} {t : TestInfo}
  {strategy : Option String} {why : Error}

/-- The name of the rule that counts: the one that is asked for unless it is empty, or else
the configured one. -/
def ruleName (configured : DirectoryRule) (strategy : Option String) : String :=
  (strategy.filter (!·.isEmpty)).getD configured.name

theorem ruleFor_eq (configured : DirectoryRule) (strategy : Option String) :
    ruleFor configured strategy =
      match DirectoryRule.named? (ruleName configured strategy) with
      | some rule => .ok rule
      | none => .error (.misconfigured
          (.unknownDirectory (ruleName configured strategy) DirectoryRule.names)) := by
  unfold ruleFor ruleName
  cases strategy.filter (!·.isEmpty) with
  | none => simp [DirectoryRule.named?_name]
  | some name => rfl

/-- A rule fails over a marker that is no text only. -/
theorem ofRule_error {rule : DirectoryRule}
    (failed : ofRule tree registry t rule = .error why) : why = .wrongType := by
  cases rule with
  | current | fileDirectory => cases failed
  | projectRoot =>
    cases found : ProjectRoot.ofFile tree (markersOf registry t.language) t.file with
    | ok root => simp [ofRule, found, Except.map] at failed
    | error e =>
      obtain rfl : e = why := by simpa [ofRule, found, Except.map] using failed
      exact (ProjectRoot.of_ofFile_error found).1

/-- There is no rule of the name that counts, or the rule fails. -/
theorem resolve_error (failed : resolve tree registry configured t strategy = .error why) :
    ruleName configured strategy ∉ DirectoryRule.names ∧
        why = .misconfigured
          (.unknownDirectory (ruleName configured strategy) DirectoryRule.names) ∨
      ruleName configured strategy ∈ DirectoryRule.names ∧ why = .wrongType := by
  rw [resolve, ruleFor_eq] at failed
  cases named : DirectoryRule.named? (ruleName configured strategy) with
  | none =>
    rw [named] at failed
    exact .inl ⟨DirectoryRule.named?_eq_none_iff.mp named, (Except.error.inj failed).symm⟩
  | some rule =>
    rw [named] at failed
    refine .inr ⟨Decidable.of_not_not fun unknown => ?_, ofRule_error failed⟩
    simp [DirectoryRule.named?_eq_none_iff.mpr unknown] at named

theorem exists_resolve_error (unknown : ruleName configured strategy ∉ DirectoryRule.names) :
    ∃ why, resolve tree registry configured t strategy = .error why := by
  rw [resolve, ruleFor_eq, DirectoryRule.named?_eq_none_iff.mpr unknown]
  exact ⟨_, rfl⟩

end

/-! ## The root of the project -/

theorem resolve_projectRoot {tree : FileTree} {registry : Registry} {configured : DirectoryRule}
    {p : Profile} {t : TestInfo} (known : registry.find? t.language = some p) :
    resolve tree registry configured t (some DirectoryRule.projectRoot.name) =
      (Command.rootFor tree p t none).map fun root => root.getD t.file.parent := by
  have markers : markersOf registry t.language = p.rootMarkers := by simp [markersOf, known]
  have rule : ruleFor configured (some DirectoryRule.projectRoot.name) = .ok .projectRoot := rfl
  rw [resolve, rule]
  change ofRule tree registry t .projectRoot = _
  rw [ofRule, markers]
  rfl

/-- The words of a command are those of the first template for its mode, with the file named
from the root that was found. -/
theorem build_eq_ok {tree : FileTree} {p : Profile} {t : TestInfo} {mode : Mode}
    {given root : Option Path} {words : List String}
    (built : Command.build tree p t mode given = .ok words)
    (found : Command.rootFor tree p t given = .ok root) :
    ∃ templates, Command.templatesFor p mode = .ok templates ∧
      words = Command.expand (Command.valueFor t root p.separator) (templates.headD "") := by
  unfold Command.build at built
  cases chosen : Command.templatesFor p mode with
  | error e => simp [chosen, bind, Except.bind] at built
  | ok templates =>
    refine ⟨templates, rfl, ?_⟩
    simp only [chosen, found, bind, Except.bind] at built
    split at built
    · cases built
    · exact (Except.ok.inj built).symm

/-- Whatever files there are: the directory a test runs in by the rule of project roots,
joined with what its command has for the file, is the file of the test. Both are there unless
a marker of the language is no text, and then neither is. -/
theorem directory_child_file (tree : FileTree) (registry : Registry)
    (configured : DirectoryRule) (p : Profile) (t : TestInfo) (file : String)
    (known : registry.find? t.language = some p) (named : t.file = .parse file) :
    let directory := resolve tree registry configured t (some DirectoryRule.projectRoot.name)
    (∃ root place, Command.rootFor tree p t none = .ok root ∧ directory = .ok place ∧
      place.child (Command.valueFor t root p.separator .file) = t.file ∧
      ∀ mode words, Command.build tree p t mode none = .ok words →
        ∃ templates, Command.templatesFor p mode = .ok templates ∧
          words = Command.expand (Command.valueFor t root p.separator) (templates.headD "")) ∨
    ∃ e, Command.rootFor tree p t none = .error e ∧ directory = .error e ∧
      ∃ m ∈ p.rootMarkers, m.asText? = none := by
  intro directory
  have resolved : directory = _ := resolve_projectRoot known
  have readable : ∀ part ∈ t.file.parts, Path.IsPartText part := by
    rw [named]
    exact fun _ => Path.isPartText_of_mem_parse
  cases found : Command.rootFor tree p t none with
  | error e =>
    rw [found] at resolved
    exact .inr ⟨e, rfl, resolved, ProjectRoot.exists_of_ofFile found⟩
  | ok root =>
    rw [found] at resolved
    refine .inl ⟨root, _, rfl, resolved, ?_, fun _ _ built => build_eq_ok built found⟩
    exact ProjectRoot.child_relative found readable

/-! A module with a package in it, where the mark of the root lies above the package. -/

def packageTree : FileTree where
  top := .directory [("work", .directory [("go.mod", .file [] false),
    ("pkg", .directory [("sum_test.go", .file [] false)])])]
  current := ⟨.slash, []⟩

def packageProfile : Profile := { rootMarkers := [.text "go.mod"], commands := ["go vet %f"] }

def packageTest : TestInfo :=
  { name := some "TestSum", file := .parse "/work/pkg/sum_test.go", line := 3, language := "go" }

/-- The command names the file from the root of the module, and the test runs in that root. -/
theorem directory_child_file_package :
    let directory := resolve packageTree ⟨[("go", packageProfile)]⟩ .current packageTest
      (some DirectoryRule.projectRoot.name)
    directory = .ok ⟨.slash, ["work"]⟩ ∧
      Command.build packageTree packageProfile packageTest .normal none =
        .ok ["go", "vet", "pkg/sum_test.go"] ∧
      (⟨.slash, ["work"]⟩ : Path).child "pkg/sum_test.go" = packageTest.file := by
  intro directory
  have markers : ∀ m ∈ packageProfile.rootMarkers, m.asText? ≠ none := by decide
  have rooted : Command.rootFor packageTree packageProfile packageTest none =
      .ok (some ⟨.slash, ["work"]⟩) := by rfl
  have named : Command.valueFor packageTest (some ⟨.slash, ["work"]⟩)
      packageProfile.separator .file = "pkg/sum_test.go" := by decide
  obtain ⟨root, place, found, ran, back, -⟩ | ⟨-, -, -, m, mem, odd⟩ :=
    directory_child_file packageTree ⟨[("go", packageProfile)]⟩ .current packageProfile
      packageTest "/work/pkg/sum_test.go" rfl rfl
  · obtain rfl : some ⟨.slash, ["work"]⟩ = root := Except.ok.inj (rooted.symm.trans found)
    have here : directory = .ok ⟨.slash, ["work"]⟩ := by rfl
    obtain rfl : ⟨.slash, ["work"]⟩ = place := Except.ok.inj (here.symm.trans ran)
    exact ⟨here, by rfl, named ▸ back⟩
  · exact absurd odd (markers m mem)

end WorkingDirectory

end Proctor
