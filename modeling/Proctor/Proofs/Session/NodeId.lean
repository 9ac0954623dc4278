import Mathlib.Tactic.MkIffOfInductiveProp
import Proctor.Proofs.Detection.EnclosingClass
import Proctor.Proofs.ProjectRoot
import Proctor.Proofs.Session.Locate

/-!
# The node of a test

With the built-in profile whose tests are functions, alone or in classes, the command for a
test names its node: the file, the class if there is one, and the function. What lookup,
context and template each contribute is put together here.
-/

namespace Proctor

open Detection

namespace Builtin

/-- What the profile for test functions says about finding, naming and running them. -/
@[mk_iff] structure RunsFunctions (p : Profile) : Prop where
  patterns : p.patterns.map (·.expression) =
    [indented ["def".toList] "test_".toList,
     indented ["async".toList, "def".toList] "test_".toList,
     indented ["class".toList] "Test".toList]
  scope : p.scopePatterns.map (·.expression) = [atMargin ["class".toList] "Test".toList]
  context : p.context = some .enclosingClass
  template : p.commands.head? = some "pytest -xvs %f::%S"
  separator : p.separator.isSet = false
  markers : ∀ m ∈ p.rootMarkers, m.asText? ≠ none

instance (p : Profile) : Decidable (RunsFunctions p) :=
  decidable_of_iff _ (runsFunctions_iff p).symm

theorem runsFunctions {p : Profile} (builtin : Profile.ofFields python = .ok p) :
    RunsFunctions p := by
  have read : (Profile.ofFields python).toOption.all fun p => decide (RunsFunctions p) := by
    decide +kernel
  rw [builtin] at read
  exact of_decide_eq_true read

end Builtin

variable {p : Profile}

/-! ## The name -/

theorem Detection.inLine_of_isTestFunction (runs : Builtin.RunsFunctions p) {line name : String}
    (test : IsTestFunction line name) : inLine p.patterns line = some ⟨some name, 1⟩ := by
  obtain ⟨margin, text, same, blank, keywords, mem, declares⟩ := test
  obtain ⟨-, solid⟩ := isSolid_openers keywords (functions_subset mem)
  have stripped : Text.stripStart line.toList = text := by
    have first := (declares.opens (functions_subset mem)).isSolid.2
    rw [same, Text.stripStart_append_of_blank blank, Text.stripStart_of_indent first]
  have found : declared? keywords "test_".toList text = some name.toList :=
    (declared?_eq_some_iff solid (by decide)).mpr declares
  have whole : Pattern.nameIn ⟨0, [(1, name.toList)]⟩ = some name :=
    congrArg some String.ofList_toList
  rw [inLine, findSome?_search?, runs.patterns, List.findSome?_cons, List.findSome?_cons,
    search?_indented _ (by decide) (by decide), search?_indented _ (by decide) (by decide),
    stripped]
  obtain rfl | rfl := mem_functions.mp mem
  · rw [found]
    simp only [Option.map_some, whole]
  · -- The expression for plain functions comes first and misses.
    rw [declared?_of_other declares (by decide), found]
    simp only [Option.map_none, Option.map_some, whole]

/-! ## The command -/

theorem Command.expand_node (values : Command.Placeholder → String) :
    Command.expand values "pytest -xvs %f::%S" =
      ["pytest", "-xvs", values .file ++ "::" ++ values .qualifiedName] := by
  have fields : Command.fields "pytest -xvs %f::%S" =
      ["pytest".toList.map .char, "-xvs".toList.map .char,
        [.placeholder .file, .char ':', .char ':', .placeholder .qualifiedName]] := by
    decide +kernel
  have node : String.ofList ((values .file).toList ++ [':', ':'] ++ (values .qualifiedName).toList) =
      values .file ++ "::" ++ values .qualifiedName := by
    rw [String.ofList_append, String.ofList_append, String.ofList_toList, String.ofList_toList]
  rw [← node, Command.expand, fields]
  simp [Command.fill]

/-- The command for a test always exists, and the file in it is named from the root that was
looked up for it. -/
theorem Command.build_node (runs : Builtin.RunsFunctions p) (tree : FileTree) (t : TestInfo) :
    ∃ root, Command.rootFor tree p t none = .ok root ∧
      Command.build tree p t .normal none =
        .ok ["pytest", "-xvs", Command.valueFor t root p.separator .file ++ "::" ++
          Command.valueFor t root p.separator .qualifiedName] := by
  have templates : ∃ rest, Command.templatesFor p .normal = .ok ("pytest -xvs %f::%S" :: rest) := by
    obtain ⟨rest, commands⟩ := List.head?_eq_some_iff.mp runs.template
    exact ⟨rest, by simp [Command.templatesFor, Command.ownTemplates, commands]⟩
  obtain ⟨rest, templates⟩ := templates
  cases found : Command.rootFor tree p t none with
  | error e =>
    obtain ⟨m, mem, odd⟩ := ProjectRoot.exists_of_ofFile found
    exact absurd odd (runs.markers m mem)
  | ok root =>
    refine ⟨root, rfl, ?_⟩
    simp [Command.build, templates, found, Command.expand_node, bind, Except.bind, pure,
      Except.pure]

theorem Command.qualifiedName_none {t : TestInfo} {separator : Value} (root : Option Path)
    {name : String} (named : t.name = some name) (alone : t.context = none) :
    Command.valueFor t root separator .qualifiedName = name := by
  simp [Command.valueFor, Command.value?, Command.qualifiedName, TestInfo.innerContext?, alone,
    named]

theorem Command.qualifiedName_some {t : TestInfo} {separator : Value} (root : Option Path)
    {name describe : String} {level : Nat} (named : t.name = some name)
    (inside : t.context = some ⟨describe, level, false⟩) (default : separator.isSet = false) :
    Command.valueFor t root separator .qualifiedName = describe ++ "::" ++ name := by
  simp [Command.valueFor, Command.value?, Command.qualifiedName, TestInfo.innerContext?, inside,
    named, default, Command.defaultSeparator, TestInfo.nameText, Option.filter]

/-! ## The node -/

namespace Session

/-- Whatever a file consists of: let one of its lines declare a test function, and let a
cursor stand on that line, or below it with no other test in between. Then the function is
found under its name and line. If the last line at or above it that opens a function or a
class at the left margin declares a class of tests, that class is its context and stands in
the node that the command names, and otherwise the test has no context and the node no class.
-/
theorem locate_node (s : Session) (p : Profile) (file tag : String)
    (lines : Option (List String)) (language : Option String) (buffer : List String)
    (line name : String) (i : Nat) (cursor : Int)
    (builtin : Profile.ofFields Builtin.python = .ok p)
    (tagged : s.languageOf (Path.resolve s.tree.current (.parse file)).text language = .ok tag)
    (known : s.registry.find? tag = some p)
    (read : Source.linesOf s.tree (Path.resolve s.tree.current (.parse file)) lines = .ok buffer)
    (there : buffer[i]? = some line) (test : IsTestFunction line name)
    (below : (i + 1 : Nat) ≤ cursor)
    (between : ∀ j other, i < j → (j : Int) < cursor → buffer[j]? = some other →
      ∀ q ∈ p.patterns, q.search? other = none) :
    ∃ context root,
      let t : TestInfo :=
        { name := some name, file := Path.resolve s.tree.current (.parse file),
          line := (i + 1 : Nat), column := 1, language := tag, context }
      let rel := Command.valueFor t root p.separator .file
      (s.locate file lines cursor language).2 = .ok (some t) ∧
      Command.rootFor s.tree p t none = .ok root ∧
      (∀ className, StandsIn (buffer.take (i + 1)) className →
        context = some ⟨className, 0, false⟩ ∧
        Command.build s.tree p t .normal none =
          .ok ["pytest", "-xvs", rel ++ "::" ++ className ++ "::" ++ name]) ∧
      ((∀ className, ¬ StandsIn (buffer.take (i + 1)) className) →
        context = none ∧
        Command.build s.tree p t .normal none = .ok ["pytest", "-xvs", rel ++ "::" ++ name]) := by
  have runs := Builtin.runsFunctions builtin
  let path := Path.resolve s.tree.current (.parse file)
  let source : Source := ⟨path, tag, p, buffer⟩
  let context : Option Context :=
    (classOf? (buffer.take (i + 1))).map fun className => ⟨className, 0, false⟩
  let t : TestInfo :=
    { name := some name, file := path, line := (i + 1 : Nat), column := 1, language := tag,
      context }
  have opened : s.source file lines language = .ok source := source_eq_ok tagged known read
  have bare : source.bareNearest cursor = some { t with context := none } :=
    nearest_of_between there (inLine_of_isTestFunction runs test) below
      fun j other after before here => inLine_eq_none_iff.mpr (between j other after before here)
  have resolved : source.contextOf s.registry { t with context := none } = .ok context := by
    have enclosed := enclosingClass_of_isTestFunction runs.scope there test
    simp only [Source.contextOf, Detection.resolve, known, runs.context, source, t]
    exact enclosed
  have located : (s.locate file lines cursor language).2 = .ok (some t) := by
    rw [locate_of_source opened, Source.nearest, bare]
    change (source.withContext s.registry { t with context := none }).map some = _
    rw [Source.withContext, resolved]
    rfl
  obtain ⟨root, rooted, built⟩ := Command.build_node runs s.tree t
  refine ⟨context, root, located, rooted, fun className inside => ?_, fun outside => ?_⟩
  · have here : context = some ⟨className, 0, false⟩ := by
      simp [context, standsIn_iff.mp inside]
    have joined (rel : String) : rel ++ "::" ++ (className ++ "::" ++ name) =
        rel ++ "::" ++ className ++ "::" ++ name := by
      simp only [String.append_assoc]
    rw [Command.qualifiedName_some root rfl here runs.separator, joined] at built
    exact ⟨here, built⟩
  · have here : context = none := by
      have nowhere : classOf? (buffer.take (i + 1)) = none := by
        rw [Option.eq_none_iff_forall_ne_some]
        exact fun className found => outside className (standsIn_iff.mpr found)
      simp [context, nowhere]
    rw [Command.qualifiedName_none root rfl here] at built
    exact ⟨here, built⟩

/-! A file with a function in a class and one after it, in a project with a mark. -/

def functionProfile : Profile := (Profile.ofFields Builtin.python).toOption.getD {}

theorem ofFields_python : Profile.ofFields Builtin.python = .ok functionProfile := by
  have readable : (Profile.ofFields Builtin.python).toOption.isSome := by decide +kernel
  unfold functionProfile
  cases read : Profile.ofFields Builtin.python with
  | error e => simp [read, Except.toOption] at readable
  | ok p => rfl

def functionSession : Session where
  world := {
    engine := { config := { languages := [] } }
    registry := ⟨[("python", functionProfile)]⟩
    tree := ⟨.directory [("work", .directory [("setup.py", .file [] false)])], ⟨.slash, ["work"]⟩⟩
    environment := [] }

def functionLines : List String :=
  ["import sum", "class TestSum:", "    # once", "    async def test_one(self):",
    "        assert sum.of(1) == 1", "", "def test_none():", "    assert sum.of() == 0"]

def functionTest (name : String) (line : Int) (context : Option Context) : TestInfo :=
  { name := some name, file := ⟨.slash, ["work", "tests", "test_sum.py"]⟩, line := line,
    language := "python", context }

/-- On the blank line the function in the class is found, and on its own line the other one. -/
theorem locate_node_sum :
    (functionSession.locate "tests/test_sum.py" (some functionLines) 6 (some "python")).2 =
      .ok (some (functionTest "test_one" 4 (some ⟨"TestSum", 0, false⟩))) ∧
    Command.build functionSession.tree functionProfile
        (functionTest "test_one" 4 (some ⟨"TestSum", 0, false⟩)) .normal none =
      .ok ["pytest", "-xvs", "tests/test_sum.py::TestSum::test_one"] ∧
    (functionSession.locate "tests/test_sum.py" (some functionLines) 7 (some "python")).2 =
      .ok (some (functionTest "test_none" 7 none)) ∧
    Command.build functionSession.tree functionProfile
        (functionTest "test_none" 7 none) .normal none =
      .ok ["pytest", "-xvs", "tests/test_sum.py::test_none"] := by
  have known : functionSession.registry.find? "python" = some functionProfile := by
    simp only [functionSession, registry, Registry.find?, List.lookup_cons_self]
  have rooted (name : String) (line : Int) (context : Option Context) :
      (Command.rootFor functionSession.tree functionProfile
        (functionTest name line context) none).toOption = some (some ⟨.slash, ["work"]⟩) := by
    change (ProjectRoot.ofFile functionSession.tree functionProfile.rootMarkers
      ⟨.slash, ["work", "tests", "test_sum.py"]⟩).toOption = _
    decide +kernel
  have inner : IsTestFunction "    async def test_one(self):" "test_one" := by
    refine ⟨"    ".toList, "async def test_one(self):".toList, by decide +kernel,
      List.all_eq_true.mp (by decide), ["async".toList, "def".toList], by decide, ?_⟩
    exact (declared?_eq_some_iff (by decide) (by decide)).mp (by decide +kernel)
  have outer : IsTestFunction "def test_none():" "test_none" := by
    refine ⟨[], "def test_none():".toList, rfl, List.forall_mem_nil _, ["def".toList],
      by decide, ?_⟩
    exact (declared?_eq_some_iff (by decide) (by decide)).mp (by decide +kernel)
  have inside : StandsIn (functionLines.take 4) "TestSum" :=
    standsIn_iff.mpr (by decide +kernel)
  have outside (className : String) : ¬ StandsIn (functionLines.take 7) className := by
    have nowhere : classOf? (functionLines.take 7) = none := by decide +kernel
    intro found
    simp [standsIn_iff, nowhere] at found
  have missed : ∀ other ∈ ["        assert sum.of(1) == 1", ""],
      ∀ q ∈ functionProfile.patterns, q.search? other = none := by decide +kernel
  obtain ⟨context, root, found, place, classed, -⟩ := locate_node functionSession functionProfile
    "tests/test_sum.py" "python" (some functionLines) (some "python") functionLines
    "    async def test_one(self):" "test_one" 3 6 ofFields_python rfl known rfl rfl inner
    (by decide) (by
      intro j other after before here
      obtain rfl | rfl : j = 4 ∨ j = 5 := by omega
      · obtain rfl := Option.some.inj here
        exact missed _ (by simp)
      · obtain rfl := Option.some.inj here
        exact missed _ (by simp))
  obtain ⟨context', root', found', place', -, alone⟩ := locate_node functionSession
    functionProfile "tests/test_sum.py" "python" (some functionLines) (some "python")
    functionLines "def test_none():" "test_none" 6 7 ofFields_python rfl known rfl rfl outer
    (by decide) (by omega)
  obtain ⟨rfl, built⟩ := classed "TestSum" inside
  obtain ⟨rfl, built'⟩ := alone outside
  obtain rfl : root = some ⟨.slash, ["work"]⟩ :=
    Option.some.inj ((congrArg Except.toOption place).symm.trans (rooted "test_one" 4 _))
  obtain rfl : root' = some ⟨.slash, ["work"]⟩ :=
    Option.some.inj ((congrArg Except.toOption place').symm.trans (rooted "test_none" 7 _))
  exact ⟨found, built, found', built'⟩

end Session

end Proctor
