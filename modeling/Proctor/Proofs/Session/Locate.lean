import Proctor.Proofs.Detection.Locate
import Proctor.Builtin
import Proctor.Session

/-!
# Looking up one test and listing all

A session resolves contexts once for the listing of a file and once more for the test that
governs a cursor. Both times a context depends on the line of the test alone, so a lookup
answers with a member of the listing: the last one that does not stand below the cursor.
-/

namespace Proctor

namespace Source

variable {s : Source} {registry : Registry}

/-- A test with its context, or as it is where the context cannot be resolved. -/
def resolvedOrBare (s : Source) (registry : Registry) (t : TestInfo) : TestInfo :=
  match s.contextOf registry t with
  | .ok context => { t with context }
  | .error _ => t

@[simp] theorem resolvedOrBare_line (t : TestInfo) :
    (s.resolvedOrBare registry t).line = t.line := by
  unfold resolvedOrBare
  split <;> rfl

theorem withContext_of_resolved {t : TestInfo} {context : Option Context}
    (resolved : s.contextOf registry t = .ok context) :
    s.withContext registry t = .ok (s.resolvedOrBare registry t) := by
  simp [withContext, resolvedOrBare, resolved, Except.map]

theorem all_of_resolved
    (resolved : ∀ t ∈ s.bareAll, ∃ context, s.contextOf registry t = .ok context) :
    s.all registry = .ok (s.bareAll.map (s.resolvedOrBare registry)) := by
  unfold all
  generalize s.bareAll = tests at resolved
  induction tests with
  | nil => rfl
  | cons t rest ih =>
    obtain ⟨context, first⟩ := resolved t List.mem_cons_self
    have others := ih fun u mem => resolved u (List.mem_cons_of_mem t mem)
    rw [List.mapM_cons, withContext_of_resolved first, others]
    rfl

/-- The test that governs a cursor is the last one of the listing that does not stand below
it, and the two have one context. -/
theorem nearest_of_resolved
    (resolved : ∀ t ∈ s.bareAll, ∃ context, s.contextOf registry t = .ok context)
    (cursor : Int) :
    s.nearest registry cursor =
      .ok (((s.bareAll.map (s.resolvedOrBare registry)).filter fun t => t.line ≤ cursor).getLast?)
    := by
  have kept : (fun t => decide ((s.resolvedOrBare registry t).line ≤ cursor)) =
      fun t => decide (t.line ≤ cursor) := by
    funext t
    rw [resolvedOrBare_line]
  have found : s.bareNearest cursor = (s.bareAll.filter fun t => t.line ≤ cursor).getLast? :=
    Detection.nearest_eq_getLast? s.lines cursor
  rw [List.filter_map, Function.comp_def, kept, List.getLast?_map, nearest, ← found]
  cases last : s.bareNearest cursor with
  | none => rfl
  | some t =>
    have mem : t ∈ s.bareAll := by
      rw [found] at last
      exact (List.mem_filter.mp (List.mem_of_getLast? last)).1
    obtain ⟨context, here⟩ := resolved t mem
    simp [withContext_of_resolved here, Except.map]

end Source

namespace Session

variable {s : Session} {file tag : String} {lines : Option (List String)}
  {language : Option String} {p : Profile} {buffer : List String}

theorem source_eq_ok
    (tagged : s.languageOf (Path.resolve s.tree.current (.parse file)).text language = .ok tag)
    (known : s.registry.find? tag = some p)
    (read : Source.linesOf s.tree (Path.resolve s.tree.current (.parse file)) lines = .ok buffer) :
    s.source file lines language =
      .ok { file := Path.resolve s.tree.current (.parse file), language := tag, profile := p,
            lines := buffer } := by
  have profile : s.registry.get tag = .ok p := by rw [Registry.get, known]
  rw [languageOf] at tagged
  simp [source, Source.ofFile, tagged, profile, read, bind, Except.bind, pure, Except.pure]

theorem locate_of_source {source : Source} (opened : s.source file lines language = .ok source)
    (cursor : Int) :
    (s.locate file lines cursor language).2 = source.nearest s.registry cursor := by
  rw [locate, opened]

theorem findAll_of_source {source : Source}
    (opened : s.source file lines language = .ok source) :
    (s.findAll file lines language).2 = source.all s.registry := by
  simp only [findAll, opened]
  split <;> rfl

/-- Lookup and listing, of a buffer and of a file. The listing of a buffer has one test for
each line that a pattern matches, and the test that governs a cursor is the last one of the
listing that does not stand below it, wherever the cursor is. In a session the same holds
of tests with their contexts, if the language of the file has a profile, the file can be read
and the contexts can be resolved: then the listing succeeds, and so does each lookup. -/
theorem locate_eq_last_of_findAll :
    (∀ (lines : List String) (patterns : List Pattern) (file : Path) (language : String),
      Detection.IsListing lines patterns file language
        (Detection.all lines patterns file language) ∧
      ∀ cursor : Int, Detection.nearest lines cursor patterns file language =
        ((Detection.all lines patterns file language).filter
          fun t => t.line ≤ cursor).getLast?) ∧
    ∀ (s : Session) (file tag : String) (lines : Option (List String))
      (language : Option String) (p : Profile) (buffer : List String),
      let path := Path.resolve s.tree.current (.parse file)
      s.languageOf path.text language = .ok tag →
      s.registry.find? tag = some p →
      Source.linesOf s.tree path lines = .ok buffer →
      (∀ t ∈ Detection.all buffer p.patterns path tag, ∃ context,
        Detection.resolve Strategy.all s.registry buffer t.line tag (some path) = .ok context) →
      ∃ tests, (s.findAll file lines language).2 = .ok tests ∧
        ∀ cursor : Int, (s.locate file lines cursor language).2 =
          .ok ((tests.filter fun t => t.line ≤ cursor).getLast?) := by
  constructor
  · intro lines patterns file language
    exact ⟨Detection.isListing_all lines patterns file language, fun cursor =>
      Detection.nearest_eq_getLast? lines cursor⟩
  · intro s file tag lines language p buffer path tagged known read resolved
    let source : Source := ⟨path, tag, p, buffer⟩
    have opened : s.source file lines language = .ok source := source_eq_ok tagged known read
    have resolved : ∀ t ∈ source.bareAll, ∃ context,
        source.contextOf s.registry t = .ok context := resolved
    refine ⟨_, (findAll_of_source opened).trans (Source.all_of_resolved resolved), ?_⟩
    intro cursor
    exact (locate_of_source opened cursor).trans (Source.nearest_of_resolved resolved cursor)

/-! A file with two functions of the Go language, in a session that knows that language. -/

def goProfile : Profile := (Profile.ofFields Builtin.go).toOption.getD {}

def goSession : Session where
  world := {
    engine := { config := { languages := [] } }
    registry := ⟨[("go", goProfile)]⟩
    tree := ⟨.directory [], ⟨.slash, ["work"]⟩⟩
    environment := [] }

def goLines : List String :=
  ["package sum", "func TestSum(t *testing.T)", "\x7b\x7d", "func BenchmarkSum(b *testing.B)",
    "\x7b\x7d"]

def goTest (name : String) (line : Int) : TestInfo where
  name := some name
  file := ⟨.slash, ["work", "pkg", "sum_test.go"]⟩
  line := line
  language := "go"
  context := some ⟨"package pkg", 0, true⟩

/-- A cursor between the two functions is governed by the first, one below all lines by the
second, and one above all lines by none. -/
theorem locate_eq_last_go :
    (goSession.findAll "pkg/sum_test.go" (some goLines) (some "go")).2 =
      .ok [goTest "TestSum" 2, goTest "BenchmarkSum" 4] ∧
    (goSession.locate "pkg/sum_test.go" (some goLines) 3 (some "go")).2 =
      .ok (some (goTest "TestSum" 2)) ∧
    (goSession.locate "pkg/sum_test.go" (some goLines) 9 (some "go")).2 =
      .ok (some (goTest "BenchmarkSum" 4)) ∧
    (goSession.locate "pkg/sum_test.go" (some goLines) (-1) (some "go")).2 = .ok none := by
  have known : goSession.registry.find? "go" = some goProfile := by
    simp only [goSession, registry, Registry.find?, List.lookup_cons_self]
  have scope : goProfile.context = some .fileScope := by decide +kernel
  obtain ⟨tests, listed, located⟩ := locate_eq_last_of_findAll.2 goSession "pkg/sum_test.go" "go"
    (some goLines) (some "go") goProfile goLines rfl known rfl (by
      intro t _
      refine ⟨some ⟨"package pkg", 0, true⟩, ?_⟩
      simp only [Detection.resolve, known, scope]
      rfl)
  have found : (goSession.findAll "pkg/sum_test.go" (some goLines) (some "go")).2.toOption =
      some [goTest "TestSum" 2, goTest "BenchmarkSum" 4] := by decide +kernel
  obtain rfl : tests = _ := Option.some.inj ((congrArg Except.toOption listed).symm.trans found)
  exact ⟨listed, located 3, located 9, located (-1)⟩

end Session

end Proctor
