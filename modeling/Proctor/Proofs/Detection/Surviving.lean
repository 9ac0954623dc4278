import Proctor.Proofs.Detection.SuitePath

/-!
# The suites that survive

In any buffer, well nested or not, the suites around a line can be read off the openers above
it: those that every later opener is indented more than. The numbers of their lines put the
openers in order, and what stands between them plays no part.
-/

namespace Proctor.Detection

/-- A line that opens a scope. Lines count from one. -/
structure Opener where
  line : Nat
  scope : Scope
  deriving DecidableEq, Repr

variable (patterns : List Pattern)

/-- The openers among some lines, where the first line has the given number. -/
def openersFrom (start : Nat) (lines : List String) : List Opener :=
  (lines.zipIdx start).filterMap fun (text, line) => (openedBy patterns text).map (Opener.mk line)

/-- The openers above a line. -/
def openersAbove (lines : List String) (line : Int) : List Opener :=
  (openersFrom patterns 1 lines).filter fun o => (o.line : Int) < line

/-- The openers that every later one is indented more than. -/
def survivors (openers : List Opener) : List Opener :=
  openers.filter fun i => ∀ j ∈ openers, i.line < j.line → i.scope.indent < j.scope.indent

/-! ## The openers of a buffer -/

@[simp] theorem openersFrom_nil (start : Nat) : openersFrom patterns start [] = [] := rfl

theorem openersFrom_cons (start : Nat) (text : String) (rest : List String) :
    openersFrom patterns start (text :: rest) =
      ((openedBy patterns text).map (Opener.mk start)).toList ++
        openersFrom patterns (start + 1) rest := by
  simp only [openersFrom, List.zipIdx_cons, List.filterMap_cons]
  cases openedBy patterns text <;> rfl

theorem map_scope_openersFrom (start : Nat) (lines : List String) :
    (openersFrom patterns start lines).map (·.scope) = lines.filterMap (openedBy patterns) := by
  induction lines generalizing start with
  | nil => rfl
  | cons text rest ih =>
    rw [openersFrom_cons, List.map_append, ih, List.filterMap_cons]
    cases openedBy patterns text <;> rfl

theorem le_line_of_mem_openersFrom {start : Nat} {lines : List String} {o : Opener}
    (mem : o ∈ openersFrom patterns start lines) : start ≤ o.line := by
  rw [openersFrom, List.mem_filterMap] at mem
  obtain ⟨⟨text, line⟩, found, opened⟩ := mem
  obtain ⟨s, -, rfl⟩ := Option.map_eq_some_iff.mp opened
  exact List.le_snd_of_mem_zipIdx found

theorem pairwise_openersFrom (start : Nat) (lines : List String) :
    (openersFrom patterns start lines).Pairwise (·.line < ·.line) := by
  induction lines generalizing start with
  | nil => exact .nil
  | cons text rest ih =>
    rw [openersFrom_cons, List.pairwise_append]
    refine ⟨?_, ih (start + 1), ?_⟩
    · cases openedBy patterns text <;> simp
    · intro i first j later
      rw [Option.mem_toList, Option.map_eq_some_iff] at first
      obtain ⟨s, -, rfl⟩ := first
      exact le_line_of_mem_openersFrom patterns later

/-- The openers above a line are those of the lines before it. -/
theorem filter_openersFrom (start count : Nat) (lines : List String) :
    (openersFrom patterns start lines).filter (fun o => o.line < start + count) =
      openersFrom patterns start (lines.take count) := by
  induction lines generalizing start count with
  | nil => rw [List.take_nil]; rfl
  | cons text rest ih =>
    cases count with
    | zero =>
      rw [List.take_zero, openersFrom_nil, List.filter_eq_nil_iff]
      intro o mem
      have here := le_line_of_mem_openersFrom patterns mem
      simpa using here
    | succ count =>
      have shifted : start + (count + 1) = start + 1 + count := by omega
      rw [List.take_succ_cons, openersFrom_cons, openersFrom_cons, List.filter_append, shifted,
        ih]
      cases openedBy patterns text with
      | none => rfl
      | some s =>
        have first : start < start + 1 + count := by omega
        simp [first]

theorem openersAbove_eq (lines : List String) (line : Int) :
    openersAbove patterns lines line = openersFrom patterns 1 (linesBefore lines line) := by
  rw [linesBefore, ← filter_openersFrom, openersAbove]
  apply List.filter_congr
  intro o mem
  have positive : 1 ≤ o.line := le_line_of_mem_openersFrom patterns mem
  rw [decide_eq_decide]
  omega

/-! ## The last to be indented as little -/

theorem survivors_cons {o : Opener} {later : List Opener} (first : ∀ j ∈ later, o.line < j.line) :
    survivors (o :: later) =
      if ∀ j ∈ later, o.scope.indent < j.scope.indent then o :: survivors later
      else survivors later := by
  have rest : later.filter (fun i => ∀ j ∈ o :: later, i.line < j.line →
      i.scope.indent < j.scope.indent) = survivors later := by
    apply List.filter_congr
    intro i mem
    have above := first i mem
    rw [decide_eq_decide, List.forall_mem_cons]
    constructor
    · exact fun all => all.2
    · intro all
      exact ⟨fun below => by omega, all⟩
  have head : (∀ j ∈ o :: later, o.line < j.line → o.scope.indent < j.scope.indent) ↔
      ∀ j ∈ later, o.scope.indent < j.scope.indent := by
    rw [List.forall_mem_cons]
    constructor
    · exact fun all j mem => all.2 j mem (first j mem)
    · intro all
      exact ⟨fun below => by omega, fun j mem _ => all j mem⟩
  rw [survivors, List.filter_cons, rest]
  simp only [head, decide_eq_true_eq]

/-- The scopes that survive are those that last. -/
theorem map_scope_survivors {openers : List Opener} (ordered : openers.Pairwise (·.line < ·.line)) :
    (survivors openers).map (·.scope) = lasting (openers.map (·.scope)) := by
  induction openers with
  | nil => rfl
  | cons o later ih =>
    obtain ⟨first, ordered⟩ := List.pairwise_cons.mp ordered
    have deeper : (∀ j ∈ later, o.scope.indent < j.scope.indent) ↔
        (later.map (·.scope)).all fun t => o.scope.indent < t.indent := by
      simp
    rw [survivors_cons first, List.map_cons, lasting]
    simp only [deeper]
    split
    · rw [List.map_cons, ih ordered]
    · exact ih ordered

/-- The last of all scopes lasts. -/
theorem lasting_eq_nil_iff {scopes : List Scope} : lasting scopes = [] ↔ scopes = [] := by
  cases scopes using List.reverseRecOn with
  | nil => rfl
  | append_singleton above s => rw [lasting_append_singleton]; simp

theorem survivors_eq_nil_iff {openers : List Opener}
    (ordered : openers.Pairwise (·.line < ·.line)) : survivors openers = [] ↔ openers = [] := by
  rw [← List.map_eq_nil_iff, map_scope_survivors ordered, lasting_eq_nil_iff, List.map_eq_nil_iff]

theorem pairwise_openersAbove (lines : List String) (line : Int) :
    (openersAbove patterns lines line).Pairwise (·.line < ·.line) :=
  (pairwise_openersFrom patterns 1 lines).filter _

/-- The survivors above a line are the scopes that are open there. -/
theorem map_scope_survivors_openersAbove (lines : List String) (line : Int) :
    (survivors (openersAbove patterns lines line)).map (·.scope) =
      (openAfter false patterns (linesBefore lines line)).reverse := by
  rw [map_scope_survivors (pairwise_openersAbove patterns lines line), openersAbove_eq,
    map_scope_openersFrom, openAfter_eq_lasting, List.reverse_reverse]

/-! ## The suites around a line -/

/-- A separator that is given and not empty is used. -/
theorem separatorOr_eq {p : Profile} {given : Option String}
    (separated : p.separator = given.elim .null .text) (default : String) :
    p.separatorOr default = .text ((given.filter (· ≠ "")).getD default) := by
  rw [Profile.separatorOr, separated]
  cases given with
  | none => rfl
  | some s => by_cases empty : s = "" <;> simp [Value.isSet, Option.filter, empty]

/-- What `indentStack` says about a line depends on the openers above it alone: nothing
without any, and else the names of those that every later one is indented more than. -/
theorem enclosing_indentStack {p : Profile} {given : Option String} {lines : List String}
    {line : Int} (separated : p.separator = given.elim .null .text)
    (named : ∀ o ∈ openersAbove p.scopePatterns lines line, o.scope.name ≠ "")
    (file : Option Path) :
    let openers := openersAbove p.scopePatterns lines line
    let separator := (given.filter (· ≠ "")).getD " > "
    (openers ≠ [] → survivors openers ≠ []) ∧
      enclosing .indentStack lines line p file = .ok (
        if openers = [] then none
        else some {
          describe := separator.intercalate ((survivors openers).map (·.scope.name))
          level := (survivors openers).length - 1
          fileScope := false }) := by
  intro openers separator
  have ordered : openers.Pairwise (·.line < ·.line) := pairwise_openersAbove _ lines line
  have opened : openAfter false p.scopePatterns (linesBefore lines line) =
      ((survivors openers).map (·.scope)).reverse := by
    simp only [openers, map_scope_survivors_openersAbove, List.reverse_reverse]
  have names : ∀ s ∈ (survivors openers).map (·.scope), s.name ≠ "" := by
    intro s mem
    obtain ⟨o, survives, rfl⟩ := List.mem_map.mp mem
    exact named o (List.mem_filter.mp survives).1
  refine ⟨fun some_ => (survivors_eq_nil_iff ordered).not.mpr some_, ?_⟩
  rw [enclosing, suites_eq opened names (separatorOr_eq separated " > "), pathContext,
    List.map_map, List.length_map]
  simp only [List.map_eq_nil_iff, survivors_eq_nil_iff ordered]
  rfl

/-! Suites indented by six, three and five blanks, one after another. -/

def jaggedProfile : Profile where
  scopePatterns := (Pattern.compile "suite ([a-z]+)").toOption.toList
  context := some .indentStack

def jaggedLines : List String :=
  ["suite a", "      suite b", "   suite c", "     suite d", " a test", "   suite e",
    "            a test"]

/-- The suites at six and at five blanks go with those at three, the first of which goes with
the second. -/
theorem enclosing_indentStack_jagged :
    enclosing .indentStack jaggedLines 5 jaggedProfile none =
        .ok (some ⟨"a > c > d", 2, false⟩) ∧
      enclosing .indentStack jaggedLines 7 jaggedProfile none = .ok (some ⟨"a > e", 1, false⟩) := by
  have separated : jaggedProfile.separator = (none : Option String).elim .null .text := rfl
  have four : openersAbove jaggedProfile.scopePatterns jaggedLines 5 =
      [⟨1, ⟨"a", 0⟩⟩, ⟨2, ⟨"b", 6⟩⟩, ⟨3, ⟨"c", 3⟩⟩, ⟨4, ⟨"d", 5⟩⟩] := by
    decide +kernel
  have five : openersAbove jaggedProfile.scopePatterns jaggedLines 7 =
      [⟨1, ⟨"a", 0⟩⟩, ⟨2, ⟨"b", 6⟩⟩, ⟨3, ⟨"c", 3⟩⟩, ⟨4, ⟨"d", 5⟩⟩, ⟨6, ⟨"e", 3⟩⟩] := by
    decide +kernel
  have inner := (enclosing_indentStack separated (by rw [four]; decide) none).2
  have outer := (enclosing_indentStack separated (by rw [five]; decide) none).2
  rw [four] at inner
  rw [five] at outer
  exact ⟨inner.trans rfl, outer.trans rfl⟩

end Proctor.Detection
