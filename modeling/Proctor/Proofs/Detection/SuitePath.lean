import Proctor.Builtin
import Proctor.Proofs.Detection.Nest

/-!
# Paths of suites

Suites are told apart by their indentation alone: a suite stays open until another one opens
that is indented no more. Nothing looks at the lines that close suites, nor at the
indentation of the line a context is asked for.

The suites around a line are always among those that are open above it. They are all of them
exactly if each suite that has ended is followed, above the line, by an opener that is
indented no more than its own; below a suite that has just ended, its name is still there.
-/

namespace Proctor.Detection

variable {patterns : List Pattern}

namespace Nest

/-- All lines of a block are indented more than its opener, and the line that closes it is
indented as much. -/
inductive Indented : Nest → Prop
  | nil : Indented .nil
  | plain {line rest} : Indented rest → Indented (.plain line rest)
  | block {opener name body closer rest} :
      (∀ line ∈ body.lines, indentOf opener < indentOf line) → Indented body →
        indentOf closer = indentOf opener → Indented rest →
          Indented (.block opener name body closer rest)

/-- Each scope has the indentation of some line. -/
theorem exists_line_of_mem_scopes {nest : Nest} {s : Scope} (mem : s ∈ nest.scopes) :
    ∃ line ∈ nest.lines, indentOf line = s.indent := by
  induction nest with
  | nil => exact absurd mem List.not_mem_nil
  | plain line rest ih =>
    obtain ⟨other, there, same⟩ := ih mem
    exact ⟨other, List.mem_cons_of_mem _ there, same⟩
  | block opener name body closer rest inner later =>
    obtain rfl | mem := List.mem_cons.mp mem
    · exact ⟨opener, List.mem_cons_self, rfl⟩
    obtain inside | after := List.mem_append.mp mem
    · obtain ⟨line, there, same⟩ := inner inside
      exact ⟨line, by simp [lines, there], same⟩
    · obtain ⟨line, there, same⟩ := later after
      exact ⟨line, by simp [lines, there], same⟩

theorem CapturedBy.filterMap_lines {nest : Nest} (captured : nest.CapturedBy patterns)
    (missed : nest.ClosersMissed patterns) :
    nest.lines.filterMap (openedBy patterns) = nest.scopes := by
  induction captured with
  | nil => rfl
  | plain plain _ ih =>
    rw [lines, List.filterMap_cons_none (openedBy_of_missed plain)]
    exact ih missed
  | block opened _ _ _ inner later =>
    obtain ⟨inside, here, after⟩ := missed.block
    rw [lines, List.filterMap_cons_some (openedBy_of_captured opened), List.filterMap_append,
      inner inside, List.filterMap_cons_none (openedBy_of_missed here), later after, scopes]

/-- The scopes that the lines above a plain line open are those of the blocks above it. -/
theorem At.filterMap_above {nest : Nest} {above : List String} {marks : List Mark}
    (at_ : nest.At above marks) (captured : nest.CapturedBy patterns)
    (missed : nest.ClosersMissed patterns) :
    above.filterMap (openedBy patterns) = marks.map (·.scope) := by
  induction at_ with
  | here => rfl
  | afterPlain _ ih =>
    obtain _ | ⟨plain, captured⟩ := captured
    rw [List.filterMap_cons_none (openedBy_of_missed plain)]
    exact ih captured missed
  | inside _ ih =>
    obtain _ | _ | ⟨opened, -, captured, -⟩ := captured
    rw [List.filterMap_cons_some (openedBy_of_captured opened), ih captured missed.block.1]
    rfl
  | @afterBlock _ _ body _ _ _ _ _ ih =>
    obtain _ | _ | ⟨opened, -, inside, after⟩ := captured
    obtain ⟨missedInside, missedHere, missedAfter⟩ := missed.block
    rw [List.filterMap_cons_some (openedBy_of_captured opened), List.filterMap_append,
      inside.filterMap_lines missedInside,
      List.filterMap_cons_none (openedBy_of_missed missedHere), ih after missedAfter]
    simp [Function.comp_def]

/-- What has been opened in a block that is still open is indented more than its opener. -/
theorem At.pairwise {nest : Nest} {above : List String} {marks : List Mark}
    (at_ : nest.At above marks) (indented : nest.Indented) :
    marks.Pairwise fun m n => m.isOpen → m.scope.indent < n.scope.indent := by
  induction at_ with
  | here => exact .nil
  | afterPlain _ ih =>
    obtain _ | ⟨indented⟩ := indented
    exact ih indented
  | inside at_ ih =>
    obtain _ | _ | ⟨deeper, indented, -, -⟩ := indented
    refine .cons ?_ (ih indented)
    intro m mem _
    have found : m.scope ∈ Nest.scopes _ := at_.isPrefix.subset (List.mem_map_of_mem mem)
    obtain ⟨line, there, same⟩ := exists_line_of_mem_scopes found
    rw [← same]
    exact deeper line there
  | afterBlock _ ih =>
    obtain _ | _ | ⟨-, -, -, after⟩ := indented
    refine .cons (fun _ _ shut => by cases shut) ?_
    refine List.pairwise_append.mpr ⟨?_, ih after, ?_⟩
    · refine List.pairwise_map.mpr (List.pairwise_of_forall ?_)
      intro _ _ shut
      cases shut
    · intro m mem _ _ shut
      obtain ⟨_, -, rfl⟩ := List.mem_map.mp mem
      cases shut

end Nest

/-! ## The suites that are still open -/

/-- Each block that has ended is followed by an opener that is indented no more than its
own. -/
def Outlived : List Mark → Prop
  | [] => True
  | m :: later =>
    (m.isOpen ∨ ∃ n ∈ later, n.scope.indent ≤ m.scope.indent) ∧ Outlived later

theorem openScopes_cons_of_open {m : Mark} (isOpen : m.isOpen = true) (later : List Mark) :
    openScopes (m :: later) = m.scope :: openScopes later := by
  simp [openScopes, isOpen]

theorem openScopes_cons_of_ended {m : Mark} (ended : m.isOpen = false) (later : List Mark) :
    openScopes (m :: later) = openScopes later := by
  simp [openScopes, ended]

theorem all_deeper_iff {s : Scope} {later : List Mark} :
    ((later.map (·.scope)).all fun t => s.indent < t.indent) ↔
      ¬ ∃ n ∈ later, n.scope.indent ≤ s.indent := by
  simp

section

variable {marks : List Mark}
  (deeper : marks.Pairwise fun m n => m.isOpen → m.scope.indent < n.scope.indent)

include deeper

/-- The suites around a line are among those that last. -/
theorem openScopes_sublist_lasting :
    (openScopes marks).Sublist (lasting (marks.map (·.scope))) := by
  induction marks with
  | nil => exact .slnil
  | cons m later ih =>
    obtain ⟨below, deeper⟩ := List.pairwise_cons.mp deeper
    rw [List.map_cons, lasting]
    cases isOpen : m.isOpen with
    | true =>
      have lasts : (later.map (·.scope)).all fun t => m.scope.indent < t.indent := by
        rw [all_deeper_iff]
        rintro ⟨n, mem, shallow⟩
        have := below n mem isOpen
        omega
      rw [if_pos lasts, openScopes_cons_of_open isOpen]
      exact (ih deeper).cons_cons _
    | false =>
      rw [openScopes_cons_of_ended isOpen]
      split
      · exact (ih deeper).cons _
      · exact ih deeper

/-- They are all that last exactly if each suite that has ended is outlived. -/
theorem lasting_eq_openScopes_iff :
    lasting (marks.map (·.scope)) = openScopes marks ↔ Outlived marks := by
  induction marks with
  | nil => exact iff_of_true rfl trivial
  | cons m later ih =>
    obtain ⟨below, deeper⟩ := List.pairwise_cons.mp deeper
    rw [List.map_cons, lasting, Outlived, ← ih deeper]
    by_cases lasts : (later.map (·.scope)).all fun t => m.scope.indent < t.indent
    · have alone := all_deeper_iff.mp lasts
      rw [if_pos lasts]
      cases isOpen : m.isOpen with
      | true => simp [openScopes_cons_of_open isOpen]
      | false =>
        -- The suite has ended and lasts: one scope more is open than should be.
        rw [openScopes_cons_of_ended isOpen]
        have fewer := (openScopes_sublist_lasting deeper).length_le
        constructor
        · intro same
          have := congrArg List.length same
          rw [List.length_cons] at this
          omega
        · rintro ⟨shut | outlived, -⟩
          · cases shut
          · exact absurd outlived alone
    · have outlived : ∃ n ∈ later, n.scope.indent ≤ m.scope.indent :=
        not_not.mp (mt all_deeper_iff.mpr lasts)
      rw [if_neg lasts]
      cases isOpen : m.isOpen with
      | true =>
        obtain ⟨n, mem, shallow⟩ := outlived
        have := below n mem isOpen
        omega
      | false => simp [openScopes_cons_of_ended isOpen, outlived]

end

/-- A context tells how many scopes it has been made of. -/
theorem pathContext_inj {separator : String} {scopes part : List Scope}
    (sublist : part.Sublist scopes) :
    pathContext separator scopes = pathContext separator part ↔ scopes = part := by
  constructor
  · intro same
    refine (sublist.eq_of_length ?_).symm
    cases scopes with
    | nil => rw [List.sublist_nil.mp sublist]
    | cons s scopes =>
      cases part with
      | nil => simp [pathContext] at same
      | cons t part =>
        simp only [pathContext, reduceCtorEq, if_false, Option.some.injEq, Context.mk.injEq,
          List.length_cons, Nat.add_sub_cancel] at same
        rw [List.length_cons, List.length_cons, same.2.1]
  · intro same
    rw [same]

/-! ## The path -/

theorem suites_eq {lines : List String} {line : Int} {p : Profile} {scopes : List Scope}
    {separator : String}
    (opened : openAfter false p.scopePatterns (linesBefore lines line) = scopes.reverse)
    (named : ∀ s ∈ scopes, s.name ≠ "") (separated : p.separatorOr " > " = .text separator) :
    suites lines line p = .ok (pathContext separator scopes) := by
  unfold suites
  rw [opened]
  cases same : scopes.reverse with
  | nil =>
    rw [List.reverse_eq_nil_iff] at same
    rw [same]
    rfl
  | cons s outer =>
    have occupied : scopes.reverse ≠ [] := by simp [same]
    have joined := contextOf_eq separator occupied fun t mem =>
      named t (List.mem_reverse.mp mem)
    rw [List.reverse_reverse, same, ← separated] at joined
    exact joined

/-- In a buffer of suites the context of a plain line is made of all suites that have been
opened above it and not been followed there by an opener that is indented as little. It names
exactly the suites around the line, outermost first, if and only if each suite that has ended
above the line is outlived there. -/
theorem resolve_suites_iff {registry : Registry} {p : Profile} {language separator : String}
    {file : Option Path} {nest : Nest} {above : List String} {marks : List Mark}
    (known : registry.find? language = some p) (strategy : p.context = some .indentStack)
    (separated : p.separatorOr " > " = .text separator)
    (captured : nest.CapturedBy p.scopePatterns) (indented : nest.Indented)
    (missed : nest.ClosersMissed p.scopePatterns) (at_ : nest.At above marks) :
    let context := resolve Strategy.all registry nest.lines (above.length + 1 : Nat) language file
    context = .ok (pathContext separator (lasting (marks.map (·.scope)))) ∧
      (context = .ok (pathContext separator (openScopes marks)) ↔ Outlived marks) := by
  intro context
  have opened : openAfter false p.scopePatterns (linesBefore nest.lines (above.length + 1 : Nat)) =
      (lasting (marks.map (·.scope))).reverse := by
    rw [at_.linesBefore, openAfter_eq_lasting, at_.filterMap_above captured missed]
  have named : ∀ s ∈ lasting (marks.map (·.scope)), s.name ≠ "" := by
    intro s mem
    exact at_.name_ne_empty captured s ((lasting_sublist _).subset mem)
  have resolved : context = .ok (pathContext separator (lasting (marks.map (·.scope)))) := by
    simp only [context]
    rw [resolve_eq_enclosing known strategy, enclosing, suites_eq opened named separated]
  have deeper := at_.pairwise indented
  refine ⟨resolved, ?_⟩
  rw [resolved, Except.ok.injEq, pathContext_inj (openScopes_sublist_lasting deeper),
    lasting_eq_openScopes_iff deeper]

/-! A file with two suites in a suite, with a test in each of them and one below each end. -/

def specProfile : Profile where
  scopePatterns := (Builtin.scriptScopes.mapM Pattern.compile).toOption.getD []
  context := some .indentStack
  separator := .text " > "

def specRegistry : Registry := ⟨[("javascript", specProfile)]⟩

def specNest : Nest :=
  .block "describe('outer', () => \x7b" "outer"
    (.block "  describe('inner', () => \x7b" "inner"
      (.plain "    it('works', () => \x7b\x7d);" .nil)
      "  \x7d);"
      (.block "  describe('sibling', () => \x7b" "sibling"
        (.plain "    it('also works', () => \x7b\x7d);" .nil)
        "  \x7d);"
        (.plain "  it('comes late', () => \x7b\x7d);" .nil)))
    "\x7d);"
    (.plain "it('is alone', () => \x7b\x7d);" .nil)

/-- The second of the inner suites outlives the first. -/
theorem resolve_suites_spec :
    resolve Strategy.all specRegistry specNest.lines 3 "javascript" none =
      .ok (some ⟨"outer > inner", 1, false⟩) ∧
    resolve Strategy.all specRegistry specNest.lines 6 "javascript" none =
      .ok (some ⟨"outer > sibling", 1, false⟩) := by
  have known : specRegistry.find? "javascript" = some specProfile := by
    simp only [specRegistry, Registry.find?, List.lookup_cons_self]
  have strategy : specProfile.context = some .indentStack := rfl
  have separated : specProfile.separatorOr " > " = .text " > " :=
    Value.eq_text_of_asText? (by decide +kernel)
  have found : specNest.lines.map (firstCapture specProfile.scopePatterns) =
      [some "outer", some "inner", none, none, some "sibling", none, none, none, none, none] := by
    decide +kernel
  simp only [specNest, Nest.lines, List.cons_append, List.nil_append, List.map_cons,
    List.map_nil, List.cons.injEq, and_true] at found
  obtain ⟨outerName, innerName, works, innerEnd, siblingName, alsoWorks, -, late, outerEnd,
    alone⟩ := found
  have captured : specNest.CapturedBy specProfile.scopePatterns :=
    .block outerName (by decide)
      (.block innerName (by decide) (.plain works .nil)
        (.block siblingName (by decide) (.plain alsoWorks .nil) (.plain late .nil)))
      (.plain alone .nil)
  have missed : specNest.ClosersMissed specProfile.scopePatterns := by
    simp [Nest.ClosersMissed, specNest, Nest.closers, innerEnd, outerEnd]
  have indented : specNest.Indented :=
    .block (by decide +kernel)
      (.block (by decide +kernel) (.plain .nil) (by decide +kernel)
        (.block (by decide +kernel) (.plain .nil) (by decide +kernel) (.plain .nil)))
      (by decide +kernel) (.plain .nil)
  have path (above : List String) (marks : List Mark) (context : Option Context)
      (at_ : specNest.At above marks) (outlived : Outlived marks)
      (named : pathContext " > " (openScopes marks) = context) :
      resolve Strategy.all specRegistry specNest.lines (above.length + 1 : Nat) "javascript"
        none = .ok context := by
    rw [← named]
    exact (resolve_suites_iff known strategy separated captured indented missed at_).2.mpr outlived
  have inner := path _ _ (some ⟨"outer > inner", 1, false⟩) (.inside (.inside .here))
    ⟨.inl rfl, .inl rfl, trivial⟩ (by decide +kernel)
  have sibling := path _ _ (some ⟨"outer > sibling", 1, false⟩)
    (.inside (.afterBlock (.inside .here)))
    ⟨.inl rfl, .inr ⟨_, List.mem_cons_self, by decide +kernel⟩, .inl rfl, trivial⟩
    (by decide +kernel)
  exact ⟨inner, sibling⟩

/-- Below the end of a suite its name is still there, also at the left margin, where no suite
is around. -/
theorem ended_suite_stays :
    let context (line : Int) :=
      (resolve Strategy.all specRegistry specNest.lines line "javascript" none).toOption
    specNest.At (specNest.lines.take 7)
        [⟨⟨"outer", 0⟩, true⟩, ⟨⟨"inner", 2⟩, false⟩, ⟨⟨"sibling", 2⟩, false⟩] ∧
      specNest.At (specNest.lines.take 9)
        [⟨⟨"outer", 0⟩, false⟩, ⟨⟨"inner", 2⟩, false⟩, ⟨⟨"sibling", 2⟩, false⟩] ∧
      context 8 = some (some ⟨"outer > sibling", 1, false⟩) ∧
      context 10 = some (some ⟨"outer > sibling", 1, false⟩) := by
  intro context
  exact ⟨.inside (.afterBlock (.afterBlock .here)), .afterBlock .here, by decide +kernel⟩

end Proctor.Detection
