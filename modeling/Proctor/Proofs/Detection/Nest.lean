import Mathlib.Data.List.Induction
import Proctor.Detection.Resolver

/-!
# Nested blocks

A buffer of blocks, and what a reader sees from one of its lines: which openers stand above
the line, and which of these opened a block that is still open there. The lines are read
without the blocks in mind, so what a context has to be is said by the blocks alone.

Without closing braces the scopes that are open after some lines are those that no later one
is indented as little as. With or without them, what is open has been opened by the lines, in
their order. Both hold of every buffer, whatever its blocks are.
-/

namespace Proctor

namespace Detection

/-- A buffer as a sequence of plain lines and of blocks, each between a line that opens it
and a line that closes it. -/
inductive Nest where
  | nil
  | plain (line : String) (rest : Nest)
  | block (opener name : String) (body : Nest) (closer : String) (rest : Nest)

/-- The opener of a block above some line, and whether the line stands in the block. -/
structure Mark where
  scope : Scope
  isOpen : Bool

namespace Nest

/-- The lines of the buffer. -/
def lines : Nest → List String
  | nil => []
  | plain line rest => line :: rest.lines
  | block opener _ body closer rest => opener :: (body.lines ++ closer :: rest.lines)

/-- The lines that close blocks. -/
def closers : Nest → List String
  | nil => []
  | plain _ rest => rest.closers
  | block _ _ body closer rest => body.closers ++ closer :: rest.closers

/-- The scopes of all blocks, in the order of their openers. -/
def scopes : Nest → List Scope
  | nil => []
  | plain _ rest => rest.scopes
  | block opener name body _ rest => ⟨name, indentOf opener⟩ :: (body.scopes ++ rest.scopes)

/-- Below the given lines of the buffer there is a plain line, and these openers stand above
it. -/
inductive At : Nest → List String → List Mark → Prop
  | here {line rest} : At (.plain line rest) [] []
  | afterPlain {line rest above marks} :
      At rest above marks → At (.plain line rest) (line :: above) marks
  | inside {opener name body closer rest above marks} :
      At body above marks →
        At (.block opener name body closer rest) (opener :: above)
          (⟨⟨name, indentOf opener⟩, true⟩ :: marks)
  | afterBlock {opener name body closer rest above marks} :
      At rest above marks →
        At (.block opener name body closer rest) (opener :: (body.lines ++ closer :: above))
          (⟨⟨name, indentOf opener⟩, false⟩ :: (body.scopes.map (⟨·, false⟩) ++ marks))

/-- The given lines are indeed the beginning of the buffer, and one more line follows. -/
theorem At.lines_eq {nest : Nest} {above : List String} {marks : List Mark}
    (at_ : nest.At above marks) : ∃ line below, nest.lines = above ++ line :: below := by
  induction at_ with
  | @here line rest => exact ⟨line, rest.lines, rfl⟩
  | afterPlain _ ih =>
    obtain ⟨line, below, same⟩ := ih
    exact ⟨line, below, by simp [lines, same]⟩
  | @inside _ _ _ closer rest _ _ _ ih =>
    obtain ⟨line, below, same⟩ := ih
    exact ⟨line, below ++ closer :: rest.lines, by simp [lines, same]⟩
  | afterBlock _ ih =>
    obtain ⟨line, below, same⟩ := ih
    exact ⟨line, below, by simp [lines, same]⟩

theorem At.linesBefore {nest : Nest} {above : List String} {marks : List Mark}
    (at_ : nest.At above marks) :
    linesBefore nest.lines (above.length + 1 : Nat) = above := by
  obtain ⟨line, below, same⟩ := at_.lines_eq
  have count : ((above.length + 1 : Nat) - 1 : Int).toNat = above.length := by omega
  rw [Detection.linesBefore, count, same, List.take_left]

end Nest

/-- The scopes of the blocks that are open, outermost first. -/
def openScopes (marks : List Mark) : List Scope :=
  (marks.filter (·.isOpen)).map (·.scope)

/-- The names of scopes, put together into a context if there are any. -/
def pathContext (separator : String) (scopes : List Scope) : Option Context :=
  if scopes = [] then none
  else some ⟨separator.intercalate (scopes.map (·.name)), scopes.length - 1, false⟩

/-! ## Joining names -/

theorem intercalate_ne_empty {separator name : String} {names : List String}
    (named : name ≠ "") : separator.intercalate (name :: names) ≠ "" := by
  cases names with
  | nil => rwa [String.intercalate_singleton]
  | cons other names =>
    rw [String.intercalate_cons_cons]
    simp [named]

theorem contextOf_eq (separator : String) {stack : List Scope} (occupied : stack ≠ [])
    (named : ∀ s ∈ stack, s.name ≠ "") :
    (contextOf (.text separator) stack).map some =
      .ok (pathContext separator stack.reverse) := by
  obtain ⟨s, outer, same⟩ : ∃ s outer, stack.reverse = s :: outer :=
    List.exists_cons_of_ne_nil (List.reverse_ne_nil_iff.mpr occupied)
  have first : s.name ≠ "" := by
    apply named s
    rw [← List.mem_reverse, same]
    exact List.mem_cons_self
  have size : stack.length = outer.length + 1 := by
    rw [← List.length_reverse, same, List.length_cons]
  have joined : (separator.intercalate (s.name :: outer.map (·.name))).isEmpty = false := by
    simpa using intercalate_ne_empty first
  simp only [contextOf, pathContext, same, List.map_cons, Context.make, joined, size]
  rfl

/-- A registry and a resolver that knows all strategies look a context up by the strategy of
the profile. -/
theorem resolve_eq_enclosing {registry : Registry} {p : Profile} {language : String}
    {s : Strategy} (known : registry.find? language = some p) (strategy : p.context = some s)
    (lines : List String) (line : Int) (file : Option Path) :
    resolve Strategy.all registry lines line language file = enclosing s lines line p file := by
  have all : Strategy.all.contains s := by cases s <;> rfl
  simp only [resolve, known, strategy, all, if_true]

/-! ## What patterns capture -/

variable {patterns : List Pattern}

theorem openedBy_of_captured {line name : String}
    (captured : firstCapture patterns line = some name) :
    openedBy patterns line = some ⟨name, indentOf line⟩ := by
  rw [openedBy, captured, Option.map_some]

theorem openedBy_of_missed {line : String} (missed : firstCapture patterns line = none) :
    openedBy patterns line = none := by
  rw [openedBy, missed, Option.map_none]

namespace Nest

/-- The patterns capture the names of the blocks in their openers, no name is empty, and
nothing is captured in a plain line. Of the lines that close blocks nothing is said. -/
inductive CapturedBy (patterns : List Pattern) : Nest → Prop
  | nil : CapturedBy patterns .nil
  | plain {line rest} :
      firstCapture patterns line = none → CapturedBy patterns rest →
        CapturedBy patterns (.plain line rest)
  | block {opener name body closer rest} :
      firstCapture patterns opener = some name → name ≠ "" → CapturedBy patterns body →
        CapturedBy patterns rest → CapturedBy patterns (.block opener name body closer rest)

/-- Nothing is captured in a line that closes a block. -/
def ClosersMissed (patterns : List Pattern) (nest : Nest) : Prop :=
  ∀ closer ∈ nest.closers, firstCapture patterns closer = none

theorem ClosersMissed.block {opener name closer : String} {body rest : Nest}
    (missed : (Nest.block opener name body closer rest).ClosersMissed patterns) :
    body.ClosersMissed patterns ∧ firstCapture patterns closer = none ∧
      rest.ClosersMissed patterns := by
  simpa [ClosersMissed, closers, or_imp, forall_and] using missed

theorem CapturedBy.name_ne_empty {nest : Nest} (captured : nest.CapturedBy patterns) :
    ∀ s ∈ nest.scopes, s.name ≠ "" := by
  induction captured with
  | nil => exact List.forall_mem_nil _
  | plain _ _ ih => exact ih
  | block _ named _ _ inner later =>
    intro s mem
    obtain rfl | mem := List.mem_cons.mp mem
    · exact named
    · exact (List.mem_append.mp mem).elim (inner s) (later s)

/-- The openers above a line are the first of all. -/
theorem At.isPrefix {nest : Nest} {above : List String} {marks : List Mark}
    (at_ : nest.At above marks) : marks.map (·.scope) <+: nest.scopes := by
  induction at_ with
  | here => exact List.nil_prefix
  | afterPlain _ ih => exact ih
  | inside _ ih =>
    exact List.cons_prefix_cons.mpr ⟨rfl, ih.trans (List.prefix_append _ _)⟩
  | @afterBlock _ _ body _ _ _ _ _ ih =>
    have whole : (body.scopes.map fun s => (⟨s, false⟩ : Mark)).map (·.scope) = body.scopes := by
      rw [List.map_map]
      exact List.map_id _
    rw [List.map_cons, List.map_append, whole]
    exact List.cons_prefix_cons.mpr ⟨rfl, (List.prefix_append_right_inj _).mpr ih⟩

/-- All scopes that have been opened above a line have a name. -/
theorem At.name_ne_empty {nest : Nest} {above : List String} {marks : List Mark}
    (at_ : nest.At above marks) (captured : nest.CapturedBy patterns) :
    ∀ s ∈ marks.map (·.scope), s.name ≠ "" :=
  fun s mem => captured.name_ne_empty s (at_.isPrefix.subset mem)

end Nest

theorem openScopes_sublist (marks : List Mark) :
    (openScopes marks).Sublist (marks.map (·.scope)) :=
  List.filter_sublist.map _

/-! ## The scopes that last -/

/-- The scopes that no later one is indented as little as. -/
def lasting : List Scope → List Scope
  | [] => []
  | s :: later =>
    if later.all fun t => s.indent < t.indent then s :: lasting later else lasting later

theorem lasting_sublist (scopes : List Scope) : (lasting scopes).Sublist scopes := by
  induction scopes with
  | nil => exact .slnil
  | cons s later ih =>
    rw [lasting]
    split
    · exact ih.cons_cons s
    · exact ih.cons s

theorem pairwise_lasting (scopes : List Scope) :
    (lasting scopes).Pairwise (·.indent < ·.indent) := by
  induction scopes with
  | nil => exact .nil
  | cons s later ih =>
    rw [lasting]
    split
    next deeper =>
      refine .cons ?_ ih
      intro t mem
      have found : t ∈ later := (lasting_sublist later).subset mem
      simpa using List.all_eq_true.mp deeper t found
    next => exact ih

theorem lasting_append_singleton (scopes : List Scope) (s : Scope) :
    lasting (scopes ++ [s]) = ((lasting scopes).filter fun t => t.indent < s.indent) ++ [s] := by
  induction scopes with
  | nil => rfl
  | cons t later ih =>
    rw [List.cons_append, lasting, lasting, List.all_append, ih]
    by_cases deeper : later.all fun u => t.indent < u.indent
    · by_cases under : t.indent < s.indent <;> simp [deeper, under]
    · simp [deeper]

/-- Of scopes indented less and less, those that go when another one opens are the first. -/
theorem dropWhile_eq_filter {scopes : List Scope} (falling : scopes.Pairwise (·.indent > ·.indent))
    (n : Nat) :
    scopes.dropWhile (fun t => n ≤ t.indent) = scopes.filter fun t => t.indent < n := by
  induction scopes with
  | nil => rfl
  | cons t outer ih =>
    obtain ⟨less, falling⟩ := List.pairwise_cons.mp falling
    by_cases goes : n ≤ t.indent
    · have stays : ¬ t.indent < n := by omega
      simp [goes, stays, ih falling]
    · have stays : t.indent < n := by omega
      have all : outer.filter (fun u => u.indent < n) = outer := by
        rw [List.filter_eq_self]
        intro u mem
        have := less u mem
        simp only [decide_eq_true_eq]
        omega
      simp [goes, stays, all]

theorem openScope_reverse_lasting (scopes : List Scope) (s : Scope) :
    openScope s (lasting scopes).reverse = (lasting (scopes ++ [s])).reverse := by
  have falling : (lasting scopes).reverse.Pairwise (·.indent > ·.indent) :=
    List.pairwise_reverse.mpr (pairwise_lasting scopes)
  rw [openScope, dropWhile_eq_filter falling, lasting_append_singleton, List.reverse_append,
    List.filter_reverse]
  rfl

theorem openAfter_append_singleton (braces : Bool) (patterns : List Pattern)
    (above : List String) (text : String) :
    openAfter braces patterns (above ++ [text]) =
      afterLine braces patterns (openAfter braces patterns above) text := by
  rw [openAfter, List.foldl_append, ← openAfter, List.foldl_cons, List.foldl_nil]

/-- Where braces close nothing, the scopes that last are open. -/
theorem openAfter_eq_lasting (patterns : List Pattern) (lines : List String) :
    openAfter false patterns lines =
      (lasting (lines.filterMap (openedBy patterns))).reverse := by
  induction lines using List.reverseRecOn with
  | nil => rfl
  | append_singleton above line ih =>
    rw [openAfter_append_singleton, ih, List.filterMap_append, afterLine]
    cases opened : openedBy patterns line with
    | none => simp [opened]
    | some s => simp [opened, openScope_reverse_lasting]

theorem closeScope_sublist (text : String) (stack : List Scope) :
    (closeScope text stack).Sublist stack := by
  cases stack with
  | nil => exact .slnil
  | cons s outer =>
    unfold closeScope
    dsimp only
    split
    · exact List.sublist_cons_self s outer
    · exact .refl _

/-- A line opens no scope but its own. -/
theorem afterLine_sublist_openedBy (braces : Bool) (patterns : List Pattern) (stack : List Scope)
    (text : String) :
    (afterLine braces patterns stack text).Sublist ((openedBy patterns text).toList ++ stack) := by
  rw [afterLine]
  cases openedBy patterns text with
  | some s => exact (List.dropWhile_sublist _).cons_cons s
  | none =>
    cases braces with
    | true => exact closeScope_sublist text stack
    | false => exact .refl stack

/-- What is open has been opened by the lines, in their order. -/
theorem openAfter_reverse_sublist (braces : Bool) (patterns : List Pattern)
    (lines : List String) :
    (openAfter braces patterns lines).reverse.Sublist (lines.filterMap (openedBy patterns)) := by
  induction lines using List.reverseRecOn with
  | nil => exact .slnil
  | append_singleton above text ih =>
    rw [openAfter_append_singleton, List.filterMap_append]
    refine (afterLine_sublist_openedBy braces patterns _ text).reverse.trans ?_
    rw [List.reverse_append]
    refine ih.append ?_
    cases opened : openedBy patterns text with
    | none => exact List.nil_sublist _
    | some s => simp [opened]

end Detection

end Proctor
