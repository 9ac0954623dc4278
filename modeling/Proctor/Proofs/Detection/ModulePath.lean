import Proctor.Builtin
import Proctor.Proofs.Detection.Nest

/-!
# Paths of modules

Modules are closed by lone braces. A module whose opener is indented more than that of the
module around it, and whose brace is not, leaves the open modules as it found them. So what
is open above a plain line are the modules around it, whatever has been opened and closed
before.

A line is first looked through for an opener, and only if there is none does its brace count.
A brace in which a pattern captures something therefore opens a module and does not close one;
the main statement leaves such patterns out.
-/

namespace Proctor.Detection

variable {patterns : List Pattern}

namespace Nest

/-- Blocks stand between openers and lone braces: each opener is indented more than the one
around it, and the brace of a block no more than its opener. A lone brace among the plain
lines of a block is indented more than the opener of the block. -/
inductive Braced : Option Nat → Nest → Prop
  | nil {outer} : Braced outer .nil
  | plain {outer line rest} :
      (isLoneBrace line → ∀ n ∈ outer, n < indentOf line) → Braced outer rest →
        Braced outer (.plain line rest)
  | block {outer opener name body closer rest} :
      (∀ n ∈ outer, n < indentOf opener) → Braced (some (indentOf opener)) body →
        isLoneBrace closer → indentOf closer ≤ indentOf opener → Braced outer rest →
          Braced outer (.block opener name body closer rest)

end Nest

/-! ## One more line -/

/-- The indentation of the innermost open module. -/
def innermost (stack : List Scope) : Option Nat := stack.head?.map (·.indent)

theorem afterLine_of_opener {line name : String} {stack : List Scope} {braces : Bool}
    (captured : firstCapture patterns line = some name)
    (deeper : ∀ n ∈ innermost stack, n < indentOf line) :
    afterLine braces patterns stack line = ⟨name, indentOf line⟩ :: stack := by
  have kept : stack.dropWhile (fun t => indentOf line ≤ t.indent) = stack := by
    cases stack with
    | nil => rfl
    | cons t outer =>
      have below : t.indent < indentOf line := deeper t.indent rfl
      rw [List.dropWhile_cons_of_neg]
      simpa using below
  rw [afterLine, openedBy_of_captured captured]
  simp only [openScope, kept]

theorem afterLine_of_plain {line : String} {stack : List Scope}
    (missed : firstCapture patterns line = none)
    (deeper : isLoneBrace line → ∀ n ∈ innermost stack, n < indentOf line) :
    afterLine true patterns stack line = stack := by
  rw [afterLine, openedBy_of_missed missed]
  cases stack with
  | nil => rfl
  | cons t outer =>
    have stays : (isLoneBrace line && indentOf line ≤ t.indent) = false := by
      cases brace : isLoneBrace line with
      | false => rfl
      | true =>
        have below : t.indent < indentOf line := deeper brace t.indent rfl
        simpa using below
    simp only [closeScope, stays]
    rfl

theorem afterLine_of_closer {line : String} {s : Scope} {stack : List Scope}
    (missed : firstCapture patterns line = none) (brace : isLoneBrace line)
    (reaches : indentOf line ≤ s.indent) :
    afterLine true patterns (s :: stack) line = stack := by
  rw [afterLine, openedBy_of_missed missed]
  simp [closeScope, brace, reaches]

/-! ## A whole module -/

namespace Nest

/-- Blocks that have been closed leave the open scopes as they found them. -/
theorem Braced.foldl_lines {outer : Option Nat} {nest : Nest} (braced : nest.Braced outer)
    (captured : nest.CapturedBy patterns) (missed : nest.ClosersMissed patterns)
    {stack : List Scope} (top : innermost stack = outer) :
    nest.lines.foldl (afterLine true patterns) stack = stack := by
  induction braced generalizing stack with
  | nil => rfl
  | plain deeper _ ih =>
    obtain _ | ⟨plain, captured⟩ := captured
    rw [lines, List.foldl_cons, afterLine_of_plain plain (by rwa [top])]
    exact ih captured missed top
  | block deeper _ brace reaches _ inner later =>
    obtain _ | _ | ⟨opened, -, inside, after⟩ := captured
    obtain ⟨missedInside, missedHere, missedAfter⟩ := missed.block
    rw [lines, List.foldl_cons, List.foldl_append, List.foldl_cons,
      afterLine_of_opener opened (by rwa [top]), inner inside missedInside rfl,
      afterLine_of_closer missedHere brace reaches]
    exact later after missedAfter top

/-- Above a plain line the blocks around it are open. -/
theorem Braced.foldl_above {nest : Nest} {above : List String} {marks : List Mark}
    (at_ : nest.At above marks) {outer : Option Nat} (braced : nest.Braced outer)
    (captured : nest.CapturedBy patterns) (missed : nest.ClosersMissed patterns)
    {stack : List Scope} (top : innermost stack = outer) :
    above.foldl (afterLine true patterns) stack = (openScopes marks).reverse ++ stack := by
  induction at_ generalizing outer stack with
  | here => rfl
  | afterPlain _ ih =>
    obtain _ | ⟨plain, captured⟩ := captured
    obtain _ | ⟨deeper, braced⟩ := braced
    rw [List.foldl_cons, afterLine_of_plain plain (by rwa [top])]
    exact ih braced captured missed top
  | inside _ ih =>
    obtain _ | _ | ⟨opened, -, captured, -⟩ := captured
    obtain _ | _ | ⟨deeper, braced, -, -, -⟩ := braced
    rw [List.foldl_cons, afterLine_of_opener opened (by rwa [top]),
      ih braced captured missed.block.1 rfl]
    simp [openScopes]
  | @afterBlock _ _ body _ _ _ _ _ ih =>
    obtain _ | _ | ⟨opened, -, inside, after⟩ := captured
    obtain _ | _ | ⟨deeper, inner, brace, reaches, later⟩ := braced
    obtain ⟨missedInside, missedHere, missedAfter⟩ := missed.block
    rw [List.foldl_cons, List.foldl_append, List.foldl_cons,
      afterLine_of_opener opened (by rwa [top]), inner.foldl_lines inside missedInside rfl,
      afterLine_of_closer missedHere brace reaches, ih later after missedAfter top]
    have closed : (body.scopes.map fun s => (⟨s, false⟩ : Mark)).filter (·.isOpen) = [] := by
      simp
    simp [openScopes, closed]

end Nest

/-! ## The path -/

/-- The context of a file as a whole, named after its stem. -/
def fileContext (file : Option Path) : Option Context :=
  file.bind fun path => if path.stem = "" then none else some ⟨path.stem, 0, true⟩

theorem modules_of_outermost {lines : List String} {line : Int} {p : Profile}
    (outermost : openAfter true p.scopePatterns (linesBefore lines line) = [])
    (file : Option Path) : modules lines line p file = .ok (fileContext file) := by
  unfold modules
  rw [outermost]
  cases file with
  | none => rfl
  | some path =>
    by_cases bare : path.stem = ""
    · simp [fileContext, bare]
    · simp [fileContext, bare, Context.make, Except.map]

theorem modules_of_inside {lines : List String} {line : Int} {p : Profile}
    {stack : List Scope} {separator : String}
    (opened : openAfter true p.scopePatterns (linesBefore lines line) = stack)
    (occupied : stack ≠ []) (named : ∀ s ∈ stack, s.name ≠ "")
    (separated : p.separatorOr "::" = .text separator) (file : Option Path) :
    modules lines line p file = .ok (pathContext separator stack.reverse) := by
  unfold modules
  rw [opened]
  cases stack with
  | nil => exact absurd rfl occupied
  | cons s outer =>
    rw [← contextOf_eq separator occupied named, ← separated]

/-- In a buffer of modules each plain line has the modules around it for a context, outermost
first; a line that stands in none has the file. -/
theorem resolve_modules {registry : Registry} {p : Profile} {language separator : String}
    {file : Option Path} {nest : Nest} {above : List String} {marks : List Mark}
    (known : registry.find? language = some p) (strategy : p.context = some .moduleBlock)
    (separated : p.separatorOr "::" = .text separator)
    (captured : nest.CapturedBy p.scopePatterns) (braced : nest.Braced none)
    (missed : nest.ClosersMissed p.scopePatterns) (at_ : nest.At above marks) :
    resolve Strategy.all registry nest.lines (above.length + 1 : Nat) language file =
      .ok ((pathContext separator (openScopes marks)).or (fileContext file)) := by
  have opened : openAfter true p.scopePatterns (linesBefore nest.lines (above.length + 1 : Nat)) =
      (openScopes marks).reverse := by
    rw [at_.linesBefore, openAfter, braced.foldl_above at_ captured missed rfl, List.append_nil]
  rw [resolve_eq_enclosing known strategy, enclosing]
  by_cases outermost : openScopes marks = []
  · rw [outermost] at opened ⊢
    exact modules_of_outermost opened file
  · have occupied : (openScopes marks).reverse ≠ [] := List.reverse_ne_nil_iff.mpr outermost
    have named : ∀ s ∈ (openScopes marks).reverse, s.name ≠ "" := by
      intro s mem
      apply at_.name_ne_empty captured
      exact (openScopes_sublist marks).subset (List.mem_reverse.mp mem)
    rw [modules_of_inside opened occupied named separated, List.reverse_reverse, pathContext,
      if_neg outermost]
    rfl

/-! A file with a module in a module, and tests in both and below them. -/

def crateProfile : Profile := (Profile.ofFields Builtin.rust).toOption.getD {}

def crateRegistry : Registry := ⟨[("rust", crateProfile)]⟩

def crateFile : Path := ⟨.slash, ["crate", "src", "lib.rs"]⟩

def crateNest : Nest :=
  .block "mod outer \x7b" "outer"
    (.block "    mod inner \x7b" "inner"
      (.plain "        fn parses() \x7b" (.plain "        \x7d" .nil))
      "    \x7d"
      (.plain "    fn adds() \x7b\x7d" .nil))
    "\x7d"
    (.plain "fn stands() \x7b\x7d" .nil)

/-- The brace of a function in the inner module closes none; after the brace of that module
only the outer one is open, and after its brace the file is what is left. -/
theorem resolve_modules_crate :
    resolve Strategy.all crateRegistry crateNest.lines 4 "rust" (some crateFile) =
      .ok (some ⟨"outer::inner", 1, false⟩) ∧
    resolve Strategy.all crateRegistry crateNest.lines 6 "rust" (some crateFile) =
      .ok (some ⟨"outer", 0, false⟩) ∧
    resolve Strategy.all crateRegistry crateNest.lines 8 "rust" (some crateFile) =
      .ok (some ⟨"lib", 0, true⟩) := by
  have known : crateRegistry.find? "rust" = some crateProfile := by
    simp only [crateRegistry, Registry.find?, List.lookup_cons_self]
  have strategy : crateProfile.context = some .moduleBlock := by decide +kernel
  have separated : crateProfile.separatorOr "::" = .text "::" :=
    Value.eq_text_of_asText? (by decide +kernel)
  have found : crateNest.lines.map (firstCapture crateProfile.scopePatterns) =
      [some "outer", some "inner", none, none, none, none, none, none] := by decide +kernel
  simp only [crateNest, Nest.lines, List.cons_append, List.nil_append, List.map_cons,
    List.map_nil, List.cons.injEq, and_true] at found
  obtain ⟨outerName, innerName, parses, brace, innerBrace, adds, outerBrace, stands⟩ := found
  have captured : crateNest.CapturedBy crateProfile.scopePatterns :=
    .block outerName (by decide)
      (.block innerName (by decide) (.plain parses (.plain brace .nil)) (.plain adds .nil))
      (.plain stands .nil)
  have missed : crateNest.ClosersMissed crateProfile.scopePatterns := by
    simp [Nest.ClosersMissed, crateNest, Nest.closers, innerBrace, outerBrace]
  have braced : crateNest.Braced none :=
    .block (by decide +kernel)
      (.block (by decide +kernel)
        (.plain (by decide +kernel) (.plain (by decide +kernel) .nil)) (by decide +kernel)
        (by decide +kernel)
        (.plain (by decide +kernel) .nil))
      (by decide +kernel) (by decide +kernel)
      (.plain (by decide +kernel) .nil)
  have path (above : List String) (marks : List Mark) (context : Option Context)
      (at_ : crateNest.At above marks)
      (named : (pathContext "::" (openScopes marks)).or (fileContext (some crateFile)) = context) :
      resolve Strategy.all crateRegistry crateNest.lines (above.length + 1 : Nat) "rust"
        (some crateFile) = .ok context := by
    rw [← named]
    exact resolve_modules known strategy separated captured braced missed at_
  have inner := path _ _ (some ⟨"outer::inner", 1, false⟩) (.inside (.inside (.afterPlain .here)))
    (by decide +kernel)
  have outer := path _ _ (some ⟨"outer", 0, false⟩) (.inside (.afterBlock .here))
    (by decide +kernel)
  have below := path _ _ (some ⟨"lib", 0, true⟩) (.afterBlock .here) (by decide +kernel)
  exact ⟨inner, outer, below⟩

/-- A profile with a pattern that captures letters and braces. -/
def braceProfile : Profile where
  scopePatterns := (Pattern.compile "([a-z\x7d])").toOption.toList
  context := some .moduleBlock

/-- What is captured in a brace makes it an opener, so the modules around a line are not
always those of its context: the brace that closes the only module of this buffer opens
another one, and the line below it stands in none. Nor is there a context where the separator
is no text. -/
theorem captured_brace :
    let nest : Nest := .block "a" "a" (.plain "1" .nil) "\x7d" (.plain "2" .nil)
    let marks : List Mark := [⟨⟨"a", 0⟩, false⟩]
    let context (p : Profile) (line : Int) :=
      (resolve Strategy.all ⟨[("rust", p)]⟩ nest.lines line "rust" (some crateFile)).toOption
    nest.CapturedBy braceProfile.scopePatterns ∧ nest.Braced none ∧
      nest.At ["a", "1", "\x7d"] marks ∧
      (pathContext "::" (openScopes marks)).or (fileContext (some crateFile)) =
        some ⟨"lib", 0, true⟩ ∧
      context braceProfile 4 = some (some ⟨"\x7d", 0, false⟩) ∧
      context { braceProfile with separator := .int 5 } 2 = none := by
  intro nest marks context
  have captured : nest.CapturedBy braceProfile.scopePatterns :=
    .block (by decide +kernel) (by decide) (.plain (by decide +kernel) .nil)
      (.plain (by decide +kernel) .nil)
  have braced : nest.Braced none :=
    .block (by decide +kernel) (.plain (by decide +kernel) .nil) (by decide +kernel)
      (by decide +kernel) (.plain (by decide +kernel) .nil)
  exact ⟨captured, braced, .afterBlock .here, by decide +kernel, by decide +kernel,
    by decide +kernel⟩

end Proctor.Detection
