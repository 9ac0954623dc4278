import Proctor.Proofs.Detection.Surviving
import Proctor.Proofs.Detection.ModulePath

/-!
# Scopes without a name

A pattern may capture nothing at all in a line that it matches, and then the line opens a scope
whose name is empty. That alone does no harm: in a path the separators are still there. Only
where the empty name is all there is around a test does the context have no description, and
then there is no answer. With separators that are texts nothing else goes wrong.
-/

namespace Proctor.Detection

variable {patterns : List Pattern} {p : Profile} {lines : List String} {line : Int}

/-! ## The names around a test -/

/-- The line settles what the indented lines below it stand in: it stands at the left margin,
and a pattern captures something in it or it opens a function or a class. -/
def settles (patterns : List Pattern) (text : String) : Bool :=
  !isInner text && ((firstCapture patterns text).isSome || isOpener text)

/-- What is captured in the nearest line that settles it, in lines given from the last to the
first. -/
def nearestClass (patterns : List Pattern) (above : List String) : Option String :=
  (above.find? (settles patterns)).bind (firstCapture patterns)

/-- Is the line one of the buffer, and does it begin with blanks? -/
def isIndented (lines : List String) (line : Int) : Bool :=
  0 < line && (lines[line.toNat - 1]?).any fun text => indentOf text != 0

/-- The class around a test, if the test is indented and there is one. -/
def classesAround (patterns : List Pattern) (lines : List String) (line : Int) : List String :=
  if isIndented lines line then (nearestClass patterns (linesBefore lines line).reverse).toList
  else []

/-- The names of the scopes around a test, outermost first. -/
def namesAround (p : Profile) (lines : List String) (line : Int) : List String :=
  match p.context with
  | some .indentStack => (survivors (openersAbove p.scopePatterns lines line)).map (·.scope.name)
  | some .moduleBlock =>
    (openAfter true p.scopePatterns (linesBefore lines line)).reverse.map (·.name)
  | some .enclosingClass => classesAround p.scopePatterns lines line
  | some .fileScope | none => []

/-- The answers there can be with some names around a test. -/
inductive Answers (names : List String) : Except Error (Option Context) → Prop
  | nameless : names = [""] → Answers names (.error (.unfit .emptyDescription))
  | nothing : names ≠ [""] → Answers names (.ok none)
  | named {c : Context} : names ≠ [""] → c.describe ≠ "" → Answers names (.ok (some c))

section

variable {names : List String} {answer : Except Error (Option Context)}
  (answers : Answers names answer)

include answers

theorem Answers.refused (nameless : names = [""]) :
    answer = .error (.unfit .emptyDescription) := by
  cases answers with
  | nameless => rfl
  | nothing other => exact absurd nameless other
  | named other => exact absurd nameless other

theorem Answers.given (other : names ≠ [""]) :
    ∃ context, answer = .ok context ∧ ∀ c ∈ context, c.describe ≠ "" ∧ 0 ≤ c.level := by
  cases answers with
  | nameless nameless => exact absurd nameless other
  | nothing => exact ⟨none, rfl, by simp⟩
  | @named c _ described => exact ⟨some c, rfl, by simp [described]⟩

end

/-! ## One context -/

theorem intercalate_eq_empty_iff {separator : String} (apart : separator ≠ "")
    {names : List String} (some_ : names ≠ []) :
    separator.intercalate names = "" ↔ names = [""] := by
  cases names with
  | nil => exact absurd rfl some_
  | cons name rest =>
    cases rest with
    | nil => simp
    | cons next more =>
      rw [String.intercalate_cons_cons]
      simp [apart]

theorem answers_make {names : List String} {describe : String} (level : Nat) (fileScope : Bool)
    (same : describe = "" ↔ names = [""]) :
    Answers names ((Context.make describe level fileScope).map some) := by
  unfold Context.make
  split
  case isTrue empty => exact .nameless (same.mp (by simpa using empty))
  case isFalse described =>
    have some_ : describe ≠ "" := by simpa using described
    exact .named (mt same.mpr some_) some_

theorem answers_contextOf {separator : String} (apart : separator ≠ "") {stack : List Scope}
    (occupied : stack ≠ []) :
    Answers (stack.reverse.map (·.name)) ((contextOf (.text separator) stack).map some) := by
  have names : stack.reverse.map (·.name) ≠ [] := by simpa using occupied
  exact answers_make _ false (intercalate_eq_empty_iff apart names)

theorem answers_fileContext (file : Option Path) : Answers [] (.ok (fileContext file)) := by
  cases file with
  | none => exact .nothing (by simp)
  | some path =>
    by_cases bare : path.stem = ""
    · simp only [fileContext, Option.bind_some, if_pos bare]
      exact .nothing (by simp)
    · simp only [fileContext, Option.bind_some, if_neg bare]
      exact .named (by simp) bare

/-! ## The strategies -/

theorem answers_suites {separator : String} (separated : p.separatorOr " > " = .text separator)
    (apart : separator ≠ "") :
    Answers ((openAfter false p.scopePatterns (linesBefore lines line)).reverse.map (·.name))
      (suites lines line p) := by
  unfold suites
  rw [separated]
  split
  case h_1 none_ =>
    rw [none_]
    exact .nothing (by simp)
  case h_2 some_ => exact answers_contextOf apart some_

theorem answers_modules {separator : String} (separated : p.separatorOr "::" = .text separator)
    (apart : separator ≠ "") (file : Option Path) :
    Answers ((openAfter true p.scopePatterns (linesBefore lines line)).reverse.map (·.name))
      (modules lines line p file) := by
  by_cases outermost : openAfter true p.scopePatterns (linesBefore lines line) = []
  · rw [modules_of_outermost outermost, outermost]
    exact answers_fileContext file
  · have inside := answers_contextOf apart outermost
    unfold modules
    rw [separated]
    split
    case h_1 none_ => exact absurd none_ outermost
    case h_2 => exact inside

/-- The search for a class ends at the nearest line that settles it. -/
theorem classAbove_eq_nearest (patterns : List Pattern) (above : List String) :
    classAbove patterns above =
      match nearestClass patterns above with
      | some name => (Context.make name 0 false).map some
      | none => .ok none := by
  induction above with
  | nil => rfl
  | cons text above ih =>
    rw [classAbove, nearestClass, List.find?_cons, settles]
    cases inner : isInner text with
    | true => simpa [nearestClass] using ih
    | false =>
      cases captured : firstCapture patterns text with
      | some name => simp [captured]
      | none =>
        cases opener : isOpener text with
        | true => simp [captured]
        | false => simpa [nearestClass] using ih

theorem enclosingClass_eq_classAbove (lines : List String) (line : Int) (p : Profile) :
    enclosingClass lines line p =
      if isIndented lines line then classAbove p.scopePatterns (linesBefore lines line).reverse
      else .ok none := by
  rw [enclosingClass, isIndented]
  by_cases low : line ≤ 0
  · have outside : ¬ 0 < line := by omega
    simp [low, outside]
  · have positive : 0 < line := by omega
    cases found : lines[line.toNat - 1]? with
    | none => simp [low]
    | some text => by_cases margin : indentOf text = 0 <;> simp [low, positive, margin]

theorem answers_enclosingClass :
    Answers (classesAround p.scopePatterns lines line) (enclosingClass lines line p) := by
  have outside : Answers [] (.ok none) := .nothing (by simp)
  rw [enclosingClass_eq_classAbove, classesAround]
  cases isIndented lines line with
  | false => exact outside
  | true =>
    simp only [if_true, classAbove_eq_nearest]
    cases nearestClass p.scopePatterns (linesBefore lines line).reverse with
    | none => exact outside
    | some name => exact answers_make 0 false (by simp)

theorem answers_package (file : Option Path) : Answers [] (package file) := by
  have outside : Answers [] (.ok none) := .nothing (by simp)
  unfold package
  cases file with
  | none => exact outside
  | some path =>
    dsimp only
    split
    case isTrue => exact outside
    case isFalse => exact answers_make 0 true (by simp)

/-- What a strategy answers is settled by the names around the test. -/
theorem answers_enclosing {s : Strategy} {given : Option String} (strategy : p.context = some s)
    (separated : p.separator = given.elim .null .text) (file : Option Path) :
    Answers (namesAround p lines line) (enclosing s lines line p file) := by
  have apart (default : String) (some_ : default ≠ "") :
      (given.filter (· ≠ "")).getD default ≠ "" := by
    cases given with
    | none => exact some_
    | some separator => by_cases empty : separator = "" <;> simp [Option.filter, empty, some_]
  rw [namesAround, strategy]
  cases s with
  | indentStack =>
    have names : (survivors (openersAbove p.scopePatterns lines line)).map (·.scope.name) =
        (openAfter false p.scopePatterns (linesBefore lines line)).reverse.map (·.name) := by
      rw [← map_scope_survivors_openersAbove, List.map_map]
      rfl
    simp only [names]
    exact answers_suites (separatorOr_eq separated " > ") (apart " > " (by decide))
  | enclosingClass => exact answers_enclosingClass
  | fileScope => exact answers_package file
  | moduleBlock =>
    exact answers_modules (separatorOr_eq separated "::") (apart "::" (by decide)) file

/-! ## The resolver -/

/-- What is open after some lines has been opened by one of them. -/
theorem captured_of_mem_openAfter {braces : Bool} {s : Scope}
    (mem : s ∈ openAfter braces patterns lines) :
    ∃ text ∈ lines, firstCapture patterns text = some s.name := by
  have opened := (openAfter_reverse_sublist braces patterns lines).mem (List.mem_reverse.mpr mem)
  obtain ⟨text, there, opens⟩ := List.mem_filterMap.mp opened
  obtain ⟨name, captured, rfl⟩ := Option.map_eq_some_iff.mp opens
  exact ⟨text, there, captured⟩

/-- The names around a test are captured in lines above it. -/
theorem captured_of_mem_namesAround {name : String} (mem : name ∈ namesAround p lines line) :
    ∃ text ∈ linesBefore lines line, firstCapture p.scopePatterns text = some name := by
  have opened (braces : Bool)
      (mem : name ∈ (openAfter braces p.scopePatterns (linesBefore lines line)).reverse.map
        (·.name)) :
      ∃ text ∈ linesBefore lines line, firstCapture p.scopePatterns text = some name := by
    obtain ⟨s, there, rfl⟩ := List.mem_map.mp mem
    exact captured_of_mem_openAfter (List.mem_reverse.mp there)
  unfold namesAround at mem
  split at mem
  case h_1 =>
    apply opened false
    rwa [← map_scope_survivors_openersAbove, List.map_map]
  case h_2 => exact opened true mem
  case h_3 =>
    unfold classesAround at mem
    split at mem
    · obtain ⟨text, found, captured⟩ := Option.bind_eq_some_iff.mp (Option.mem_toList.mp mem)
      exact ⟨text, List.mem_reverse.mp (List.mem_of_find?_eq_some found), captured⟩
    · exact absurd mem List.not_mem_nil
  case h_4 => exact absurd mem List.not_mem_nil
  case h_5 => exact absurd mem List.not_mem_nil

theorem answers_resolve {registry : Registry} {language : String} {given : Option String}
    (known : registry.find? language = some p)
    (separated : p.separator = given.elim .null .text) (file : Option Path) :
    Answers (namesAround p lines line)
      (resolve Strategy.all registry lines line language file) := by
  cases strategy : p.context with
  | none =>
    simp only [resolve, known, strategy, namesAround]
    exact .nothing (by simp)
  | some s =>
    rw [resolve_eq_enclosing known strategy]
    exact answers_enclosing strategy separated file

/-- With separators that are texts there is an answer, and no context without a description,
unless the names around the test are a single empty one. Then the description of a context is
refused, and an empty text has been captured in a line above. -/
theorem resolve_answers_iff {registry : Registry} {language : String}
    (textual : ∀ p, registry.find? language = some p →
      ∃ given : Option String, p.separator = given.elim .null .text)
    (lines : List String) (line : Int) (file : Option Path) :
    let answer := resolve Strategy.all registry lines line language file
    let nameless := ∃ p, registry.find? language = some p ∧ namesAround p lines line = [""]
    ((∃ context, answer = .ok context ∧ ∀ c ∈ context, c.describe ≠ "" ∧ 0 ≤ c.level) ↔
        ¬ nameless) ∧
      (nameless → answer = .error (.unfit .emptyDescription) ∧
        ∃ p, registry.find? language = some p ∧
          ∃ text ∈ linesBefore lines line, firstCapture p.scopePatterns text = some "") := by
  intro answer nameless
  cases known : registry.find? language with
  | none =>
    have unknown : ¬ nameless := by
      rintro ⟨p, other, -⟩
      rw [known] at other
      cases other
    have nothing : answer = .ok none := by simp only [answer, resolve, known]
    exact ⟨⟨fun _ => unknown, fun _ => ⟨none, nothing, by simp⟩⟩, fun known => absurd known unknown⟩
  | some p =>
    obtain ⟨given, separated⟩ := textual p known
    have alone : nameless ↔ namesAround p lines line = [""] := by
      simp only [nameless, known, Option.some.injEq, exists_eq_left']
    have answers : Answers (namesAround p lines line) answer :=
      answers_resolve known separated file
    rw [alone]
    refine ⟨⟨?_, answers.given⟩, ?_⟩
    · rintro ⟨context, found, -⟩ empty
      rw [answers.refused empty] at found
      cases found
    · intro empty
      have around : "" ∈ namesAround p lines line := empty ▸ List.mem_singleton_self ""
      exact ⟨answers.refused empty, p, rfl, captured_of_mem_namesAround around⟩

/-! Profiles whose pattern may capture nothing in a line that it matches. -/

def hollowFields (context pattern : String) : Fields :=
  [("context", .text context), ("scope_patterns", .text pattern),
    ("context_separator", .text " > ")]

def hollowProfile (context pattern : String) : Profile :=
  (Profile.ofFields (hollowFields context pattern)).toOption.getD {}

def hollowRegistry (context pattern : String) : Registry :=
  ⟨[("python", hollowProfile context pattern)]⟩

theorem hollowRegistry_find? (context pattern : String) :
    (hollowRegistry context pattern).find? "python" = some (hollowProfile context pattern) := by
  simp only [hollowRegistry, Registry.find?, List.lookup_cons_self]

/-- A suite without a name is no context by itself and is part of one where others are around
it. -/
theorem resolve_answers_iff_hollow :
    let registry := hollowRegistry "indent_stack" "suite ?([a-z]*)"
    let answer (lines : List String) (line : Int) :=
      resolve Strategy.all registry lines line "python" none
    answer ["suite", "  a test"] 2 = .error (.unfit .emptyDescription) ∧
      ∃ context, answer ["suite", "  suite a", "    a test"] 3 = .ok context ∧
        ∀ c ∈ context, c.describe ≠ "" ∧ 0 ≤ c.level := by
  intro registry answer
  have known : registry.find? "python" = some (hollowProfile "indent_stack" "suite ?([a-z]*)") :=
    hollowRegistry_find? _ _
  have separated : (hollowProfile "indent_stack" "suite ?([a-z]*)").separator = .text " > " :=
    Value.eq_text_of_asText? (by decide +kernel)
  have textual (p : Profile) (found : registry.find? "python" = some p) :
      ∃ given : Option String, p.separator = given.elim .null .text := by
    rw [known, Option.some_inj] at found
    exact ⟨some " > ", found ▸ separated⟩
  have alone := (resolve_answers_iff textual ["suite", "  a test"] 2 none).2
  have both := (resolve_answers_iff textual ["suite", "  suite a", "    a test"] 3 none).1
  refine ⟨(alone ⟨_, known, by decide +kernel⟩).1, both.mpr ?_⟩
  rintro ⟨p, found, nameless⟩
  rw [known, Option.some_inj] at found
  rw [← found] at nameless
  exact absurd nameless (by decide +kernel)

/-- The description of a context is refused. -/
theorem resolve_hollow {context pattern : String} {lines : List String}
    (made : (Profile.ofFields (hollowFields context pattern)).toOption.isSome)
    (separated : (hollowProfile context pattern).separator.asText? = some " > ")
    (nameless : namesAround (hollowProfile context pattern) lines 2 = [""]) :
    (Profile.ofFields (hollowFields context pattern)).toOption.map (fun p =>
        resolve Strategy.all ⟨[("python", p)]⟩ lines 2 "python" none) =
      some (.error (.unfit .emptyDescription)) := by
  have profile : (Profile.ofFields (hollowFields context pattern)).toOption =
      some (hollowProfile context pattern) := by
    obtain ⟨p, same⟩ := Option.isSome_iff_exists.mp made
    rw [hollowProfile, same]
    rfl
  have separator : (hollowProfile context pattern).separator = (some " > ").elim .null .text :=
    Value.eq_text_of_asText? separated
  have answers : Answers (namesAround (hollowProfile context pattern) lines 2)
      (resolve Strategy.all (hollowRegistry context pattern) lines 2 "python" none) :=
    answers_resolve (hollowRegistry_find? context pattern) separator none
  rw [profile, Option.map_some, Option.some_inj]
  exact answers.refused nameless

/-- Each strategy that asks the patterns can come to a test with nothing but an empty name
around it. -/
theorem resolve_refused :
    let answer (context pattern : String) (lines : List String) :=
      (Profile.ofFields (hollowFields context pattern)).toOption.map fun p =>
        resolve Strategy.all ⟨[("python", p)]⟩ lines 2 "python" none
    answer "enclosing_class" "^class ?(\\w*)" ["class", "  def test_x(): pass"] =
        some (.error (.unfit .emptyDescription)) ∧
      answer "indent_stack" "^suite ?(\\w*)" ["suite", "  test"] =
        some (.error (.unfit .emptyDescription)) ∧
      answer "module_block" "^mod ?(\\w*)" ["mod", "  test"] =
        some (.error (.unfit .emptyDescription)) := by
  intro answer
  refine ⟨resolve_hollow ?_ ?_ ?_, resolve_hollow ?_ ?_ ?_, resolve_hollow ?_ ?_ ?_⟩
  all_goals decide +kernel

end Proctor.Detection
