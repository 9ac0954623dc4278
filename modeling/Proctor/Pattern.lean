import Proctor.Pattern.Match
import Proctor.Pattern.Parser
import Proctor.Value

/-!
# Detection patterns

A detection pattern is an expression with exactly one group, whose text is the name
that a match finds. A pattern carries the tree of its expression together with the
fact that its source reads as that tree, so whoever holds a pattern need not ask
again whether it is one.
-/

namespace Proctor

/-- An expression with exactly one group. -/
structure Pattern where
  source : String
  expression : Pattern.Syntax
  parsed : Pattern.Syntax.parse source = .ok (expression, 1)

namespace Pattern

/-- Why a value is no detection pattern. -/
inductive Fault where
  /-- It is no text. -/
  | notText (typeName : String)
  /-- It is no expression. -/
  | malformed (source : String)
  /-- It has another number of groups. -/
  | groups (source : String) (found : Nat)
  /-- It asks for more rounds than can be counted. -/
  | tooManyRounds
  /-- It has a number of rounds of so many digits that it is not read. -/
  | longNumber (digits : Nat)
  /-- It asks for the plain and the full alphabet at once. -/
  | conflictingAlphabets
  deriving DecidableEq, Repr

/-- What a fault says. -/
def Fault.message : Fault → String
  | notText typeName => "Pattern must be a string, got " ++ typeName
  | malformed source => "Invalid regex pattern '" ++ source ++ "': <detail>"
  | groups source found =>
    "Pattern '" ++ source ++ "' must have exactly one capture group, found " ++ toString found
  | tooManyRounds => "the repetition number is too large"
  | longNumber digits =>
    "Exceeds the limit (" ++ toString Text.maxDigits ++ " digits) for integer string " ++
      "conversion: value has " ++ toString digits ++
      " digits; use sys.set_int_max_str_digits() to increase the limit"
  | conflictingAlphabets => "ASCII and UNICODE flags are incompatible"

/-- Patterns with one source are one pattern. -/
theorem ext_source {p q : Pattern} (h : p.source = q.source) : p = q := by
  obtain ⟨s, e, hp⟩ := p
  obtain ⟨t, f, hq⟩ := q
  obtain rfl : s = t := h
  obtain rfl : e = f := by
    have := hp.symm.trans hq
    simpa using this
  rfl

instance : DecidableEq Pattern := fun p q =>
  if h : p.source = q.source then .isTrue (ext_source h)
  else .isFalse fun e => h (e ▸ rfl)

/-- Read a text as a detection pattern. -/
def compile (source : String) : Except Fault Pattern :=
  match h : Syntax.parse source with
  | .error .illFormed => .error (.malformed source)
  | .error .tooManyRounds => .error .tooManyRounds
  | .error (.longNumber digits) => .error (.longNumber digits)
  | .error .conflictingAlphabets => .error .conflictingAlphabets
  | .ok (expression, n) =>
    if hn : n = 1 then .ok ⟨source, expression, hn ▸ h⟩ else .error (.groups source n)

/-- Read a value as a detection pattern. -/
def ofValue (v : Value) : Except Fault Pattern :=
  match v with
  | .text source => compile source
  | v => .error (.notText v.typeName)

/-- The leftmost match in a line. -/
def search? (p : Pattern) (line : String) : Option Match :=
  p.expression.search? line.toList

/-- The name a match found, if the group took part in it. -/
def nameIn (m : Match) : Option String :=
  (m.capture? 1).map String.ofList

theorem compile_source (p : Pattern) : compile p.source = .ok p := by
  unfold compile
  split
  · rename_i h; rw [p.parsed] at h; cases h
  · rename_i h; rw [p.parsed] at h; cases h
  · rename_i h; rw [p.parsed] at h; cases h
  · rename_i h; rw [p.parsed] at h; cases h
  · rename_i e n h
    have he := p.parsed.symm.trans h
    simp only [Except.ok.injEq, Prod.mk.injEq] at he
    obtain ⟨rfl, rfl⟩ := he
    rfl

theorem source_of_compile {s : String} {p : Pattern} (h : compile s = .ok p) :
    p.source = s := by
  unfold compile at h
  split at h
  · cases h
  · cases h
  · cases h
  · cases h
  · split at h
    · cases h; rfl
    · cases h

end Pattern

end Proctor
