import Proctor.Text.Blank
import Proctor.Text.Case
import Proctor.Text.Digit
import Proctor.Text.Letter

/-!
# Regular expressions

The expressions that detection patterns are written in, as a tree. Options such
as "ignore case" are resolved while an expression is read, so each node carries
what it needs and a tree means the same wherever it stands.
-/

namespace Proctor.Pattern

/-- The named classes of characters. -/
inductive Kind where
  | digit
  | space
  | word
  deriving DecidableEq, Repr

/-- Membership in a named class; `plain` narrows it to the plain alphabet. -/
def Kind.holds (plain : Bool) : Kind → Char → Bool
  | .digit, c => if plain then c.isDigit else Text.isDecimal c
  | .space, c =>
    if plain then c == ' ' || (9 ≤ c.toNat && c.toNat ≤ 13) else Text.isBlank c
  | .word, c => if plain then c.isAlphanum || c == '_' else Text.isWordChar c

/-- One member of a character class. -/
inductive Member where
  | char (c : Char)
  /-- The code points between two, ends included. -/
  | range (low high : Nat)
  | kind (kind : Kind) (positive : Bool)
  deriving DecidableEq, Repr

/-- A class of characters, or the complement of one. -/
structure CharClass where
  negated : Bool
  members : List Member
  ignoreCase : Bool
  plain : Bool
  deriving DecidableEq, Repr

/-- Do two characters agree, with case set aside or not? -/
def sameChar (ignoreCase plain : Bool) (a b : Char) : Bool :=
  if ignoreCase then
    if plain then a.toLower == b.toLower else Text.sameIgnoringCase a b
  else a == b

/-- The characters that lower to `c`. -/
def capitalsOf (plain : Bool) (c : Char) : List Char :=
  if plain then [c.toUpper]
  else
    (if c.toNat < 128 then [c.toUpper] else []) ++
      Text.lowerRuns.filterMap fun r =>
        let n := ((c.toNat : Int) - r.shift).toNat
        if r.covers n then some (Char.ofNat n) else none

/-- The characters that agree with `c` when case is set aside. -/
def caseVariants (plain : Bool) (c : Char) : List Char :=
  if plain then [c, c.toLower, c.toUpper]
  else
    let small := Text.lowerChar c
    let smalls := small ::
      ((Text.sameUpper.filter (·.contains small.toNat)).flatten.map Char.ofNat)
    c :: smalls ++ smalls.flatMap (capitalsOf plain)

namespace Member

/-- Does the member admit the character? -/
def holds (ignoreCase plain : Bool) : Member → Char → Bool
  | .char x, c => sameChar ignoreCase plain x c
  | .range low high, c =>
    if ignoreCase then
      (caseVariants plain c).any fun v => low ≤ v.toNat && v.toNat ≤ high
    else low ≤ c.toNat && c.toNat ≤ high
  | .kind k positive, c => k.holds plain c == positive

end Member

/-- Does the class admit the character? -/
def CharClass.holds (s : CharClass) (c : Char) : Bool :=
  s.members.any (·.holds s.ignoreCase s.plain c) != s.negated

/-- The places between characters that an expression can ask for. -/
inductive Anchor where
  /-- The beginning of the text. -/
  | textStart
  /-- The beginning of a line. -/
  | lineStart
  /-- The end of the text. -/
  | textEnd
  /-- The end of the text, or the place before a line feed that ends it. -/
  | lastLineEnd
  /-- The end of a line. -/
  | lineEnd
  /-- A place where a word begins or ends, or where none does. -/
  | wordEdge (plain positive : Bool)
  deriving DecidableEq, Repr

/-- How a repetition chooses its number of rounds. -/
inductive Greed where
  /-- As many as can be. -/
  | greedy
  /-- As few as can be. -/
  | reluctant
  /-- As many as can be, and no second thoughts. -/
  | possessive
  deriving DecidableEq, Repr

/-- A regular expression. -/
inductive Syntax where
  | empty
  | one (chars : CharClass)
  | seq (first second : Syntax)
  | alt (left right : Syntax)
  /-- A part in parentheses that captures nothing. -/
  | group (body : Syntax)
  /-- A part whose text is kept under a number. -/
  | capture (index : Nat) (body : Syntax)
  /-- The text last kept under a number, again. -/
  | again (index : Nat) (ignoreCase plain : Bool)
  /-- Rounds of one character each. -/
  | run (greed : Greed) (min : Nat) (max : Option Nat) (chars : CharClass)
  /-- Rounds of a longer body. -/
  | times (greed : Greed) (min : Nat) (max : Option Nat) (body : Syntax)
  | anchor (place : Anchor)
  /-- What follows begins like this, or does not. -/
  | ahead (positive : Bool) (body : Syntax)
  /-- What precedes ends like this, `width` characters long, or does not. -/
  | behind (positive : Bool) (width : Nat) (body : Syntax)
  /-- One of two parts, by whether something is kept under a number. -/
  | ifCaptured (index : Nat) (yes no : Syntax)
  /-- A part whose first match stands. -/
  | atomic (body : Syntax)
  deriving DecidableEq, Repr

/-- A sequence of parts. -/
def Syntax.ofList : List Syntax → Syntax
  | [] => .empty
  | [a] => a
  | a :: rest => .seq a (ofList rest)

end Proctor.Pattern
