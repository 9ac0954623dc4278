import Proctor.Machine.Token

/-!
# Arithmetic

The expressions that a shell computes with: whole numbers, variables, the usual
operators and assignments.
-/

namespace Proctor.Machine.Arithmetic

/-- An expression. -/
inductive Expr where
  | number (n : Int)
  | variable_ (name : String)
  | unary (operator : String) (e : Expr)
  | binary (operator : String) (a b : Expr)
  | conditional (condition yes no : Expr)
  /-- An assignment, possibly of the outcome of an operator. -/
  | assign (name operator : String) (e : Expr)
  deriving Repr, Inhabited

/-- A token of an expression. -/
inductive Piece where
  | number (n : Int)
  | name (s : String)
  | operator (s : String)
  deriving DecidableEq, Repr

/-- The operators, the longer ones first. -/
def operators : List String := [
  "<<=", ">>=", "<<", ">>", "<=", ">=", "==", "!=", "&&", "||", "+=", "-=", "*=", "/=", "%=",
  "&=", "|=", "^=", "+", "-", "*", "/", "%", "<", ">", "=", "!", "~", "&", "|", "^", "(", ")",
  "?", ":"]

/-- The value of a digit in a base of at most sixteen. -/
def digitValue (c : Char) : Nat :=
  if c.isDigit then c.toNat - 48 else c.toLower.toNat - 87

/-- The number that digits in a base stand for. -/
def inBase (base : Nat) (cs : List Char) : Nat :=
  cs.foldl (fun n c => base * n + digitValue c) 0

/-- A number in decimal, or in octal or hexadecimal as its first digits say. -/
def numberOf (cs : List Char) : Nat :=
  match cs with
  | '0' :: 'x' :: rest | '0' :: 'X' :: rest => inBase 16 rest
  | '0' :: rest => inBase 8 rest
  | cs => inBase 10 cs

/-- The tokens of an expression; the first argument bounds their number. -/
def pieces : Nat → List Char → Option (List Piece)
  | 0, _ => none
  | _, [] => some []
  | n + 1, cs@(c :: rest) =>
    if c == ' ' || c == '\t' || c == '\n' then pieces n rest
    else if c.isDigit then
      let digits := cs.takeWhile Char.isAlphanum
      (pieces n (cs.drop digits.length)).map (.number (numberOf digits) :: ·)
    else if Token.isNameStart c then
      let name := cs.takeWhile Token.isNameChar
      (pieces n (cs.drop name.length)).map (.name (String.ofList name) :: ·)
    else
      match operators.find? fun o => o.toList.isPrefixOf cs with
      | some o => (pieces n (cs.drop o.length)).map (.operator o :: ·)
      | none => none

/-- The binary operators, those that bind least first. -/
def levels : List (List String) :=
  [["||"], ["&&"], ["|"], ["^"], ["&"], ["==", "!="], ["<", "<=", ">", ">="], ["<<", ">>"],
    ["+", "-"], ["*", "/", "%"]]

/-- The operators that assign, each with the operator it applies first. -/
def assignments : List (String × String) :=
  [("=", ""), ("+=", "+"), ("-=", "-"), ("*=", "*"), ("/=", "/"), ("%=", "%"), ("<<=", "<<"),
    (">>=", ">>"), ("&=", "&"), ("|=", "|"), ("^=", "^")]

mutual

/-- An expression and what follows it. -/
def expression : Nat → List Piece → Option (Expr × List Piece)
  | 0, _ => none
  | n + 1, ps =>
    let assigned := match ps with
      | .name x :: .operator o :: rest => (assignments.lookup o).map fun under => (x, under, rest)
      | _ => none
    match assigned with
    | some (x, under, rest) => do
      let (e, rest) ← expression n rest
      return (.assign x under e, rest)
    | none => do
      let (condition, rest) ← level n levels ps
      match rest with
      | .operator "?" :: rest =>
        let (yes, rest) ← expression n rest
        match rest with
        | .operator ":" :: rest =>
          let (no, rest) ← expression n rest
          return (.conditional condition yes no, rest)
        | _ => none
      | rest => return (condition, rest)

/-- An expression of operators that bind at least as strongly as the given ones. -/
def level : Nat → List (List String) → List Piece → Option (Expr × List Piece)
  | 0, _, _ => none
  | n + 1, [], ps => unary n ps
  | n + 1, operators :: stronger, ps => do
    let (first, rest) ← level n stronger ps
    levelFrom n operators stronger first rest

/-- More operands of the same operators. -/
def levelFrom : Nat → List String → List (List String) → Expr → List Piece →
    Option (Expr × List Piece)
  | 0, _, _, _, _ => none
  | n + 1, operators, stronger, first, ps =>
    match ps with
    | .operator o :: rest =>
      if operators.contains o then do
        let (second, rest) ← level n stronger rest
        levelFrom n operators stronger (.binary o first second) rest
      else some (first, ps)
    | ps => some (first, ps)

/-- An operand. -/
def unary : Nat → List Piece → Option (Expr × List Piece)
  | 0, _ => none
  | n + 1, ps =>
    match ps with
    | .number k :: rest => some (.number k, rest)
    | .name x :: rest => some (.variable_ x, rest)
    | .operator "(" :: rest => do
      let (e, rest) ← expression n rest
      match rest with
      | .operator ")" :: rest => return (e, rest)
      | _ => none
    | .operator o :: rest =>
      if ["-", "+", "!", "~"].contains o then do
        let (e, rest) ← unary n rest
        return (.unary o e, rest)
      else none
    | [] => none

end

/-- Read an expression; an empty one is zero. -/
def parse (cs : List Char) : Option Expr := do
  match ← pieces (cs.length + 1) cs with
  | [] => return .number 0
  | ps =>
    match ← expression (20 * ps.length + 20) ps with
    | (e, []) => return e
    | _ => none

/-- A truth value as a number. -/
def truth (b : Bool) : Int := if b then 1 else 0

/-- The value of a binary operator; division by zero has none. -/
def apply (operator : String) (a b : Int) : Option Int :=
  match operator with
  | "+" => some (a + b)
  | "-" => some (a - b)
  | "*" => some (a * b)
  | "/" => if b == 0 then none else some (a.tdiv b)
  | "%" => if b == 0 then none else some (a.tmod b)
  | "==" => some (truth (a == b))
  | "!=" => some (truth (a != b))
  | "<" => some (truth (a < b))
  | "<=" => some (truth (a ≤ b))
  | ">" => some (truth (a > b))
  | ">=" => some (truth (a ≥ b))
  | "<<" => some (a * Int.pow 2 b.toNat)
  | ">>" => some (a / Int.pow 2 b.toNat)
  | "&" => some (a.toNat &&& b.toNat : Nat)
  | "|" => some (a.toNat ||| b.toNat : Nat)
  | "^" => some (a.toNat ^^^ b.toNat : Nat)
  | _ => none

/-- Variables and their texts. -/
abbrev Variables := List (String × String)

/-- The value of a variable; one that is not set counts as zero. -/
def valueOf (vars : Variables) (name : String) : Int :=
  match (vars.lookup name).map String.toList with
  | some ('-' :: cs) => -(numberOf (cs.takeWhile Char.isAlphanum) : Int)
  | some cs => numberOf ((cs.dropWhile (· == ' ')).takeWhile Char.isAlphanum)
  | none => 0

/-- The value of an expression, with the variables as they are afterwards. -/
def eval (vars : Variables) : Expr → Option (Int × Variables)
  | .number n => some (n, vars)
  | .variable_ x => some (valueOf vars x, vars)
  | .unary o e => do
    let (v, vars) ← eval vars e
    return (match o with
      | "-" => -v
      | "!" => truth (v == 0)
      | "~" => -v - 1
      | _ => v, vars)
  | .binary "&&" a b => do
    let (v, vars) ← eval vars a
    if v == 0 then return (0, vars)
    let (w, vars) ← eval vars b
    return (truth (w != 0), vars)
  | .binary "||" a b => do
    let (v, vars) ← eval vars a
    if v != 0 then return (1, vars)
    let (w, vars) ← eval vars b
    return (truth (w != 0), vars)
  | .binary o a b => do
    let (v, vars) ← eval vars a
    let (w, vars) ← eval vars b
    return (← apply o v w, vars)
  | .conditional c a b => do
    let (v, vars) ← eval vars c
    if v != 0 then eval vars a else eval vars b
  | .assign x o e => do
    let (w, vars) ← eval vars e
    let v ← if o.isEmpty then some w else apply o (valueOf vars x) w
    return (v, (x, toString v) :: vars.filter (·.1 != x))

end Proctor.Machine.Arithmetic
