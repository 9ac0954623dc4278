import Proctor.Machine.Token

/-!
# The grammar of scripts

Scripts are read from their tokens by recursive descent. Every function takes the
number of steps it may still make; one step for every token is more than enough,
because each rule takes at least one token before it is tried again.
-/

namespace Proctor.Machine

namespace Grammar

/-- The words that end a list of commands. -/
def closers : List String := ["then", "do", "done", "fi", "elif", "else", "esac", "\x7d"]

/-- The text of a word without quotes and without parts other than text. -/
def bareText? : Word → Option (List Char)
  | [.text s false] => some s
  | _ => none

/-- The reserved word that a token is, if it is one. -/
def keyword? (l : Lexeme) : Option String :=
  match l.token with
  | .word w => (bareText? w).map String.ofList
  | _ => none

/-- The line that comes next. -/
def lineOf (ts : List Lexeme) : Nat := (ts.head?.map (·.line)).getD 1

/-- How a token is named when it should not be there. -/
def described (ts : List Lexeme) : String :=
  match ts with
  | [] => "end of file unexpected"
  | l :: _ =>
    match l.token with
    | .newline => "newline unexpected"
    | .operator o => "\"" ++ o ++ "\" unexpected"
    | .descriptor n => "\"" ++ toString n ++ "\" unexpected"
    | .word w =>
      match bareText? w with
      | some s => "\"" ++ String.ofList s ++ "\" unexpected"
      | none => "word unexpected"

/-- The fault of a token that should not be there. -/
def unexpected {α : Type} (ts : List Lexeme) (expected : Option String) :
    Except ScriptFault α :=
  let wish := match expected with
    | some e => " (expecting \"" ++ e ++ "\")"
    | none => ""
  .error ⟨lineOf ts, described ts ++ wish⟩

/-- The tokens after line ends. -/
def skipNewlines (ts : List Lexeme) : List Lexeme := ts.dropWhile fun l => l.token == .newline

/-- Take a reserved word. -/
def expectWord (s : String) (ts : List Lexeme) : Except ScriptFault (Unit × List Lexeme) :=
  match ts with
  | l :: rest => if keyword? l == some s then .ok ((), rest) else unexpected ts (some s)
  | [] => unexpected ts (some s)

/-- Take an operator. -/
def expectOperator (s : String) (ts : List Lexeme) : Except ScriptFault (Unit × List Lexeme) :=
  match ts with
  | l :: rest => if l.token == .operator s then .ok ((), rest) else unexpected ts (some s)
  | [] => unexpected ts (some s)

/-- Does a list of commands end here? -/
def endsList (ts : List Lexeme) : Bool :=
  match ts with
  | [] => true
  | l :: _ =>
    match l.token with
    | .operator o => o == ")" || o == ";;"
    | .word _ => (keyword? l).any closers.contains
    | _ => false

/-- The kind of a redirection, and the descriptor it changes when none is named. -/
def redirectOf? : String → Option (RedirectKind × Nat)
  | "<" => some (.read, 0)
  | "<>" => some (.read, 0)
  | ">" => some (.write, 1)
  | ">|" => some (.write, 1)
  | ">>" => some (.append, 1)
  | "<&" => some (.duplicate, 0)
  | ">&" => some (.duplicate, 1)
  | "<<" => some (.here, 0)
  | _ => none

/-- A redirection, if one comes next. -/
def redirect? (ts : List Lexeme) : Option (Redirect × List Lexeme) :=
  let from_ (n : Option Nat) (ts : List Lexeme) : Option (Redirect × List Lexeme) :=
    match ts with
    | ⟨.operator o, _⟩ :: ⟨.word w, _⟩ :: rest =>
      (redirectOf? o).map fun k => (⟨n.getD k.2, k.1, w⟩, rest)
    | _ => none
  match ts with
  | ⟨.descriptor n, _⟩ :: rest => from_ (some n) rest
  | ts => from_ none ts

/-- The redirections that come next; the first argument bounds their number. -/
def redirects : Nat → List Lexeme → List Redirect × List Lexeme
  | 0, ts => ([], ts)
  | n + 1, ts =>
    match redirect? ts with
    | some (r, rest) =>
      let (more, rest) := redirects n rest
      (r :: more, rest)
    | none => ([], ts)

/-- The assignment that a word is, if it is one. -/
def assignment? (w : Word) : Option (String × Word) :=
  match w with
  | .text s false :: rest =>
    let name := s.takeWhile Token.isNameChar
    match s.drop name.length, name with
    | '=' :: value, c :: _ =>
      if Token.isNameStart c then
        some (String.ofList name, if value.isEmpty then rest else .text value false :: rest)
      else none
    | _, _ => none
  | _ => none

/-- The assignments, words and redirections of a simple command. -/
def simpleFrom (line : Nat) (assignments : List (String × Word)) (words : List Word)
    (redirs : List Redirect) : Nat → List Lexeme → Script × List Lexeme
  | 0, ts => (.simple line assignments.reverse words.reverse redirs.reverse, ts)
  | n + 1, ts =>
    match redirect? ts with
    | some (r, rest) => simpleFrom line assignments words (r :: redirs) n rest
    | none =>
      match ts with
      | ⟨.word w, _⟩ :: rest =>
        match if words.isEmpty then assignment? w else none with
        | some a => simpleFrom line (a :: assignments) words redirs n rest
        | none => simpleFrom line assignments (w :: words) redirs n rest
      | ts => (.simple line assignments.reverse words.reverse redirs.reverse, ts)

/-- A script, or none, before redirections. -/
def withRedirects (s : Script) (ts : List Lexeme) : Script × List Lexeme :=
  match redirects ts.length ts with
  | ([], rest) => (s, rest)
  | (rs, rest) => (.redirected s rs, rest)

/-- The words up to the end of a line or list. -/
def wordsUntilEnd : List Lexeme → List Word × List Lexeme
  | ⟨.word w, _⟩ :: rest =>
    let (ws, rest) := wordsUntilEnd rest
    (w :: ws, rest)
  | ts => ([], ts)

/-- The patterns of an arm, up to its closing bracket. -/
def patterns : List Lexeme → Except ScriptFault (List Word × List Lexeme)
  | ⟨.word w, _⟩ :: ⟨.operator "|", _⟩ :: rest => do
    let (ws, rest) ← patterns rest
    return (w :: ws, rest)
  | ⟨.word w, _⟩ :: ⟨.operator ")", _⟩ :: rest => .ok ([w], rest)
  | ⟨.word _, _⟩ :: ts => unexpected ts (some ")")
  | ts => unexpected ts none

/-- A simple command. -/
def simple (ts : List Lexeme) : Except ScriptFault (Script × List Lexeme) :=
  match simpleFrom (lineOf ts) [] [] [] ts.length ts with
  | (.simple _ [] [] [], _) => unexpected ts none
  | r => .ok r

mutual

/-- Commands up to the end of a list. -/
def list : Nat → List Script → List Lexeme → Except ScriptFault (Script × List Lexeme)
  | 0, _, ts => unexpected ts none
  | n + 1, done, ts =>
    let ts := skipNewlines ts
    if endsList ts then .ok (.sequence done.reverse, ts)
    else do
      let (command, rest) ← andOr n ts
      match rest with
      | ⟨.operator ";", _⟩ :: rest => list n (command :: done) rest
      | ⟨.operator "&", _⟩ :: rest => list n (.background command :: done) rest
      | ⟨.newline, _⟩ :: rest => list n (command :: done) rest
      | rest =>
        if endsList rest then .ok (.sequence (command :: done).reverse, rest)
        else unexpected rest none

/-- Commands that are not empty, up to the end of a list. -/
def listOfSome : Nat → List Lexeme → Except ScriptFault (Script × List Lexeme)
  | 0, ts => unexpected ts none
  | n + 1, ts =>
    if endsList (skipNewlines ts) then unexpected (skipNewlines ts) none else list n [] ts

/-- Pipelines joined by their success or failure. -/
def andOr : Nat → List Lexeme → Except ScriptFault (Script × List Lexeme)
  | 0, ts => unexpected ts none
  | n + 1, ts => do
    let (first, rest) ← pipeline n ts
    andOrFrom n first rest

/-- More pipelines after a first one. -/
def andOrFrom : Nat → Script → List Lexeme → Except ScriptFault (Script × List Lexeme)
  | 0, _, ts => unexpected ts none
  | n + 1, first, ts =>
    match ts with
    | ⟨.operator "&&", _⟩ :: rest => do
      let (second, rest) ← pipeline n (skipNewlines rest)
      andOrFrom n (.both first second) rest
    | ⟨.operator "||", _⟩ :: rest => do
      let (second, rest) ← pipeline n (skipNewlines rest)
      andOrFrom n (.either first second) rest
    | ts => .ok (first, ts)

/-- Commands joined by pipes. -/
def pipeline : Nat → List Lexeme → Except ScriptFault (Script × List Lexeme)
  | 0, ts => unexpected ts none
  | n + 1, ts => do
    let negated := (ts.head?.bind keyword?) == some "!"
    let (first, rest) ← command n (if negated then ts.drop 1 else ts)
    let (stages, rest) ← stagesFrom n [first] rest
    match negated, stages with
    | false, [only] => return (only, rest)
    | negated, stages => return (.pipeline negated stages, rest)

/-- More commands after a first one. -/
def stagesFrom :
    Nat → List Script → List Lexeme → Except ScriptFault (List Script × List Lexeme)
  | 0, _, ts => unexpected ts none
  | n + 1, done, ts =>
    match ts with
    | ⟨.operator "|", _⟩ :: rest => do
      let (next, rest) ← command n (skipNewlines rest)
      stagesFrom n (next :: done) rest
    | ts => .ok (done.reverse, ts)

/-- One command. -/
def command : Nat → List Lexeme → Except ScriptFault (Script × List Lexeme)
  | 0, ts => unexpected ts none
  | n + 1, ts =>
    match ts with
    | ⟨.operator "(", _⟩ :: rest => do
      let (body, rest) ← listOfSome n rest
      let ((), rest) ← expectOperator ")" rest
      return withRedirects (.subshell body) rest
    | ⟨.word w, _⟩ :: ⟨.operator "(", _⟩ :: ⟨.operator ")", _⟩ :: rest => do
      let (body, rest) ← command n (skipNewlines rest)
      return (.function (String.ofList ((bareText? w).getD [])) body, rest)
    | l :: rest =>
      match keyword? l with
      | some "\x7b" => do
        let (body, rest) ← listOfSome n rest
        let ((), rest) ← expectWord "\x7d" rest
        return withRedirects body rest
      | some "if" => do
        let (s, rest) ← branch n rest
        return withRedirects s rest
      | some "while" => do
        let (s, rest) ← loop n false rest
        return withRedirects s rest
      | some "until" => do
        let (s, rest) ← loop n true rest
        return withRedirects s rest
      | some "for" => do
        let (s, rest) ← each n rest
        return withRedirects s rest
      | some "case" => do
        let (s, rest) ← choice n rest
        return withRedirects s rest
      | some k => if closers.contains k then unexpected ts none else simple ts
      | none => simple ts
    | [] => unexpected ts none

/-- What stands between the beginning of a branch and its end. -/
def branch : Nat → List Lexeme → Except ScriptFault (Script × List Lexeme)
  | 0, ts => unexpected ts none
  | n + 1, ts => do
    let (condition, rest) ← listOfSome n ts
    let ((), rest) ← expectWord "then" rest
    let (yes, rest) ← listOfSome n rest
    match rest.head?.bind keyword? with
    | some "elif" =>
      let (no, rest) ← branch n (rest.drop 1)
      return (.branch condition yes no, rest)
    | some "else" =>
      let (no, rest) ← listOfSome n (rest.drop 1)
      let ((), rest) ← expectWord "fi" rest
      return (.branch condition yes no, rest)
    | _ =>
      let ((), rest) ← expectWord "fi" rest
      return (.branch condition yes .nothing, rest)

/-- What stands after the beginning of a loop. -/
def loop : Nat → Bool → List Lexeme → Except ScriptFault (Script × List Lexeme)
  | 0, _, ts => unexpected ts none
  | n + 1, negated, ts => do
    let (condition, rest) ← listOfSome n ts
    let (body, rest) ← doneBody n rest
    return (.loop negated condition body, rest)

/-- The body of a loop. -/
def doneBody : Nat → List Lexeme → Except ScriptFault (Script × List Lexeme)
  | 0, ts => unexpected ts none
  | n + 1, ts => do
    let ((), rest) ← expectWord "do" ts
    let (body, rest) ← listOfSome n rest
    let ((), rest) ← expectWord "done" rest
    return (body, rest)

/-- What stands after the beginning of a loop over words. -/
def each : Nat → List Lexeme → Except ScriptFault (Script × List Lexeme)
  | 0, ts => unexpected ts none
  | n + 1, ts =>
    match ts with
    | ⟨.word w, _⟩ :: rest => do
      let name := String.ofList ((bareText? w).getD [])
      let rest := skipNewlines rest
      if (rest.head?.bind keyword?) == some "in" then
        let (ws, rest) := wordsUntilEnd (rest.drop 1)
        let rest := match rest with
          | ⟨.operator ";", _⟩ :: rest => skipNewlines rest
          | rest => skipNewlines rest
        let (body, rest) ← doneBody n rest
        return (.each name (some ws) body, rest)
      else
        let rest := match rest with
          | ⟨.operator ";", _⟩ :: rest => skipNewlines rest
          | rest => rest
        let (body, rest) ← doneBody n rest
        return (.each name none body, rest)
    | ts => unexpected ts none

/-- What stands after the beginning of a choice. -/
def choice : Nat → List Lexeme → Except ScriptFault (Script × List Lexeme)
  | 0, ts => unexpected ts none
  | n + 1, ts =>
    match ts with
    | ⟨.word w, _⟩ :: rest => do
      let ((), rest) ← expectWord "in" (skipNewlines rest)
      let (arms, rest) ← armsFrom n [] (skipNewlines rest)
      return (.choice w arms, rest)
    | ts => unexpected ts none

/-- The arms of a choice. -/
def armsFrom : Nat → List (List Word × Script) → List Lexeme →
    Except ScriptFault (List (List Word × Script) × List Lexeme)
  | 0, _, ts => unexpected ts none
  | n + 1, done, ts =>
    if (ts.head?.bind keyword?) == some "esac" then .ok (done.reverse, ts.drop 1)
    else do
      let opened := match ts with
        | ⟨.operator "(", _⟩ :: rest => rest
        | ts => ts
      let (ps, rest) ← patterns opened
      let (body, rest) ← list n [] rest
      match rest with
      | ⟨.operator ";;", _⟩ :: rest => armsFrom n ((ps, body) :: done) (skipNewlines rest)
      | rest =>
        let ((), rest) ← expectWord "esac" rest
        return (((ps, body) :: done).reverse, rest)

end

end Grammar

/-- Read a script. -/
def Script.parse (cs : List Char) : Except ScriptFault Script := do
  let ts ← Token.tokens cs
  match ← Grammar.list (8 * ts.length + 8) [] ts with
  | (script, []) => return script
  | (_, rest) => Grammar.unexpected rest none

end Proctor.Machine
