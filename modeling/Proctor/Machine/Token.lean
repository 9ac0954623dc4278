import Proctor.Machine.Script

/-!
# Tokens of scripts

A text is cut into operators, words and line ends. Quotes are taken off here, and
every part of a word remembers whether it was quoted.
-/

namespace Proctor.Machine

/-- A token. -/
inductive Token where
  | word (parts : Word)
  | operator (s : String)
  /-- The number of a descriptor, right before a redirection. -/
  | descriptor (n : Nat)
  | newline
  deriving DecidableEq, Repr

/-- A token and the line it stands on. -/
structure Lexeme where
  token : Token
  line : Nat
  deriving DecidableEq, Repr

/-- What is wrong with a script, and on which line. -/
structure ScriptFault where
  line : Nat
  message : String
  deriving DecidableEq, Repr

namespace Token

/-- Does the character end a word? -/
def isMeta (c : Char) : Bool :=
  " \t\n;&|<>()".toList.contains c

/-- Can a name begin with the character? -/
def isNameStart (c : Char) : Bool := c.isAlpha || c == '_'

/-- Can a name go on with the character? -/
def isNameChar (c : Char) : Bool := c.isAlphanum || c == '_'

/-- Does the character stand for a special parameter? -/
def isSpecial (c : Char) : Bool := "?$!#@*-".toList.contains c

/-- The text up to a closing quote, and what follows it. -/
def untilQuote (quote : Char) (done : List Char) : List Char → Option (List Char × List Char)
  | [] => none
  | c :: rest => if c == quote then some (done.reverse, rest) else untilQuote quote (c :: done) rest

/-- The text of double quotes up to their end, as it stands. -/
def untilDoubleQuote (done : List Char) : List Char → Option (List Char × List Char)
  | [] => none
  | '\\' :: c :: rest => untilDoubleQuote (c :: '\\' :: done) rest
  | '"' :: rest => some (done.reverse, rest)
  | c :: rest => untilDoubleQuote (c :: done) rest

/-- The text up to the closing bracket that belongs to an opening one, and what
follows it. Brackets inside quotes do not count. The first argument bounds the number
of steps. -/
def balanced (opening closing : Char) :
    Nat → Nat → List Char → List Char → Option (List Char × List Char)
  | 0, _, _, _ => none
  | _, _, _, [] => none
  | n + 1, depth, done, '\\' :: c :: rest =>
    balanced opening closing n depth (c :: '\\' :: done) rest
  | n + 1, depth, done, '\'' :: rest =>
    match untilQuote '\'' [] rest with
    | some (inside, rest) =>
      balanced opening closing n depth ('\'' :: (inside.reverse ++ '\'' :: done)) rest
    | none => none
  | n + 1, depth, done, '"' :: rest =>
    match untilDoubleQuote [] rest with
    | some (inside, rest) =>
      balanced opening closing n depth ('"' :: (inside.reverse ++ '"' :: done)) rest
    | none => none
  | n + 1, depth, done, c :: rest =>
    if c == closing then
      match depth with
      | 0 => some (done.reverse, rest)
      | d + 1 => balanced opening closing n d (c :: done) rest
    else balanced opening closing n (if c == opening then depth + 1 else depth) (c :: done) rest

/-- The text up to the bracket that closes one which has just been opened. -/
def inBrackets (opening closing : Char) (cs : List Char) : Option (List Char × List Char) :=
  balanced opening closing (cs.length + 1) 0 [] cs

/-- The operators that can follow a parameter, the longer ones first. -/
def parameterOperators : List String :=
  [":-", ":=", ":+", ":?", "##", "%%", "-", "=", "+", "?", "#", "%"]

/-- The name a text begins with, which may be that of a special parameter. -/
def parameterName (cs : List Char) : List Char × List Char :=
  match cs with
  | c :: rest =>
    if isNameStart c then (cs.takeWhile isNameChar, cs.dropWhile isNameChar)
    else if c.isDigit then (cs.takeWhile Char.isDigit, cs.dropWhile Char.isDigit)
    else if isSpecial c then ([c], rest)
    else ([], cs)
  | [] => ([], [])

/-- The parameter that stands between braces. -/
def bracedParameter? (inside : List Char) (quoted : Bool) : Option Part :=
  match inside with
  | '#' :: c :: rest =>
    let (name, after) := parameterName (c :: rest)
    if after.isEmpty && !name.isEmpty then some (.length name quoted) else none
  | inside =>
    let (name, after) := parameterName inside
    if name.isEmpty then none
    else if after.isEmpty then some (.parameter name none quoted)
    else
      match parameterOperators.find? fun o => o.toList.isPrefixOf after with
      | some o => some (.parameter name (some (o.toList, after.drop o.length)) quoted)
      | none => none

/-- What a dollar sign begins: a part and what follows it. Where it begins nothing it
stands for itself. -/
def dollar (cs : List Char) (quoted : Bool) : Option (Part × List Char) :=
  match cs with
  | '(' :: '(' :: rest =>
    match inBrackets '(' ')' rest with
    | some (inside, ')' :: rest) => some (.arithmetic inside quoted, rest)
    | _ => (inBrackets '(' ')' ('(' :: rest)).map fun r => (.output r.1 quoted, r.2)
  | '(' :: rest => (inBrackets '(' ')' rest).map fun r => (.output r.1 quoted, r.2)
  | '\x7b' :: rest =>
    match inBrackets '\x7b' '\x7d' rest with
    | some (inside, rest) => (bracedParameter? inside quoted).map fun p => (p, rest)
    | none => none
  | c :: rest =>
    if isNameStart c then
      some (.parameter (cs.takeWhile isNameChar) none quoted, cs.dropWhile isNameChar)
    else if c.isDigit || isSpecial c then some (.parameter [c] none quoted, rest)
    else none
  | [] => none

/-- The script between backquotes, in which a backslash quotes itself, a dollar sign
and a backquote. -/
def unquoteBackquoted : List Char → List Char
  | '\\' :: c :: rest =>
    if c == '\\' || c == '\x60' || c == '$' then c :: unquoteBackquoted rest
    else '\\' :: c :: unquoteBackquoted rest
  | c :: rest => c :: unquoteBackquoted rest
  | [] => []

/-- The text up to a closing backquote, and what follows it. -/
def untilBackquote (done : List Char) : List Char → Option (List Char × List Char)
  | [] => none
  | '\\' :: c :: rest => untilBackquote (c :: '\\' :: done) rest
  | '\x60' :: rest => some (done.reverse, rest)
  | c :: rest => untilBackquote (c :: done) rest

/-- A word with one more character, which joins a text before it of the same kind.
Words are built from their ends. -/
def pushChar (c : Char) (quoted : Bool) : Word → Word
  | .text s q :: rest =>
    if q == quoted then .text (s ++ [c]) q :: rest else .text [c] quoted :: .text s q :: rest
  | parts => .text [c] quoted :: parts

/-- The parts of a quoted text, in reverse after those there are. Without a closing
quote the text goes on to the end. The first argument bounds the number of steps. -/
def quotedParts (closing : Option Char) : Nat → Word → List Char → Option (Word × List Char)
  | 0, _, _ => none
  | _, done, [] => if closing.isNone then some (done, []) else none
  | n + 1, done, c :: rest =>
    if some c == closing then some (done, rest)
    else match c, rest with
      | '\\', '\n' :: rest => quotedParts closing n done rest
      | '\\', d :: rest =>
        if d == '$' || d == '\x60' || d == '\\' || (d == '"' && closing.isSome) then
          quotedParts closing n (pushChar d true done) rest
        else quotedParts closing n (pushChar d true (pushChar '\\' true done)) rest
      | '\x60', rest =>
        match untilBackquote [] rest with
        | some (inside, rest) =>
          quotedParts closing n (.output (unquoteBackquoted inside) true :: done) rest
        | none => none
      | '$', rest =>
        match dollar rest true with
        | some (part, rest) => quotedParts closing n (part :: done) rest
        | none => quotedParts closing n (pushChar '$' true done) rest
      | c, rest => quotedParts closing n (pushChar c true done) rest

/-- The parts of a text that counts as quoted as a whole. -/
def quotedWord (cs : List Char) : Word :=
  match quotedParts none (cs.length + 1) [] cs with
  | some (parts, _) => parts.reverse
  | none => [.text cs true]

/-- A word, in reverse after the parts there are, and what follows it. The first
argument bounds the number of steps. -/
def wordFrom : Nat → Word → List Char → Option (Word × List Char)
  | 0, _, _ => none
  | _, done, [] => some (done, [])
  | n + 1, done, c :: rest =>
    if isMeta c then some (done, c :: rest)
    else match c, rest with
      | '\\', '\n' :: rest => wordFrom n done rest
      | '\\', d :: rest => wordFrom n (.text [d] true :: done) rest
      | '\'', rest =>
        match untilQuote '\'' [] rest with
        | some (inside, rest) => wordFrom n (.text inside true :: done) rest
        | none => none
      | '"', rest =>
        match quotedParts (some '"') (rest.length + 1) [.text [] true] rest with
        | some (parts, rest) => wordFrom n (parts ++ done) rest
        | none => none
      | '\x60', rest =>
        match untilBackquote [] rest with
        | some (inside, rest) => wordFrom n (.output (unquoteBackquoted inside) false :: done) rest
        | none => none
      | '$', rest =>
        match dollar rest false with
        | some (part, rest) => wordFrom n (part :: done) rest
        | none => wordFrom n (pushChar '$' false done) rest
      | c, rest => wordFrom n (pushChar c false done) rest

/-- A word and what follows it. -/
def readWord (cs : List Char) : Option (Word × List Char) :=
  (wordFrom (cs.length + 1) [] cs).map fun r => (r.1.reverse, r.2)

/-- The parts of a whole text, blanks and all, outside quotes. -/
def openWordFrom : Nat → Word → List Char → Word
  | 0, done, _ => done.reverse
  | n + 1, done, cs =>
    match wordFrom (cs.length + 1) done cs with
    | some (done, c :: rest) => openWordFrom n (pushChar c false done) rest
    | some (done, []) => done.reverse
    | none => done.reverse ++ [.text cs false]

/-- The parts of a whole text, blanks and all, outside quotes. -/
def openWord (cs : List Char) : Word := openWordFrom (cs.length + 1) [] cs

/-- The operators, the longer ones first. -/
def operators : List String :=
  ["<<-", "<<", ">>", "&&", "||", ";;", "<&", ">&", "<>", ">|", ";", "&", "|", "<", ">", "(", ")"]

/-- The text of a word without its quotes, if it has no other parts. -/
def plainText? (w : Word) : Option (List Char) :=
  w.foldr (fun part acc =>
    match part, acc with
    | .text s _, some rest => some (s ++ rest)
    | _, _ => none) (some [])

/-- Is some part of the word quoted? -/
def isQuoted (w : Word) : Bool :=
  w.any fun part =>
    match part with
    | .text _ q => q
    | _ => false

/-- The lines up to one that is the given mark, and what follows it. -/
def hereBody (mark : List Char) (strip : Bool) :
    Nat → List Char → List Char → List Char × List Char
  | 0, done, cs => (done.reverse, cs)
  | _, done, [] => (done.reverse, [])
  | n + 1, done, cs =>
    let line := cs.takeWhile (· != '\n')
    let rest := (cs.drop line.length).drop 1
    let line := if strip then line.dropWhile (· == '\t') else line
    if line == mark then (done.reverse, rest)
    else hereBody mark strip n ('\n' :: (line.reverse ++ done)) rest

/-- A text whose lines are read from the script itself: its parts, and the script
with those lines taken out. -/
def readHere (strip : Bool) (cs : List Char) : Option (Word × List Char) := do
  let (mark, rest) ← readWord (cs.dropWhile fun c => c == ' ' || c == '\t')
  let plain ← plainText? mark
  let sameLine := rest.takeWhile (· != '\n')
  let below := (rest.drop sameLine.length).drop 1
  let (body, after) := hereBody plain strip (below.length + 1) [] below
  let parts := if isQuoted mark then [.text body true] else quotedWord body
  return (parts, sameLine ++ '\n' :: after)

/-- The tokens of a text. The first argument bounds the number of steps. -/
def tokensFrom : Nat → Nat → List Lexeme → List Char → Except ScriptFault (List Lexeme)
  | 0, _, done, _ => .ok done.reverse
  | _, _, done, [] => .ok done.reverse
  | n + 1, line, done, cs@(c :: rest) =>
    let push (t : Token) : List Lexeme := ⟨t, line⟩ :: done
    if c == ' ' || c == '\t' then tokensFrom n line done rest
    else if c == '\n' then tokensFrom n (line + 1) (push .newline) rest
    else if c == '#' then tokensFrom n line done (rest.dropWhile (· != '\n'))
    else if c == '\\' && rest.head? == some '\n' then
      tokensFrom n (line + 1) done (rest.drop 1)
    else
      match operators.find? fun o => o.toList.isPrefixOf cs with
      | some o =>
        let after := cs.drop o.length
        if o == "<<" || o == "<<-" then
          match readHere (o == "<<-") after with
          | some (body, after) =>
            tokensFrom n line (⟨.word body, line⟩ :: ⟨.operator "<<", line⟩ :: done) after
          | none => .error ⟨line, "Unterminated quoted string"⟩
        else tokensFrom n line (push (.operator o)) after
      | none =>
        let digits := cs.takeWhile Char.isDigit
        let next := (cs.drop digits.length).head?
        if !digits.isEmpty && (next == some '<' || next == some '>') then
          tokensFrom n line (push (.descriptor (Nat.ofDigitChars 10 digits 0)))
            (cs.drop digits.length)
        else
          match readWord cs with
          | some (w, rest) =>
            let breaks := ((cs.take (cs.length - rest.length)).filter (· == '\n')).length
            tokensFrom n (line + breaks) (push (.word w)) rest
          | none => .error ⟨line, "Unterminated quoted string"⟩

/-- The tokens of a text. -/
def tokens (cs : List Char) : Except ScriptFault (List Lexeme) :=
  tokensFrom (2 * cs.length + 1) 1 [] cs

end Token

end Proctor.Machine
