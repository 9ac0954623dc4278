import Proctor.Pattern.Syntax
import Proctor.Text.CharName

/-!
# Reading expressions

An expression is read in one pass over its tokens: a character, or a backslash
with the character after it. The reader keeps the options in force, the groups
opened so far with the width of each finished one, and the names of groups.
Recursion is bounded by the number of tokens; `Syntax.parse` supplies the bound.
-/

namespace Proctor.Pattern

/-- Why a text is no expression. -/
inductive Malformed where
  /-- It breaks the rules of the notation. -/
  | illFormed
  /-- It asks for more rounds than can be counted. -/
  | tooManyRounds
  /-- It has a number of rounds of so many digits that it is not read. -/
  | longNumber (digits : Nat)
  /-- It asks for the plain and the full alphabet at once. -/
  | conflictingAlphabets
  deriving DecidableEq, Repr

/-- A character of an expression, with or without a backslash before it. -/
inductive Token where
  | plain (c : Char)
  | escaped (c : Char)
  deriving DecidableEq, Repr

/-- The tokens of a text; a lone backslash at its end belongs to none. -/
def tokens : List Char → Option (List Token)
  | [] => some []
  | ['\\'] => none
  | '\\' :: c :: rest => (tokens rest).map (.escaped c :: ·)
  | c :: rest => (tokens rest).map (.plain c :: ·)

/-- The options an expression can switch on. -/
structure Options where
  ignoreCase : Bool := false
  multiline : Bool := false
  dotAll : Bool := false
  verbose : Bool := false
  /-- Classes know the plain alphabet only. -/
  plain : Bool := false
  /-- Classes know every alphabet, asked for by name. -/
  full : Bool := false
  deriving DecidableEq, Repr

/-- The least and the greatest number of characters a part takes; no greatest
number when there is no bound. -/
structure Width where
  least : Nat
  most : Option Nat
  deriving DecidableEq, Repr

namespace Width

/-- One part after the other. -/
def add (a b : Width) : Width :=
  ⟨a.least + b.least, do return (← a.most) + (← b.most)⟩

/-- Either part. -/
def join (a b : Width) : Width :=
  ⟨min a.least b.least, do return max (← a.most) (← b.most)⟩

/-- Rounds of a part. -/
def repeated (a : Width) (least : Nat) (most : Option Nat) : Width :=
  ⟨a.least * least,
    match a.most, most with
    | some 0, _ => some 0
    | _, some 0 => some 0
    | some m, some n => some (m * n)
    | _, _ => none⟩

end Width

/-- The width of an expression, given that of each finished group. -/
def Syntax.width (group : Nat → Width) : Syntax → Width
  | .empty | .anchor _ | .ahead .. | .behind .. => ⟨0, some 0⟩
  | .one _ => ⟨1, some 1⟩
  | .seq a b => (a.width group).add (b.width group)
  | .alt a b => (a.width group).join (b.width group)
  | .group a | .capture _ a | .atomic a => a.width group
  | .again i _ _ => group i
  | .run _ least most _ => Width.repeated ⟨1, some 1⟩ least most
  | .times _ least most a => (a.width group).repeated least most
  | .ifCaptured _ yes no => (yes.width group).join (no.width group)

/-- What the reader keeps. -/
structure Reader where
  rest : List Token
  /-- The options of the whole expression. -/
  options : Options
  /-- The groups in order of opening; an unfinished one has no width. -/
  groups : List (Option Width)
  names : List (String × Nat)
  /-- Inside a look behind: the number of groups before it. -/
  behindFrom : Option Nat
  /-- The group numbers that conditions ask about. -/
  asked : List Nat

/-- A step of the reader. -/
abbrev Read := StateT Reader (Except Malformed)

namespace Reader

/-- Give up. -/
def illFormed {α : Type} : Read α := throw .illFormed

/-- The next token. -/
def peek : Read (Option Token) := do return (← get).rest.head?

/-- Take the next token. -/
def take : Read (Option Token) := do
  let r ← get
  match r.rest with
  | [] => return none
  | t :: rest =>
    set { r with rest }
    return some t

/-- Take the next token if it is the given character. -/
def eat (c : Char) : Read Bool := do
  if (← peek) == some (.plain c) then
    let _ ← take
    return true
  else
    return false

/-- Take a character that must come next. -/
def expect (c : Char) : Read Unit := do
  unless ← eat c do illFormed

/-- Leading plain characters of a class, at most `limit` of them. -/
def leading (p : Char → Bool) : Nat → List Token → List Char
  | n + 1, .plain c :: rest => if p c then c :: leading p n rest else []
  | _, _ => []

/-- Take plain characters of a class, at most `limit` of them. -/
def takeWhile (limit : Nat) (p : Char → Bool) : Read (List Char) := do
  let r ← get
  let cs := leading p limit r.rest
  set { r with rest := r.rest.drop cs.length }
  return cs

/-- The plain characters before the first occurrence of `stop`. -/
def before (stop : Char) : List Token → Option (List Char)
  | .plain c :: rest => if c == stop then some [] else (before stop rest).map (c :: ·)
  | _ => none

/-- A nonempty name, and the character that ends it. -/
def name (stop : Char) : Read (List Char) := do
  let r ← get
  match before stop r.rest with
  | some (c :: cs) =>
    set { r with rest := r.rest.drop (cs.length + 2) }
    return c :: cs
  | _ => illFormed

/-- The width of a finished group. -/
def groupWidth (r : Reader) (i : Nat) : Width :=
  match r.groups[i - 1]? with
  | some (some w) => w
  | _ => ⟨0, some 0⟩

/-- May the expression refer to the group here? It must be finished, and not be
part of a look behind that is still being read. -/
def checkBehind (i : Nat) : Read Unit := do
  let r ← get
  match r.behindFrom with
  | none => return ()
  | some first =>
    match r.groups[i - 1]? with
    | some (some _) => if i > first then illFormed else return ()
    | _ => illFormed

/-- A reference to a group by number. -/
def reference (o : Options) (i : Nat) : Read Syntax := do
  match (← get).groups[i - 1]? with
  | some (some _) =>
    checkBehind i
    return .again i o.ignoreCase o.plain
  | _ => illFormed

/-- Open a group. -/
def openGroup (name : Option String) : Read Nat := do
  let r ← get
  let i := r.groups.length + 1
  match name with
  | none => set { r with groups := r.groups ++ [none] }
  | some n =>
    if (r.names.lookup n).isSome then illFormed
    set { r with groups := r.groups ++ [none], names := (n, i) :: r.names }
  return i

/-- Close a group. -/
def closeGroup (i : Nat) (body : Syntax) : Read Unit := do
  let r ← get
  let w := body.width r.groupWidth
  set { r with groups := r.groups.set (i - 1) (some w) }

end Reader

open Reader

/-- A class of one character. -/
def single (o : Options) (m : Member) : CharClass :=
  ⟨false, [m], o.ignoreCase, o.plain⟩

/-- The member for a code point; one that is no character admits nothing. -/
def codeMember (n : Nat) : Member :=
  if n.isValidChar then .char (Char.ofNat n) else .range n n

/-- The value of a hexadecimal digit. -/
def hexValue? (c : Char) : Option Nat :=
  if c.isDigit then some (c.toNat - 48)
  else if 'a' ≤ c ∧ c ≤ 'f' then some (c.toNat - 87)
  else if 'A' ≤ c ∧ c ≤ 'F' then some (c.toNat - 55)
  else none

/-- The number written by digits of a base. -/
def numberIn (base : Nat) (cs : List Char) : Nat :=
  cs.foldl (fun n c => base * n + (hexValue? c).getD 0) 0

/-- Is the character an octal digit? -/
def isOctal (c : Char) : Bool := '0' ≤ c && c ≤ '7'

/-- A code point in exactly `n` hexadecimal digits. -/
def hexCode (n : Nat) : Read Nat := do
  let cs ← Reader.takeWhile n fun c => (hexValue? c).isSome
  if cs.length != n then illFormed
  let code := numberIn 16 cs
  if code > 0x10ffff then illFormed
  return code

/-- The escapes that mean one code point wherever they stand. -/
def simpleEscape? : Char → Option Nat
  | 'a' => some 7
  | 'f' => some 12
  | 'n' => some 10
  | 'r' => some 13
  | 't' => some 9
  | 'v' => some 11
  | '\\' => some 92
  | _ => none

/-- The escapes that mean a named class. -/
def kindEscape? : Char → Option Member
  | 'd' => some (.kind .digit true)
  | 'D' => some (.kind .digit false)
  | 's' => some (.kind .space true)
  | 'S' => some (.kind .space false)
  | 'w' => some (.kind .word true)
  | 'W' => some (.kind .word false)
  | _ => none

/-- The escapes that spell a code point out, but for octal ones; `none` for any
other escape. -/
def spelledEscape (c : Char) : Read (Option Nat) := do
  match c with
  | 'x' => return some (← hexCode 2)
  | 'u' => return some (← hexCode 4)
  | 'U' => return some (← hexCode 8)
  | 'N' =>
    expect '\x7b'
    match Text.characterNamed? (String.ofList (← name '\x7d')) with
    | some x => return some x.toNat
    | none => illFormed
  | _ => return simpleEscape? c

/-- An escape that stands for itself, unless it is a plain letter. -/
def literalEscape (c : Char) : Read Member :=
  if c.isAlpha then illFormed else return .char c

/-- An escape inside a class. -/
def classEscape (c : Char) : Read Member := do
  if let some m := kindEscape? c then return m
  if c == 'b' then return .char '\x08'
  if let some n ← spelledEscape c then return codeMember n
  if c.isDigit then
    unless isOctal c do illFormed
    let more ← Reader.takeWhile 2 isOctal
    let n := numberIn 8 (c :: more)
    if n > 255 then illFormed
    return codeMember n
  literalEscape c

/-- A decimal escape: a character in octal, or a group by number. -/
def digitEscape (o : Options) (c : Char) : Read Syntax := do
  if c == '0' then
    let more ← Reader.takeWhile 2 isOctal
    return .one (single o (codeMember (numberIn 8 more)))
  match ← Reader.takeWhile 1 Char.isDigit with
  | [d] =>
    if isOctal c && isOctal d then
      match ← Reader.takeWhile 1 isOctal with
      | [e] =>
        let n := numberIn 8 [c, d, e]
        if n > 255 then illFormed
        return .one (single o (codeMember n))
      | _ => reference o (numberIn 10 [c, d])
    else reference o (numberIn 10 [c, d])
  | _ => reference o (numberIn 10 [c])

/-- An escape outside a class. -/
def escape (o : Options) (c : Char) : Read Syntax := do
  match c with
  | 'A' => return .anchor .textStart
  | 'Z' => return .anchor .textEnd
  | 'b' => return .anchor (.wordEdge o.plain true)
  | 'B' => return .anchor (.wordEdge o.plain false)
  | _ =>
    if let some m := kindEscape? c then return .one (single o m)
    if let some n ← spelledEscape c then return .one (single o (codeMember n))
    if c.isDigit then digitEscape o c
    else return .one (single o (← literalEscape c))

/-- A token inside a class. -/
def classToken : Token → Read Member
  | .plain c => return .char c
  | .escaped c => classEscape c

/-- The end of a range must be one code point. -/
def rangeEnd : Member → Read Nat
  | .char c => return c.toNat
  | .range low high => if low == high then return low else illFormed
  | .kind .. => illFormed

/-- The members of a class up to its closing bracket; `found` holds those read so
far in reverse. A bracket that comes first stands for itself. -/
def classMembers : Nat → List Member → Read (List Member)
  | 0, _ => illFormed
  | fuel + 1, found => do
    match ← take with
    | none => illFormed
    | some t =>
      if t == .plain ']' && !found.isEmpty then return found.reverse
      let first ← classToken t
      if ← eat '-' then
        match ← take with
        | none => illFormed
        | some u =>
          if u == .plain ']' then return (.char '-' :: first :: found).reverse
          let last ← classToken u
          let low ← rangeEnd first
          let high ← rangeEnd last
          if high < low then illFormed
          classMembers fuel (.range low high :: found)
      else classMembers fuel (first :: found)

/-- A class, after its opening bracket. -/
def charClass (o : Options) : Read Syntax := do
  let negated ← eat '^'
  let members ← classMembers ((← get).rest.length + 1) []
  return .one ⟨negated, members, o.ignoreCase, o.plain⟩

/-- The number of rounds that can be counted. -/
def maxRounds : Nat := 4294967295

/-- A number of rounds. -/
def rounds? (cs : List Char) : Read (Option Nat) := do
  if cs.isEmpty then return none
  if cs.length > Text.maxDigits then throw (.longNumber cs.length)
  let n := numberIn 10 cs
  if n ≥ maxRounds then throw .tooManyRounds
  return some n

/-- The bounds of a counted repetition, after its opening brace; `none` when the
brace turns out to stand for itself. -/
def braces : Read (Option (Nat × Option Nat)) := do
  let start ← get
  if (← peek) == some (.plain '\x7d') then return none
  let low ← Reader.takeWhile start.rest.length Char.isDigit
  let high ←
    if ← eat ',' then Reader.takeWhile start.rest.length Char.isDigit else pure low
  if ← eat '\x7d' then
    let least := (← rounds? low).getD 0
    let most ← rounds? high
    if let some m := most then
      if m < least then illFormed
    return some (least, most)
  else
    set start
    return none

/-- The least and greatest number of rounds a sign asks for. -/
def quantifier? (c : Char) : Read (Option (Nat × Option Nat)) := do
  match c with
  | '*' => return some (0, none)
  | '+' => return some (1, none)
  | '?' => return some (0, some 1)
  | '\x7b' => braces
  | _ => return none

/-- How the rounds are to be chosen, by the sign after their number. -/
def greed : Read Greed := do
  if ← eat '?' then return .reluctant
  if ← eat '+' then return .possessive
  return .greedy

/-- Repeat the part read last; an anchor or a repetition cannot be repeated. -/
def repeatLast (bounds : Nat × Option Nat) : List Syntax → Read (List Syntax)
  | [] | .anchor _ :: _ | .run .. :: _ | .times .. :: _ => illFormed
  | a :: done => do
    match a, ← greed with
    | .one s, g => return .run g bounds.1 bounds.2 s :: done
    | _, g => return .times g bounds.1 bounds.2 a :: done

/-- The letters of the options. -/
def isOptionLetter (c : Char) : Bool :=
  ['i', 'L', 'm', 's', 'x', 'a', 't', 'u'].contains c

/-- Switch on what a letter stands for. -/
def Options.switchOn (o : Options) : Char → Options
  | 'i' => { o with ignoreCase := true }
  | 'm' => { o with multiline := true }
  | 's' => { o with dotAll := true }
  | 'x' => { o with verbose := true }
  | 'a' => { o with plain := true }
  | 'u' => { o with full := true }
  | _ => o

/-- Switch off what a letter stands for. -/
def Options.switchOff (o : Options) : Char → Options
  | 'i' => { o with ignoreCase := false }
  | 'm' => { o with multiline := false }
  | 's' => { o with dotAll := false }
  | 'x' => { o with verbose := false }
  | _ => o

/-- Option letters up to a character that is none: the letters, and that character. -/
def optionLetters : Nat → List Char → Read (List Char × Char)
  | 0, _ => illFormed
  | fuel + 1, found => do
    match ← take with
    | some (.plain c) =>
      if isOptionLetter c then optionLetters fuel (found ++ [c]) else return (found, c)
    | _ => illFormed

/-- The letters that an expression cannot hold at once, or at all. -/
def checkSwitchedOn (on : List Char) : Read Unit :=
  if on.contains 'L' || (on.contains 'a' && on.contains 'u') then illFormed else return ()

/-- What stands between `(?` and the body of a group of options. -/
inductive OptionGroup where
  /-- Options for the whole expression. -/
  | whole (on : List Char)
  /-- Options for one part. -/
  | part (on off : List Char)

/-- Options, the first of whose characters is given. -/
def optionGroup (c : Char) : Read OptionGroup := do
  let fuel := (← get).rest.length + 2
  let (on, stop) ←
    if c == '-' then pure ([], '-') else optionLetters fuel [c]
  checkSwitchedOn on
  match stop with
  | ')' => return .whole on
  | ':' =>
    if on.contains 't' then illFormed
    return .part on []
  | '-' =>
    if on.contains 't' then illFormed
    let (off, stop) ← optionLetters fuel []
    if stop != ':' || off.isEmpty then illFormed
    if off.any fun x => ['a', 'u', 'L', 't'].contains x || on.contains x then illFormed
    return .part on off
  | _ => illFormed

/-- Options switched on and off for one part. -/
def Options.adjust (o : Options) (on off : List Char) : Options :=
  let base := if on.contains 'a' || on.contains 'u' then
    { o with plain := false, full := false } else o
  off.foldl Options.switchOff (on.foldl Options.switchOn base)

/-- Can the text name a group? -/
def isGroupName : List Char → Bool
  | [] => false
  | c :: rest => Text.isWordChar c && !Text.isDigitLike c && rest.all Text.isWordChar

/-- Skip a comment, after its opening. -/
def comment : Read Unit := do
  let r ← get
  let rest := r.rest.dropWhile (· != .plain ')')
  if rest.isEmpty then illFormed
  set { r with rest := rest.drop 1 }

/-- Skip to the end of the line. -/
def restOfLine : Read Unit :=
  modify fun r => { r with rest := (r.rest.dropWhile (· != .plain '\n')).drop 1 }

/-- The group a condition asks about. -/
def conditionGroup : Read Nat := do
  let text ← name ')'
  let i ←
    if isGroupName text then
      match (← get).names.lookup (String.ofList text) with
      | some i => pure i
      | none => illFormed
    else
      match Text.parseInt? text with
      | some (Int.ofNat (i + 1)) =>
        modify fun r => { r with asked := (i + 1) :: r.asked }
        pure (i + 1)
      | _ => illFormed
  checkBehind i
  return i

/-- White space that a verbose expression ignores. -/
def isFiller (c : Char) : Bool :=
  c == ' ' || (9 ≤ c.toNat && c.toNat ≤ 13)

mutual

/-- Alternatives. Without options of its own a list of alternatives is outermost
and takes those of the whole expression. -/
def alternatives : Nat → Option Options → Read Syntax
  | 0, _ => illFormed
  | fuel + 1, scope => do
    let first ← sequence fuel scope scope.isNone []
    moreAlternatives fuel scope first

/-- The alternatives after the first. -/
def moreAlternatives : Nat → Option Options → Syntax → Read Syntax
  | 0, _, _ => illFormed
  | fuel + 1, scope, first => do
    if ← eat '|' then
      let next ← sequence fuel scope false []
      return .alt first (← moreAlternatives fuel scope next)
    else
      return first

/-- A sequence of parts; `done` holds those read so far in reverse, and `leading`
says that options for the whole expression may still come. -/
def sequence : Nat → Option Options → Bool → List Syntax → Read Syntax
  | 0, _, _, _ => illFormed
  | fuel + 1, scope, leading, done => do
    let o := scope.getD (← get).options
    match ← peek with
    | none => return .ofList done.reverse
    | some (.plain '|') | some (.plain ')') => return .ofList done.reverse
    | some (.escaped c) =>
      let _ ← take
      sequence fuel scope leading ((← escape o c) :: done)
    | some (.plain c) =>
      let _ ← take
      if o.verbose && isFiller c then sequence fuel scope leading done
      else if o.verbose && c == '#' then
        restOfLine
        sequence fuel scope leading done
      else if let some bounds ← quantifier? c then
        sequence fuel scope leading (← repeatLast bounds done)
      else match c with
        | '[' => sequence fuel scope leading ((← charClass o) :: done)
        | '.' =>
          let s : CharClass := ⟨true, if o.dotAll then [] else [.char '\n'], false, false⟩
          sequence fuel scope leading (.one s :: done)
        | '^' =>
          let a := if o.multiline then Anchor.lineStart else .textStart
          sequence fuel scope leading (.anchor a :: done)
        | '$' =>
          let a := if o.multiline then Anchor.lineEnd else .lastLineEnd
          sequence fuel scope leading (.anchor a :: done)
        | '(' => do
          match ← parenthesis fuel o (leading && done.isEmpty) with
          | some a => sequence fuel scope leading (a :: done)
          | none => sequence fuel scope leading done
        | _ => sequence fuel scope leading (.one (single o (.char c)) :: done)

/-- A part in parentheses, after the opening one; nothing for a comment and for
options of the whole expression. -/
def parenthesis : Nat → Options → Bool → Read (Option Syntax)
  | 0, _, _ => illFormed
  | fuel + 1, o, leading => do
    if !(← eat '?') then
      return some (← captured fuel o none)
    match ← take with
    | some (.plain 'P') =>
      if ← eat '<' then
        let n ← name '>'
        unless isGroupName n do illFormed
        return some (← captured fuel o (some (String.ofList n)))
      else if ← eat '=' then
        let n ← name ')'
        unless isGroupName n do illFormed
        match (← get).names.lookup (String.ofList n) with
        | some i => return some (← reference o i)
        | none => illFormed
      else illFormed
    | some (.plain ':') => return some (.group (← enclosed fuel o))
    | some (.plain '#') =>
      comment
      return none
    | some (.plain '=') => return some (.ahead true (← enclosed fuel o))
    | some (.plain '!') => return some (.ahead false (← enclosed fuel o))
    | some (.plain '<') =>
      match ← take with
      | some (.plain '=') => return some (← behind fuel o true)
      | some (.plain '!') => return some (← behind fuel o false)
      | _ => illFormed
    | some (.plain '(') =>
      let i ← conditionGroup
      let yes ← sequence fuel (some o) false []
      let no ← if ← eat '|' then sequence fuel (some o) false [] else pure .empty
      expect ')'
      return some (.ifCaptured i yes no)
    | some (.plain '>') => return some (.atomic (← enclosed fuel o))
    | some (.plain c) =>
      unless isOptionLetter c || c == '-' do illFormed
      match ← optionGroup c with
      | .whole on =>
        unless leading do illFormed
        modify fun r => { r with options := on.foldl Options.switchOn r.options }
        return none
      | .part on off => return some (.group (← enclosed fuel (o.adjust on off)))
    | _ => illFormed

/-- Alternatives up to a closing parenthesis. -/
def enclosed : Nat → Options → Read Syntax
  | 0, _ => illFormed
  | fuel + 1, o => do
    let body ← alternatives fuel (some o)
    expect ')'
    return body

/-- A group that keeps its text. -/
def captured : Nat → Options → Option String → Read Syntax
  | 0, _, _ => illFormed
  | fuel + 1, o, groupName => do
    let i ← openGroup groupName
    let body ← enclosed fuel o
    closeGroup i body
    return .capture i body

/-- A look behind, whose body must have one width. -/
def behind : Nat → Options → Bool → Read Syntax
  | 0, _, _ => illFormed
  | fuel + 1, o, positive => do
    let outer := (← get).behindFrom
    modify fun r => { r with behindFrom := some (outer.getD r.groups.length) }
    let body ← alternatives fuel (some o)
    modify fun r => { r with behindFrom := outer }
    expect ')'
    let w := body.width (← get).groupWidth
    if w.most != some w.least then illFormed
    return .behind positive w.least body

end

/-- The whole of an expression, with the number of its groups. -/
def wholeExpression (fuel : Nat) : Read (Syntax × Nat) := do
  let e ← alternatives fuel none
  let r ← get
  if r.options.plain && r.options.full then throw .conflictingAlphabets
  unless r.rest.isEmpty do illFormed
  if r.asked.any (· > r.groups.length) then illFormed
  return (e, r.groups.length)

/-- Read a text as an expression: the expression, and the number of its groups. -/
def Syntax.parse (source : String) : Except Malformed (Syntax × Nat) :=
  match tokens source.toList with
  | none => .error .illFormed
  | some ts =>
    ((wholeExpression (4 * ts.length + 8)).run ⟨ts, {}, [], [], none, []⟩).map (·.1)

end Proctor.Pattern
