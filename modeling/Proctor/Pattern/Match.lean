import Proctor.Pattern.Syntax

/-!
# Matching

A backtracking matcher. `Syntax.tryAt` tries an expression at a place and hands
every way of matching it, best first, to what comes after; the first way that lets
the rest succeed wins. It is an ordinary recursion on the expression. The only
measure needed is for rounds of a body that may match nothing: such a body is not
tried again at the place where its last round began, so the number of rounds is
bounded by the text that is left.
-/

namespace Proctor.Pattern

/-- A place in a text: what precedes it (nearest first), how much that is, and
what follows it. -/
structure Place where
  before : List Char
  index : Nat
  after : List Char

namespace Place

/-- The beginning of a text. -/
def start (cs : List Char) : Place := ⟨[], 0, cs⟩

/-- One character further; the end of the text stays where it is. -/
def next (p : Place) : Place :=
  match p.after with
  | [] => p
  | c :: rest => ⟨c :: p.before, p.index + 1, rest⟩

/-- One character back; the beginning of the text stays where it is. -/
def prev (p : Place) : Place :=
  match p.before with
  | [] => p
  | c :: rest => ⟨rest, p.index - 1, c :: p.after⟩

/-- `n` characters back, if there are so many. -/
def back? : Nat → Place → Option Place
  | 0, p => some p
  | n + 1, p => if p.before.isEmpty then none else back? n p.prev

/-- Is the next character in the class? -/
def nextIn (s : CharClass) (p : Place) : Bool :=
  match p.after with
  | [] => false
  | c :: _ => s.holds c

/-- Is the neighbour at the head of the list a word character? -/
def wordAt (plain : Bool) : List Char → Bool
  | [] => false
  | c :: _ => Kind.word.holds plain c

/-- Is this one of the places an anchor asks for? -/
def isAt (p : Place) : Anchor → Bool
  | .textStart => p.before.isEmpty
  | .lineStart => p.before.isEmpty || p.before.head? == some '\n'
  | .textEnd => p.after.isEmpty
  | .lastLineEnd => p.after.isEmpty || p.after == ['\n']
  | .lineEnd => p.after.isEmpty || p.after.head? == some '\n'
  | .wordEdge plain positive =>
    !(p.before.isEmpty && p.after.isEmpty) &&
      ((wordAt plain p.before != wordAt plain p.after) == positive)

/-- As far as characters of the class reach, at most `limit` of them: the place
reached and the number of characters passed. -/
def advance (s : CharClass) (limit : Option Nat) (n : Nat) (before : List Char) (index : Nat) :
    List Char → Place × Nat
  | [] => (⟨before, index, []⟩, n)
  | c :: rest =>
    if limit != some n && s.holds c then
      advance s limit (n + 1) (c :: before) (index + 1) rest
    else (⟨before, index, c :: rest⟩, n)

/-- Past the given text, if it comes next. -/
def skip? (ignoreCase plain : Bool) : List Char → Place → Option Place
  | [], p => some p
  | x :: xs, p =>
    match p.after with
    | [] => none
    | c :: _ => if sameChar ignoreCase plain x c then skip? ignoreCase plain xs p.next else none

end Place

/-- A match under way: the place reached and the texts kept so far, latest first. -/
structure Progress where
  place : Place
  kept : List (Nat × List Char)

namespace Progress

/-- The text last kept under a number. -/
def lookup (p : Progress) (index : Nat) : Option (List Char) :=
  p.kept.lookup index

/-- Keep the text passed since an earlier place. -/
def keep (p : Progress) (index : Nat) (since : Place) : Progress :=
  { p with kept := (index, since.after.take (p.place.index - since.index)) :: p.kept }

end Progress

/-- What remains to be matched after a part. -/
abbrev Rest := Progress → Option Progress

/-- Give back one character at a time, at most `n`, until the rest matches. -/
def giveBack (rest : Rest) : Nat → Progress → Option Progress
  | 0, p => rest p
  | n + 1, p =>
    match rest p with
    | some r => some r
    | none => giveBack rest n { p with place := p.place.prev }

/-- Take one character at a time, at most `n`, until the rest matches. -/
def takeMore (s : CharClass) (rest : Rest) : Nat → Progress → Option Progress
  | 0, p => rest p
  | n + 1, p =>
    match rest p with
    | some r => some r
    | none =>
      if p.place.nextIn s then takeMore s rest n { p with place := p.place.next } else none

/-- Rounds of one character. -/
def runChars (greed : Greed) (min : Nat) (max : Option Nat) (s : CharClass)
    (p : Progress) (rest : Rest) : Option Progress :=
  match greed with
  | .greedy =>
    let (place, n) := Place.advance s max 0 p.place.before p.place.index p.place.after
    if n < min then none else giveBack rest (n - min) { p with place }
  | .possessive =>
    let (place, n) := Place.advance s max 0 p.place.before p.place.index p.place.after
    if n < min then none else rest { p with place }
  | .reluctant =>
    let (place, n) := Place.advance s (some min) 0 p.place.before p.place.index p.place.after
    if n < min then none
    else
      let extra := match max with
        | some m => m - min
        | none => place.after.length
      takeMore s rest extra { p with place }

/-- One round fewer to go. -/
def lessOne : Option Nat → Option Nat
  | none => none
  | some n => some (n - 1)

/-- Rounds of a body. The first argument bounds their number, `needed` of them are
still owed, `allowed` more may follow, and `last` is where the last free round
began. -/
def runTimes (body : Progress → Rest → Option Progress) (greedy : Bool) (rest : Rest) :
    Nat → Nat → Option Nat → Option Nat → Progress → Option Progress
  | 0, _, _, _, _ => none
  | bound + 1, needed + 1, allowed, last, p =>
    body p (runTimes body greedy rest bound needed (lessOne allowed) last)
  | bound + 1, 0, allowed, last, p =>
    let more := fun (_ : Unit) =>
      if allowed != some 0 && last != some p.place.index then
        body p (runTimes body greedy rest bound 0 (lessOne allowed) (some p.place.index))
      else none
    if greedy then
      match more () with
      | some r => some r
      | none => rest p
    else
      match rest p with
      | some r => some r
      | none => more ()

/-- Rounds of a body, each of which stands once it is matched. -/
def runPossessive (body : Progress → Rest → Option Progress) :
    Nat → Nat → Option Nat → Option Nat → Progress → Option Progress
  | 0, _, _, _, _ => none
  | bound + 1, needed + 1, allowed, last, p =>
    match body p some with
    | some q => runPossessive body bound needed (lessOne allowed) last q
    | none => none
  | bound + 1, 0, allowed, last, p =>
    if allowed != some 0 && last != some p.place.index then
      match body p some with
      | some q => runPossessive body bound 0 (lessOne allowed) (some p.place.index) q
      | none => some p
    else some p

/-- Match an expression at a place, then the rest. -/
def Syntax.tryAt : Syntax → Progress → Rest → Option Progress
  | .empty, p, rest => rest p
  | .one s, p, rest =>
    if p.place.nextIn s then rest { p with place := p.place.next } else none
  | .seq a b, p, rest => a.tryAt p fun q => b.tryAt q rest
  | .alt a b, p, rest =>
    match a.tryAt p rest with
    | some r => some r
    | none => b.tryAt p rest
  | .group a, p, rest => a.tryAt p rest
  | .capture i a, p, rest => a.tryAt p fun q => rest (q.keep i p.place)
  | .again i ignoreCase plain, p, rest =>
    match p.lookup i with
    | none => none
    | some text =>
      match p.place.skip? ignoreCase plain text with
      | some place => rest { p with place }
      | none => none
  | .run greed min max s, p, rest => runChars greed min max s p rest
  | .times greed min max a, p, rest =>
    let bound := min + p.place.after.length + 2
    match greed with
    | .possessive =>
      match runPossessive a.tryAt bound min max none p with
      | some q => rest q
      | none => none
    | .greedy => runTimes a.tryAt true rest bound min max none p
    | .reluctant => runTimes a.tryAt false rest bound min max none p
  | .anchor a, p, rest => if p.place.isAt a then rest p else none
  | .ahead positive a, p, rest =>
    match a.tryAt p some with
    | some q => if positive then rest { q with place := p.place } else none
    | none => if positive then none else rest p
  | .behind positive width a, p, rest =>
    match p.place.back? width with
    | none => if positive then none else rest p
    | some place =>
      match a.tryAt { p with place } some with
      | some q => if positive then rest { q with place := p.place } else none
      | none => if positive then none else rest p
  | .ifCaptured i yes no, p, rest =>
    if (p.lookup i).isSome then yes.tryAt p rest else no.tryAt p rest
  | .atomic a, p, rest =>
    match a.tryAt p some with
    | some q => rest q
    | none => none

/-- Where an expression was found, and what it kept. -/
structure Match where
  start : Nat
  kept : List (Nat × List Char)
  deriving DecidableEq, Repr

/-- The text kept under a number, if that part took part in the match. -/
def Match.capture? (m : Match) (index : Nat) : Option (List Char) :=
  m.kept.lookup index

/-- Match an expression at one place. -/
def Syntax.matchAt? (e : Syntax) (place : Place) : Option Match :=
  (e.tryAt ⟨place, []⟩ some).map fun p => ⟨place.index, p.kept⟩

/-- The first match at or after a place. -/
def Syntax.searchFrom? (e : Syntax) (before : List Char) (index : Nat) : List Char → Option Match
  | [] => e.matchAt? ⟨before, index, []⟩
  | c :: rest =>
    match e.matchAt? ⟨before, index, c :: rest⟩ with
    | some m => some m
    | none => searchFrom? e (c :: before) (index + 1) rest

/-- The leftmost match in a text. -/
def Syntax.search? (e : Syntax) (cs : List Char) : Option Match :=
  e.searchFrom? [] 0 cs

end Proctor.Pattern
