import Proctor.CommandLine.Refusal

/-!
# Scanning a command line

The words of a command line are told apart into options, each with its value, and
arguments. A word that starts with a hyphen and has more to it is an option; two
hyphens alone end the options. Several short options may share a word, and the last
of them may have its value there, too.
-/

namespace Proctor.CommandLine

/-- An option as it was given. -/
structure Given where
  key : Key
  /-- Its value; a flag has none. -/
  value : Option String
  deriving DecidableEq, Repr

/-- The options of a command line in order, and the words that are none. -/
structure Scan where
  options : List Given := []
  words : List String := []
  deriving DecidableEq, Repr

namespace Scan

/-- A scan with an option before it. -/
def withOption (key : Key) (value : Option String) (s : Scan) : Scan :=
  { s with options := ⟨key, value⟩ :: s.options }

/-- A word cut at its first equals sign. -/
def cutValue (cs : List Char) : String × Option String :=
  let name := cs.takeWhile (· != '=')
  (String.ofList name, (cs.drop name.length).tail?.map String.ofList)

/-- An option at the head of a command line, in words: what was read of it, and whether
the next word was used up as its value. -/
structure Head where
  options : List Given
  usedNext : Bool
  deriving DecidableEq, Repr

/-- The value of an option: one that is attached to it, or else the next word. -/
def valueOf (name : String) (attached next : Option String) : Except Refusal (String × Bool) :=
  match attached, next with
  | some v, _ => .ok (v, false)
  | none, some v => .ok (v, true)
  | none, none => .error (.needsValue name)

/-- Read a long option. -/
def long (p : Parameter) (name : String) (attached next : Option String) :
    Except Refusal Head :=
  if p.takesValue then
    (valueOf name attached next).map fun v => ⟨[⟨p.key, some v.1⟩], v.2⟩
  else if attached.isSome then .error (.takesNoValue name)
  else .ok ⟨[⟨p.key, none⟩], false⟩

/-- Read short options that share a word. -/
def short (ps : List Parameter) (next : Option String) : List Char → Except Refusal Head
  | [] => .ok ⟨[], false⟩
  | c :: rest =>
    let name := String.ofList ['-', c]
    match Parameter.named? ps name with
    | none => .error (.unknownOption name [])
    | some p =>
      if p.takesValue then
        let attached := if rest.isEmpty then none else some (String.ofList rest)
        (valueOf name attached next).map fun v => ⟨[⟨p.key, some v.1⟩], v.2⟩
      else
        (short ps next rest).map fun h => { h with options := ⟨p.key, none⟩ :: h.options }

/-- Read an option at the head of a command line. -/
def head (ps : List Parameter) (word : List Char) (next : Option String) :
    Except Refusal Head :=
  let (name, attached) := cutValue word
  match (Parameter.named? ps name).filter fun _ => Parameter.isLong name with
  | some p => long p name attached next
  | none =>
    match word with
    | '-' :: '-' :: _ =>
      .error (.unknownOption name (Text.closest name (Parameter.longNames ps)))
    | _ => short ps next (word.drop 1)

/-- Is the word an option? -/
def isOption (word : String) : Bool := word.startsWith "-" && word != "-"

/-- Scan a command line; `skip` says that the first word has been used up. The first
word of a group that is no option ends the options. -/
def ofWords (ps : List Parameter) (isGroup : Bool) (skip : Bool) :
    List String → Except Refusal Scan
  | [] => .ok {}
  | word :: rest =>
    if skip then ofWords ps isGroup false rest
    else if word = "--" then .ok { words := rest }
    else if isOption word then do
      let h ← head ps word.toList rest.head?
      let s ← ofWords ps isGroup h.usedNext rest
      return { s with options := h.options ++ s.options }
    else if isGroup then .ok { words := word :: rest }
    else (ofWords ps isGroup false rest).map fun s => { s with words := word :: s.words }

end Scan

end Proctor.CommandLine
