import Proctor.CommandLine.Scan
import Proctor.FileTree

/-!
# Reading a command line

A scanned command line is read parameter by parameter: those that were given in the
order in which they were, arguments behind options, and then all others. The value of
a parameter is the one given last, else that of its variable, else its default. The
first value that does not fit is the reason why the command line is refused.
-/

namespace Proctor.CommandLine

/-- A value that was read. -/
inductive Reading where
  | truth (b : Bool)
  | text (s : String)
  | number (n : Nat)
  | path (p : Path)
  | texts (ss : List String)
  deriving DecidableEq, Repr

/-- The values that were read. -/
abbrev Readings := List (Key × Reading)

namespace Reading

/-- The texts that stand for true. -/
def yesWords : List String := ["1", "true", "t", "yes", "y", "on"]

/-- The texts that stand for false. -/
def noWords : List String := ["0", "false", "f", "no", "n", "off"]

/-- A truth value, read from a text. -/
def truthOf (s : String) : Except Fault Reading :=
  let word := Text.lower (String.ofList (Text.strip s.toList))
  if yesWords.contains word then .ok (.truth true)
  else if noWords.contains word then .ok (.truth false)
  else .error (.noBoolean s)

/-- One of some names. -/
def choiceOf (names : List String) (s : String) : Except Fault Reading :=
  if names.contains s then .ok (.text s) else .error (.noChoice s names)

/-- One of some names in either case, as it stands among them. -/
def anyCaseOf (names : List String) (s : String) : Except Fault Reading :=
  match (Text.asciiFold? s).bind fun t => names.find? fun n => Text.asciiFold? n == some t with
  | some n => .ok (.text n)
  | none => .error (.noChoice s names)

/-- A whole number from one on. -/
def positiveOf (s : String) : Except Fault Reading :=
  match Text.parseInt? s.toList with
  | none => .error (.noNumber s)
  | some (.ofNat (n + 1)) => .ok (.number (n + 1))
  | some n => .error (.notPositive n)

/-- Can the text, by its end, only name a directory? -/
def namesDirectory (s : String) : Bool :=
  let last := (s.toList.reverse.takeWhile (· != '/')).reverse
  last.length < s.length && (last.isEmpty || last == ['.'])

/-- An existing file. -/
def fileOf (tree : FileTree) (s : String) : Except Fault Reading :=
  let p := Path.parse s
  if s.isEmpty then .error (.fileMissing s)
  else match tree.find p with
    | .error _ => .error (.fileMissing s)
    | .ok (.directory _) => .error (.isDirectory s)
    | .ok (.file ..) => if namesDirectory s then .error (.fileMissing s) else .ok (.path p)

/-- A file that may have to be made. -/
def anyFileOf (tree : FileTree) (s : String) : Except Fault Reading :=
  let p := Path.resolve tree.current (Path.parse s)
  if tree.isDirectory p then .error (.isDirectory s) else .ok (.path p)

/-- Read the value of a parameter from a text. -/
def ofText (tree : FileTree) (kind : Kind) (s : String) : Except Fault Reading :=
  match kind with
  | .flag => truthOf s
  | .text => .ok (.text s)
  | .choice names => choiceOf names s
  | .choiceAnyCase names => anyCaseOf names s
  | .positive => positiveOf s
  | .existingFile => fileOf tree s
  | .anyFile => anyFileOf tree s

end Reading

/-- What a command line is read by. -/
structure Setting where
  tree : FileTree
  environment : Environment

namespace Scan

/-- The option of a parameter as it was given last. -/
def last? (s : Scan) (p : Parameter) : Option Given :=
  s.options.reverse.find? fun g => g.key == p.key

/-- Read an argument from the words. -/
def readArgument (setting : Setting) (s : Scan) (p : Parameter) :
    Except Refusal (Option Reading) :=
  match p.many, s.words with
  | _, [] => .error (.missing p.hint)
  | true, words => .ok (some (.texts words))
  | false, word :: _ =>
    ((Reading.ofText setting.tree p.kind word).mapError (.invalid p.hint)).map some

/-- Read an option. -/
def readOption (setting : Setting) (s : Scan) (p : Parameter) :
    Except Refusal (Option Reading) :=
  let text? := match s.last? p with
    | some g => g.value
    | none => (p.variableName.bind setting.environment.get?).or p.default
  match text?, s.last? p with
  | some text, _ =>
    ((Reading.ofText setting.tree p.kind text).mapError (.invalid p.hint)).map some
  | none, some _ => .ok (some (.truth true))
  | none, none => .ok none

/-- Read a parameter. -/
def readParameter (setting : Setting) (s : Scan) (p : Parameter) :
    Except Refusal (Option Reading) :=
  if p.isArgument then readArgument setting s p else readOption setting s p

/-- The parameters in the order in which they are read. -/
def order (s : Scan) (ps : List Parameter) : List Parameter :=
  let given := (s.options.map (·.key)).eraseDups.filterMap fun k => ps.find? (·.key == k)
  let arguments := ps.filter (·.isArgument)
  given ++ arguments ++ ps.filter fun p => !given.contains p && !p.isArgument

/-- Read some parameters one after the other. -/
def readAll (setting : Setting) (s : Scan) : List Parameter → Except Refusal Readings
  | [] => .ok []
  | p :: rest => do
    let reading ← readParameter setting s p
    let readings ← readAll setting s rest
    return reading.toList.map (p.key, ·) ++ readings

/-- How many words the arguments take up. -/
def taken (s : Scan) (ps : List Parameter) : Nat :=
  if ps.any (·.many) then s.words.length else (ps.filter (·.isArgument)).length

/-- The words that no argument takes. -/
def spare (s : Scan) (ps : List Parameter) : List String := s.words.drop (s.taken ps)

/-- The option given first of those that are dealt with before all others. -/
def eager? (s : Scan) : Option Key :=
  (s.options.find? fun g => g.key == .version || g.key == .help).map (·.key)

end Scan

/-- What comes of reading the words behind the name of a command. -/
inductive Read where
  | readings (values : Readings) (spare : List String)
  /-- The version or help is asked for, and nothing else is read. -/
  | asked (key : Key)
  | refused (why : Refusal)

/-- Read the words behind the name of a command. What is left of them is too much,
unless it is the next command. -/
def Form.read (f : Form) (setting : Setting) (words : List String) : Read :=
  match Scan.ofWords f.parameters f.isGroup false words with
  | .error why => .refused why
  | .ok scan =>
    match scan.eager? with
    | some key => .asked key
    | none =>
      match scan.readAll setting (scan.order f.parameters) with
      | .error why => .refused why
      | .ok values =>
        let spare := scan.spare f.parameters
        if spare.isEmpty || f.isGroup then .readings values spare else .refused (.extra spare)

namespace Readings

/-- The text of a parameter. -/
def text? (rs : Readings) (key : Key) : Option String :=
  match rs.lookup key with
  | some (.text s) => some s
  | _ => none

/-- The truth value of a parameter. -/
def truth? (rs : Readings) (key : Key) : Option Bool :=
  match rs.lookup key with
  | some (.truth b) => some b
  | _ => none

/-- The number of a parameter. -/
def number? (rs : Readings) (key : Key) : Option Nat :=
  match rs.lookup key with
  | some (.number n) => some n
  | _ => none

/-- The path of a parameter. -/
def path? (rs : Readings) (key : Key) : Option Path :=
  match rs.lookup key with
  | some (.path p) => some p
  | _ => none

/-- The texts of a parameter. -/
def texts (rs : Readings) (key : Key) : List String :=
  match rs.lookup key with
  | some (.texts ss) => ss
  | _ => []

end Readings

end Proctor.CommandLine
