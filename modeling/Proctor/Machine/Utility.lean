import Proctor.FileTree
import Proctor.Machine.Format

/-!
# Utilities

The programs that every machine has. A utility is a function of its arguments, of
what it can read, and of the file tree; it says what it writes, how it exits, how
long it takes, and what it does to the tree.
-/

namespace Proctor.Machine

/-- What a utility is given. -/
structure UtilityInput where
  args : List String
  /-- Everything that can be read from the input. -/
  stdin : List UInt8
  environment : List (String × String)
  tree : FileTree

/-- What a utility does. -/
structure UtilityOutput where
  stdout : List UInt8 := []
  stderr : List UInt8 := []
  status : Nat := 0
  /-- How long it takes, in milliseconds. -/
  takes : Nat := 0
  /-- Does it read its input to the end? -/
  readsInput : Bool := false
  /-- What it does to the files, in order. -/
  changes : List FileTree.Change := []

namespace Utility

/-- The names under which utilities are found. -/
def names : List String := [
  "[", "basename", "cat", "cut", "dirname", "echo", "env", "false", "head", "kill", "ls",
  "mkdir", "nice", "nohup", "printenv", "printf", "pwd", "rev", "rm", "seq", "sh", "dash",
  "sleep", "sort", "tac", "tail", "tee", "test", "touch", "tr", "true", "uniq", "wc", "yes"]

/-- The directories in which the utilities lie. -/
def directories : List String :=
  ["/usr/local/sbin", "/usr/local/bin", "/usr/sbin", "/usr/bin", "/sbin", "/bin"]

/-- Most of what is ever read from a source without an end. -/
def limit : Nat := 1048576

/-- A line with its end. -/
def line (s : String) : List UInt8 := Format.bytes s ++ [10]

/-- The lines of bytes, each without its end. -/
def linesOf (bs : List UInt8) : List (List UInt8) :=
  let pieces := Text.splitOn (10 : UInt8) bs
  if pieces.getLast? == some [] then pieces.dropLast else pieces

/-- Lines as bytes. -/
def ofLines (ls : List (List UInt8)) : List UInt8 := ls.flatMap fun l => l ++ [10]

/-- Why a file cannot be read, in words. -/
def unreadable : FileTree.Unreadable → String
  | .isDirectory => "Is a directory"
  | .unreachable .absent => "No such file or directory"
  | .unreachable .notDirectory => "Not a directory"

/-- The bytes of a file, or of a source that has no end. -/
def readFile (i : UtilityInput) (name : String) : Except String (List UInt8) :=
  if name == "-" || name == "/dev/stdin" then .ok i.stdin
  else if name == "/dev/null" then .ok []
  else if name == "/dev/zero" then .ok (List.replicate limit 0)
  else (i.tree.read (Path.parse name)).mapError unreadable

/-- What is read from the named files, or from the input if none is named, and what is
said about those that cannot be read. -/
def readAll (program : String) (i : UtilityInput) (files : List String) :
    List UInt8 × List UInt8 :=
  match files with
  | [] => (i.stdin, [])
  | files =>
    files.foldl (fun (out, err) f =>
      match readFile i f with
      | .ok bs => (out ++ bs, err)
      | .error why => (out, err ++ line (program ++ ": " ++ f ++ ": " ++ why))) ([], [])

/-- A filter: a function of all that is read. -/
def filter (program : String) (i : UtilityInput) (files : List String)
    (f : List UInt8 → List UInt8) : UtilityOutput :=
  let (input, err) := readAll program i files
  { stdout := f input, stderr := err, status := if err.isEmpty then 0 else 1,
    readsInput := files.isEmpty || files.contains "-" }

/-- A time with an optional fraction and unit, in milliseconds. -/
def duration? (s : String) : Option Nat :=
  let cs := s.toList
  let (cs, unit) := match cs.getLast? with
    | some 's' => (cs.dropLast, 1000)
    | some 'm' => (cs.dropLast, 60000)
    | some 'h' => (cs.dropLast, 3600000)
    | some 'd' => (cs.dropLast, 86400000)
    | _ => (cs, 1000)
  let whole := cs.takeWhile Char.isDigit
  match cs.drop whole.length with
  | [] => if whole.isEmpty then none else some (Nat.ofDigitChars 10 whole 0 * unit)
  | '.' :: fraction =>
    if fraction.all Char.isDigit && !(whole.isEmpty && fraction.isEmpty) then
      some (Nat.ofDigitChars 10 whole 0 * unit +
        Nat.ofDigitChars 10 fraction 0 * unit / Nat.pow 10 fraction.length)
    else none
  | _ => none

/-- Wait for some time. -/
def sleep (args : List String) : UtilityOutput :=
  match args.mapM duration? with
  | some [] => { stderr := line "sleep: missing operand", status := 1 }
  | some times => { takes := times.foldl (· + ·) 0 }
  | none =>
    let bad := (args.find? fun a => (duration? a).isNone).getD ""
    { stderr := line ("sleep: invalid time interval '" ++ bad ++ "'"), status := 1 }

/-- A count given by an option: in the next argument, in the same one, or as the
option itself. -/
def countOption (letter : Char) (args : List String) : Option (String × List String) :=
  match args with
  | [] => none
  | a :: rest =>
    match a.toList with
    | ['-', c] => if c == letter then rest.head?.map fun v => (v, rest.drop 1) else none
    | '-' :: c :: v => if c == letter then some (String.ofList v, rest) else none
    | _ => none

/-- The first lines or bytes. -/
def head (i : UtilityInput) : UtilityOutput :=
  match countOption 'n' i.args with
  | some (n, files) =>
    filter "head" i files fun bs => ofLines ((linesOf bs).take (n.toNat?.getD 10))
  | none =>
    match countOption 'c' i.args with
    | some (n, files) =>
      let n := n.toNat?.getD 0
      if files == ["/dev/zero"] then { stdout := List.replicate n 0 }
      else filter "head" i files (·.take n)
    | none =>
      match i.args with
      | a :: files =>
        match a.toList with
        | '-' :: d :: ds =>
          if (d :: ds).all Char.isDigit then
            filter "head" i files fun bs =>
              ofLines ((linesOf bs).take (Nat.ofDigitChars 10 (d :: ds) 0))
          else
            { stderr := line ("head: invalid option -- '" ++ String.singleton d ++ "'"),
              status := 1 }
        | _ => filter "head" i i.args fun bs => ofLines ((linesOf bs).take 10)
      | [] => filter "head" i [] fun bs => ofLines ((linesOf bs).take 10)

/-- The last lines, or those from a given one on. -/
def lastLines (count : String) (bs : List UInt8) : List UInt8 :=
  let ls := linesOf bs
  match count.toList with
  | '+' :: n => ofLines (ls.drop (Nat.ofDigitChars 10 n 0 - 1))
  | n => ofLines (ls.drop (ls.length - Nat.ofDigitChars 10 (n.filter Char.isDigit) 0))

/-- The last lines or bytes. -/
def tail (i : UtilityInput) : UtilityOutput :=
  match countOption 'n' i.args with
  | some (n, files) => filter "tail" i files (lastLines n)
  | none =>
    match countOption 'c' i.args with
    | some (n, files) =>
      filter "tail" i files fun bs => bs.drop (bs.length - n.toNat?.getD 0)
    | none => filter "tail" i i.args (lastLines "10")

/-- A set of bytes as `tr` writes it: ranges, escapes and classes. The first argument
bounds the number of steps. -/
def byteSet : Nat → List Char → List UInt8
  | 0, _ => []
  | _, [] => []
  | n + 1, cs =>
    let classes : List (String × List Nat) := [
      ("[:upper:]", (List.range 26).map (· + 65)), ("[:lower:]", (List.range 26).map (· + 97)),
      ("[:digit:]", (List.range 10).map (· + 48)),
      ("[:alpha:]", (List.range 26).map (· + 65) ++ (List.range 26).map (· + 97)),
      ("[:space:]", [9, 10, 11, 12, 13, 32])]
    match classes.find? fun k => k.1.toList.isPrefixOf cs with
    | some k => k.2.map UInt8.ofNat ++ byteSet n (cs.drop k.1.length)
    | none =>
      let (first, rest) : List UInt8 × List Char := match cs with
        | '\\' :: c :: rest =>
          match Format.letterByte? c with
          | some b => ([b], rest)
          | none =>
            if Format.isOctal c then
              let (digits, rest) := Format.takeOctal 3 (c :: rest)
              ([UInt8.ofNat (Format.octal digits)], rest)
            else (Format.charBytes c, rest)
        | c :: rest => (Format.charBytes c, rest)
        | [] => ([], [])
      match first, rest with
      | [a], '-' :: b :: rest =>
        if a.toNat ≤ b.toNat then
          (List.range (b.toNat - a.toNat + 1)).map (fun k => UInt8.ofNat (a.toNat + k)) ++
            byteSet n rest
        else byteSet n rest
      | first, rest => first ++ byteSet n rest

/-- Repetitions of the bytes of a set brought down to one. -/
def squeeze (set : List UInt8) : List UInt8 → List UInt8
  | a :: b :: rest =>
    if a == b && set.contains a then squeeze set (b :: rest) else a :: squeeze set (b :: rest)
  | bs => bs

/-- The byte that stands for another one after translation. -/
def translate (from_ to_ : List UInt8) (b : UInt8) : UInt8 :=
  match from_.findIdx? (· == b) with
  | some k => (to_[k]?.orElse fun _ => to_.getLast?).getD b
  | none => b

/-- Bytes translated, deleted or squeezed. -/
def tr (i : UtilityInput) : UtilityOutput :=
  let flags := (i.args.takeWhile fun a => a.startsWith "-" && a.length > 1).flatMap
    fun a => a.toList.drop 1
  let sets := (i.args.dropWhile fun a => a.startsWith "-" && a.length > 1).map
    fun a => byteSet (a.length + 1) a.toList
  let all := (List.range 256).map UInt8.ofNat
  let first := sets.headD []
  let first := if flags.contains 'c' || flags.contains 'C' then
    all.filter (!first.contains ·) else first
  let second := (sets.drop 1).headD []
  filter "tr" i [] fun bs =>
    if flags.contains 'd' then
      let kept := bs.filter (!first.contains ·)
      if flags.contains 's' then squeeze second kept else kept
    else if flags.contains 's' then
      if sets.length < 2 then squeeze first bs
      else squeeze second (bs.map (translate first second))
    else bs.map (translate first second)

/-- The number of words. -/
def wordCount (bs : List UInt8) : Nat :=
  (bs.foldl (fun (count, inside) b =>
    if b == 32 || (9 ≤ b && b ≤ 13) then (count, false)
    else if inside then (count, true) else (count + 1, true)) ((0 : Nat), false)).1

/-- Lines, words and bytes counted. -/
def wc (i : UtilityInput) : UtilityOutput :=
  let flags := (i.args.filter (·.startsWith "-")).flatMap fun a => a.toList.drop 1
  let files := i.args.filter (!·.startsWith "-")
  let (input, err) := readAll "wc" i files
  let counts := [('l', (input.filter (· == 10)).length), ('w', wordCount input),
    ('c', input.length), ('m', (Text.Utf8.decode input).length)]
  let shown := if flags.isEmpty then "lwc".toList else "lwmc".toList.filter flags.contains
  let numbers := shown.filterMap fun f => (counts.lookup f).map toString
  let width := if numbers.length == 1 then 0 else 7
  let text := " ".intercalate (numbers.map fun s =>
    String.ofList (List.replicate (width - s.length) ' ') ++ s)
  { stdout := line (text ++ String.join (files.map fun f => " " ++ f)), stderr := err,
    status := if err.isEmpty then 0 else 1, readsInput := files.isEmpty }

/-- The numbers from one to another in steps; the first argument bounds their number. -/
def countUp (step last : Int) : Nat → Int → List Int
  | 0, _ => []
  | n + 1, k =>
    if (step > 0 && k > last) || (step < 0 && k < last) || step == 0 then []
    else k :: countUp step last n (k + step)

/-- Numbers in a row. -/
def seq (i : UtilityInput) : UtilityOutput :=
  let numbers := i.args.filterMap String.toInt?
  let out (first step last : Int) : UtilityOutput :=
    { stdout := ((countUp step last limit first).map fun k => line (toString k)).flatten }
  match numbers with
  | [last] => out 1 1 last
  | [first, last] => out first 1 last
  | [first, step, last] => out first step last
  | _ => { stderr := line "seq: missing operand", status := 1 }

/-- The order of lines, byte by byte. -/
def before : List UInt8 → List UInt8 → Bool
  | [], _ => true
  | _ :: _, [] => false
  | a :: as, b :: bs => if a == b then before as bs else a < b

/-- The number a line begins with. -/
def numberOf (l : List UInt8) : Int := Format.leadingInt (String.ofList (Text.Utf8.decode l))

/-- Lines in order. -/
def sort (i : UtilityInput) : UtilityOutput :=
  let flags := (i.args.filter (·.startsWith "-")).flatMap fun a => a.toList.drop 1
  filter "sort" i (i.args.filter (!·.startsWith "-")) fun bs =>
    let ordered := (linesOf bs).mergeSort fun a b =>
      if flags.contains 'n' then
        numberOf a < numberOf b || (numberOf a == numberOf b && before a b)
      else before a b
    let ordered := if flags.contains 'u' then ordered.eraseReps else ordered
    ofLines (if flags.contains 'r' then ordered.reverse else ordered)

/-- One line again and again, as far as anything is ever read. -/
def yes (args : List String) : UtilityOutput :=
  let one := line (if args.isEmpty then "y" else " ".intercalate args)
  { stdout := (List.replicate (limit / one.length) one).flatten }

/-- The fields or characters that a list of numbers and ranges picks. -/
def picked (list : String) (k : Nat) : Bool :=
  (Text.splitOn ',' list.toList).any fun range =>
    match Text.splitOn '-' range with
    | [a] => Nat.ofDigitChars 10 a 0 == k
    | [a, b] =>
      (a.isEmpty || Nat.ofDigitChars 10 a 0 ≤ k) && (b.isEmpty || k ≤ Nat.ofDigitChars 10 b 0)
    | _ => false

/-- Parts of each line. -/
def cut (i : UtilityInput) : UtilityOutput :=
  let option (letter : Char) : Option String :=
    i.args.zipIdx.findSome? fun (a, k) =>
      match a.toList with
      | ['-', c] => if c == letter then i.args[k + 1]? else none
      | '-' :: c :: v => if c == letter then some (String.ofList v) else none
      | _ => none
  let delimiter := ((option 'd').bind fun d => (Format.bytes d).head?).getD 9
  let numbered (l : List (List UInt8)) (list : String) : List (List UInt8) :=
    (l.zipIdx.filter fun p => picked list (p.2 + 1)).map (·.1)
  filter "cut" i [] fun bs => ofLines ((linesOf bs).map fun l =>
    match option 'f', (option 'c').orElse fun _ => option 'b' with
    | some list, _ =>
      if l.contains delimiter then
        Text.joinWith [delimiter] (numbered (Text.splitOn delimiter l) list)
      else l
    | none, some list => (numbered (l.map fun b => [b]) list).flatten
    | none, none => l)

/-- The last part of a path, without an ending. -/
def basename (args : List String) : UtilityOutput :=
  match args with
  | [] => { stderr := line "basename: missing operand", status := 1 }
  | p :: rest =>
    let name := (Path.parse p).name
    let name := if name.isEmpty then (Path.parse p).text else name
    let ending := rest.headD ""
    { stdout := line (if name.endsWith ending && name != ending then
        String.ofList (name.toList.take (name.length - ending.length)) else name) }

/-- What kind of thing a path leads to, for a test on files. -/
def fileTest (tree : FileTree) (letter : Char) (name : String) : Bool :=
  let p := Path.parse name
  let found := !name.isEmpty && (tree.has p || (name == "/dev/null"))
  match letter with
  | 'f' => !name.isEmpty && tree.isFile p
  | 'd' => !name.isEmpty && tree.isDirectory p
  | 's' =>
    match tree.read p with
    | .ok content => !content.isEmpty
    | .error _ => found
  | 'x' =>
    match tree.find p with
    | .ok (.file _ executable) => executable
    | .ok (.directory _) => found
    | .error _ => false
  | 'h' | 'L' | 't' => false
  | _ => found

/-- A test with one operand. -/
def unaryTest? (tree : FileTree) (operator operand : String) : Option Bool :=
  match operator.toList with
  | ['-', 'n'] => some (!operand.isEmpty)
  | ['-', 'z'] => some operand.isEmpty
  | ['-', c] => if "efdrwxshLt".toList.contains c then some (fileTest tree c operand) else none
  | _ => none

/-- A test with two operands. -/
def binaryTest? (a operator b : String) : Option Bool :=
  let numbers (f : Int → Int → Bool) : Option Bool :=
    some (f (Format.leadingInt a) (Format.leadingInt b))
  match operator with
  | "=" | "==" => some (a == b)
  | "!=" => some (a != b)
  | "<" => some (a < b)
  | ">" => some (b < a)
  | "-eq" => numbers fun m n => m == n
  | "-ne" => numbers fun m n => m != n
  | "-gt" => numbers fun m n => m > n
  | "-ge" => numbers fun m n => m ≥ n
  | "-lt" => numbers fun m n => m < n
  | "-le" => numbers fun m n => m ≤ n
  | _ => none

/-- Is the condition met? The first argument bounds the depth. -/
def condition (tree : FileTree) : Nat → List String → Bool
  | 0, _ => false
  | _, [] => false
  | _, [a] => !a.isEmpty
  | n + 1, args =>
    match args with
    | ["!", a] => a.isEmpty
    | [o, a] => (unaryTest? tree o a).getD false
    | [a, o, b] =>
      match binaryTest? a o b with
      | some r => r
      | none =>
        if a == "!" then !condition tree n [o, b]
        else if o == "-a" then !a.isEmpty && !b.isEmpty
        else if o == "-o" then !a.isEmpty || !b.isEmpty
        else if a == "(" && b == ")" then condition tree n [o]
        else false
    | args =>
      match args.findIdx? (· == "-o") with
      | some k => condition tree n (args.take k) || condition tree n (args.drop (k + 1))
      | none =>
        match args.findIdx? (· == "-a") with
        | some k => condition tree n (args.take k) && condition tree n (args.drop (k + 1))
        | none => if args.head? == some "!" then !condition tree n (args.drop 1) else false

/-- A condition by its exit status. -/
def test (i : UtilityInput) : UtilityOutput :=
  { status := if condition i.tree (i.args.length + 1) i.args then 0 else 1 }

/-- The names in a directory, in order. -/
def ls (i : UtilityInput) : UtilityOutput :=
  let flags := (i.args.filter (·.startsWith "-")).flatMap String.toList
  let all := flags.contains 'a' || flags.contains 'A'
  let places := i.args.filter (!·.startsWith "-")
  let places := if places.isEmpty then ["."] else places
  let shown : List (List UInt8 × List UInt8) := places.map fun p =>
    match i.tree.find (Path.parse p) with
    | .ok (.directory es) =>
      let names := es.map fun (e : String × Node) => e.1
      let found := (names.filter fun n => all || !n.startsWith ".").mergeSort (· ≤ ·)
      (found.flatMap line, [])
    | .ok (.file ..) => (line p, [])
    | .error _ =>
      ([], line ("ls: cannot access '" ++ p ++ "': No such file or directory"))
  let err := (shown.map (·.2)).flatten
  { stdout := (shown.map (·.1)).flatten, stderr := err, status := if err.isEmpty then 0 else 2 }

/-- The arguments that are no options. -/
def operandsOf (i : UtilityInput) : List String := i.args.filter (!·.startsWith "-")

/-- What is done at some paths, one after the other, as far as anything is. -/
def changesAt (i : UtilityInput) (names : List String)
    (change? : FileTree → Path → Option FileTree.Change) : List FileTree.Change :=
  (names.foldl (fun (t, changes) name =>
    match change? t (Path.resolve t.current (Path.parse name)) with
    | some change => (t.after change, changes ++ [change])
    | none => (t, changes)) (i.tree, ([] : List FileTree.Change))).2

/-- Something new at a path, if there is nothing yet. -/
def make? (node : Node) (t : FileTree) (p : Path) : Option FileTree.Change :=
  if t.has p then none else some (.put p node)

/-- Files made, if they are not there yet. -/
def touch (i : UtilityInput) : UtilityOutput :=
  { changes := changesAt i i.args (make? (.file [] false)) }

/-- Directories made. -/
def mkdir (i : UtilityInput) : UtilityOutput :=
  { changes := changesAt i (operandsOf i) (make? (.directory [])) }

/-- Files and directories taken away. -/
def rm (i : UtilityInput) : UtilityOutput :=
  { changes := changesAt i (operandsOf i) fun _ p => some (.erase p) }

/-- The input written to files and to the output. -/
def tee (i : UtilityInput) : UtilityOutput :=
  { stdout := i.stdin, readsInput := true,
    changes := changesAt i (operandsOf i) fun _ p => some (.put p (.file i.stdin false)) }

/-- The environment, one variable a line. -/
def environment (i : UtilityInput) : UtilityOutput :=
  { stdout := i.environment.flatMap fun v => line (v.1 ++ "=" ++ v.2) }

/-- The values of variables. -/
def printenv (i : UtilityInput) : UtilityOutput :=
  if i.args.isEmpty then environment i
  else
    let found := i.args.filterMap fun n => i.environment.lookup n
    { stdout := found.flatMap line, status := if found.length == i.args.length then 0 else 1 }

/-- Run a utility that needs no process of its own. -/
def run (name : String) (i : UtilityInput) : Option UtilityOutput :=
  match name with
  | "true" => some {}
  | "false" => some { status := 1 }
  | "echo" => some { stdout := Format.programEcho i.args }
  | "printf" => some { stdout := Format.printf i.args }
  | "pwd" => some { stdout := line i.tree.current.text }
  | "sleep" => some (sleep i.args)
  | "cat" => some (filter "cat" i (i.args.filter (· != "-u")) id)
  | "head" => some (head i)
  | "tail" => some (tail i)
  | "tr" => some (tr i)
  | "wc" => some (wc i)
  | "seq" => some (seq i)
  | "sort" => some (sort i)
  | "uniq" => some (filter "uniq" i [] fun bs => ofLines (linesOf bs).eraseReps)
  | "tac" => some (filter "tac" i i.args fun bs => ofLines (linesOf bs).reverse)
  | "rev" => some (filter "rev" i i.args fun bs => ofLines ((linesOf bs).map List.reverse))
  | "cut" => some (cut i)
  | "tee" => some (tee i)
  | "yes" => some (yes i.args)
  | "basename" => some (basename i.args)
  | "dirname" => some { stdout := line (Path.parse (i.args.headD "")).parent.text }
  | "test" => some (test i)
  | "[" =>
    some (if i.args.getLast? == some "]" then test { i with args := i.args.dropLast }
      else { stderr := line "[: missing ]", status := 2 })
  | "ls" => some (ls i)
  | "touch" => some (touch i)
  | "mkdir" => some (mkdir i)
  | "rm" => some (rm i)
  | "printenv" => some (printenv i)
  | _ => none

end Utility

end Proctor.Machine
