import Proctor.Text.Line
import Proctor.Text.Utf8

/-!
# Formatted output

What `echo` and `printf` write: escapes in texts, and formats filled with arguments.
Output is made of bytes, because an escape can name any byte.
-/

namespace Proctor.Machine.Format

/-- The bytes of a text. -/
def bytes (s : String) : List UInt8 := Text.Utf8.encode s

/-- The bytes of a character. -/
def charBytes (c : Char) : List UInt8 := Text.Utf8.encode (String.singleton c)

/-- Is the character a digit of base eight? -/
def isOctal (c : Char) : Bool := '0' ≤ c && c ≤ '7'

/-- The number that digits of base eight stand for. -/
def octal (cs : List Char) : Nat := cs.foldl (fun n c => 8 * n + (c.toNat - 48)) 0

/-- The byte that a letter after a backslash stands for. -/
def letterByte? : Char → Option UInt8
  | 'a' => some 7
  | 'b' => some 8
  | 't' => some 9
  | 'n' => some 10
  | 'v' => some 11
  | 'f' => some 12
  | 'r' => some 13
  | '\\' => some 92
  | _ => none

/-- At most the given number of digits of base eight, and what follows. -/
def takeOctal (limit : Nat) (cs : List Char) : List Char × List Char :=
  let digits := (cs.take limit).takeWhile isOctal
  (digits, cs.drop digits.length)

/-- A text with its escapes read, and whether output goes on after it. A number may
have a zero before its three digits if `zero` is set. The first argument bounds the
number of steps. -/
def unescape (zero : Bool) : Nat → List UInt8 → List Char → List UInt8 × Bool
  | 0, done, _ => (done.reverse, true)
  | _, done, [] => (done.reverse, true)
  | n + 1, done, '\\' :: c :: rest =>
    match letterByte? c with
    | some b => unescape zero n (b :: done) rest
    | none =>
      if c == 'c' && zero then (done.reverse, false)
      else if isOctal c then
        let (digits, after) := takeOctal (if zero && c == '0' then 4 else 3) (c :: rest)
        unescape zero n (UInt8.ofNat (octal digits) :: done) after
      else unescape zero n ((charBytes c).reverse ++ 92 :: done) rest
  | n + 1, done, c :: rest => unescape zero n ((charBytes c).reverse ++ done) rest

/-- A text with its escapes read. -/
def escaped (s : String) : List UInt8 × Bool :=
  unescape true (s.length + 1) [] s.toList

/-- A conversion of a format. -/
structure Conversion where
  flags : List Char
  width : Nat
  precision : Option Nat
  letter : Char

/-- Spaces or zeros up to the width. -/
def pad (k : Conversion) (body : List UInt8) : List UInt8 :=
  let missing := k.width - (Text.Utf8.decode body).length
  if k.flags.contains '-' then body ++ List.replicate missing 32
  else if k.flags.contains '0' && "diuxXo".toList.contains k.letter then
    match body with
    | 45 :: rest => 45 :: (List.replicate missing 48 ++ rest)
    | body => List.replicate missing 48 ++ body
  else List.replicate missing 32 ++ body

/-- The whole number that an argument begins with. -/
def leadingInt (s : String) : Int :=
  let cs := s.toList.dropWhile (· == ' ')
  let number (cs : List Char) : Nat :=
    match cs with
    | '0' :: rest => octal (rest.takeWhile isOctal)
    | cs => Nat.ofDigitChars 10 (cs.takeWhile Char.isDigit) 0
  match cs with
  | '-' :: rest => -(number rest : Int)
  | '+' :: rest => number rest
  | ['\'', c] | ['"', c] => c.toNat
  | cs => number cs

/-- A number written in a base with small or capital letters. -/
def inBase (base : Nat) (upper : Bool) (n : Nat) : List Char :=
  (Nat.toDigits base n).map fun c => if upper then c.toUpper else c

/-- An argument as its conversion writes it, and whether output goes on after it. -/
def convert (k : Conversion) (arg : String) : List UInt8 × Bool :=
  match k.letter with
  | 's' =>
    let s := match k.precision with
      | some p => (bytes arg).take p
      | none => bytes arg
    (pad k s, true)
  | 'b' =>
    let (s, more) := escaped arg
    (pad k s, more)
  | 'c' => (pad k ((bytes arg).take 1), true)
  | 'x' => (pad k (bytes (String.ofList (inBase 16 false (leadingInt arg).toNat))), true)
  | 'X' => (pad k (bytes (String.ofList (inBase 16 true (leadingInt arg).toNat))), true)
  | 'o' => (pad k (bytes (String.ofList (inBase 8 false (leadingInt arg).toNat))), true)
  | _ => (pad k (bytes (toString (leadingInt arg))), true)

/-- The digits a text begins with as a number, and what follows. -/
def number? (cs : List Char) : Option Nat × List Char :=
  let digits := cs.takeWhile Char.isDigit
  (if digits.isEmpty then none else some (Nat.ofDigitChars 10 digits 0), cs.drop digits.length)

/-- The conversion that follows a per cent sign. -/
def conversion? (cs : List Char) : Option (Conversion × List Char) :=
  let flags := cs.takeWhile fun c => "-+ #0".toList.contains c
  let (width, rest) := number? (cs.drop flags.length)
  let (precision, rest) := match rest with
    | '.' :: rest =>
      let (p, rest) := number? rest
      (some (p.getD 0), rest)
    | rest => (none, rest)
  match rest with
  | c :: rest =>
    if "sbcdiuxXo".toList.contains c then some (⟨flags, width.getD 0, precision, c⟩, rest)
    else none
  | [] => none

/-- One pass over a format: the output, the arguments that are left, and whether
output goes on. The first argument bounds the number of steps. -/
def fill : Nat → List UInt8 → List Char → List String → List UInt8 × List String × Bool
  | 0, done, _, args => (done, args, true)
  | _, done, [], args => (done, args, true)
  | n + 1, done, '%' :: '%' :: rest, args => fill n (done ++ [37]) rest args
  | n + 1, done, '%' :: rest, args =>
    match conversion? rest with
    | some (k, rest) =>
      let (out, more) := convert k (args.headD (if "sbc".toList.contains k.letter then "" else "0"))
      if more then fill n (done ++ out) rest (args.drop 1) else (done ++ out, [], false)
    | none => (done, [], false)
  | n + 1, done, '\\' :: c :: rest, args =>
    match letterByte? c with
    | some b => fill n (done ++ [b]) rest args
    | none =>
      if isOctal c then
        let (digits, after) := takeOctal 3 (c :: rest)
        fill n (done ++ [UInt8.ofNat (octal digits)]) after args
      else if c == '"' then fill n (done ++ [34]) rest args
      else fill n (done ++ 92 :: charBytes c) rest args
  | n + 1, done, c :: rest, args => fill n (done ++ charBytes c) rest args

/-- A format filled again and again until no argument is left; the first argument
bounds the number of passes. -/
def fillAll (format : List Char) : Nat → List String → List UInt8
  | 0, _ => []
  | n + 1, args =>
    let (out, rest, more) := fill (format.length + 1) [] format args
    if more && !rest.isEmpty && rest.length < args.length then out ++ fillAll format n rest
    else out

/-- What `printf` writes. -/
def printf (args : List String) : List UInt8 :=
  match args with
  | [] => []
  | "--" :: format :: rest => fillAll format.toList (rest.length + 1) rest
  | format :: rest => fillAll format.toList (rest.length + 1) rest

/-- What `echo` writes, as a command of the shell: escapes are read. -/
def shellEcho (args : List String) : List UInt8 :=
  let (line, args) := match args with
    | "-n" :: rest => (false, rest)
    | args => (true, args)
  let (out, more) := escaped (" ".intercalate args)
  if line && more then out ++ [10] else out

/-- The options of `echo` as a program: whether a line end is written and whether
escapes are read. -/
def echoOptions (line escapes : Bool) : List String → Bool × Bool × List String
  | [] => (line, escapes, [])
  | arg :: rest =>
    match arg.toList with
    | '-' :: c :: cs =>
      if (c :: cs).all fun c => c == 'n' || c == 'e' || c == 'E' then
        echoOptions (line && !(c :: cs).contains 'n')
          ((c :: cs).foldl (fun e c => if c == 'e' then true else if c == 'E' then false else e)
            escapes) rest
      else (line, escapes, arg :: rest)
    | _ => (line, escapes, arg :: rest)

/-- What `echo` writes, as a program: escapes are read only when asked for. -/
def programEcho (args : List String) : List UInt8 :=
  let (line, escapes, args) := echoOptions true false args
  let text := " ".intercalate args
  let (out, more) := if escapes then escaped text else (bytes text, true)
  if line && more then out ++ [10] else out

end Proctor.Machine.Format
