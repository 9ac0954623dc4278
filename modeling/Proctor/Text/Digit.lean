import Proctor.Text.Blank
import Proctor.Text.CodeSet

/-!
# Digits and whole numbers

A *decimal* digit has a place value; it comes in runs of ten, one run a script.
A *digit* in the wider sense is also a superscript or a circled numeral, which
looks like a digit and stands for no place. `parseInt?` reads a whole number in
decimal digits of any script, with an optional sign, blanks around it and single
underscores between digits.
-/

namespace Proctor.Text

/-- The zeros above 127; the nine characters after each are its digits one to nine. -/
def decimalZeros : List Nat := [
    0x660, 0x6f0, 0x7c0, 0x966, 0x9e6, 0xa66, 0xae6, 0xb66, 0xbe6, 0xc66, 0xce6, 0xd66, 0xde6,
    0xe50, 0xed0, 0xf20, 0x1040, 0x1090, 0x17e0, 0x1810, 0x1946, 0x19d0, 0x1a80, 0x1a90, 0x1b50,
    0x1bb0, 0x1c40, 0x1c50, 0xa620, 0xa8d0, 0xa900, 0xa9d0, 0xa9f0, 0xaa50, 0xabf0, 0xff10,
    0x104a0, 0x10d30, 0x11066, 0x110f0, 0x11136, 0x111d0, 0x112f0, 0x11450, 0x114d0, 0x11650,
    0x116c0, 0x11730, 0x118e0, 0x11950, 0x11c50, 0x11d50, 0x11da0, 0x16a60, 0x16ac0, 0x16b50,
    0x1d7ce, 0x1d7d8, 0x1d7e2, 0x1d7ec, 0x1d7f6, 0x1e140, 0x1e2f0, 0x1e950, 0x1fbf0]

/-- Where membership among the digits in the wider sense flips, above 127. -/
def digitBounds : List Nat := [
    0xb2, 0xb4, 0xb9, 0xba, 0x660, 0x66a, 0x6f0, 0x6fa, 0x7c0, 0x7ca, 0x966, 0x970, 0x9e6,
    0x9f0, 0xa66, 0xa70, 0xae6, 0xaf0, 0xb66, 0xb70, 0xbe6, 0xbf0, 0xc66, 0xc70, 0xce6, 0xcf0,
    0xd66, 0xd70, 0xde6, 0xdf0, 0xe50, 0xe5a, 0xed0, 0xeda, 0xf20, 0xf2a, 0x1040, 0x104a,
    0x1090, 0x109a, 0x1369, 0x1372, 0x17e0, 0x17ea, 0x1810, 0x181a, 0x1946, 0x1950, 0x19d0,
    0x19db, 0x1a80, 0x1a8a, 0x1a90, 0x1a9a, 0x1b50, 0x1b5a, 0x1bb0, 0x1bba, 0x1c40, 0x1c4a,
    0x1c50, 0x1c5a, 0x2070, 0x2071, 0x2074, 0x207a, 0x2080, 0x208a, 0x2460, 0x2469, 0x2474,
    0x247d, 0x2488, 0x2491, 0x24ea, 0x24eb, 0x24f5, 0x24fe, 0x24ff, 0x2500, 0x2776, 0x277f,
    0x2780, 0x2789, 0x278a, 0x2793, 0xa620, 0xa62a, 0xa8d0, 0xa8da, 0xa900, 0xa90a, 0xa9d0,
    0xa9da, 0xa9f0, 0xa9fa, 0xaa50, 0xaa5a, 0xabf0, 0xabfa, 0xff10, 0xff1a, 0x104a0, 0x104aa,
    0x10a40, 0x10a44, 0x10d30, 0x10d3a, 0x10e60, 0x10e69, 0x11052, 0x1105b, 0x11066, 0x11070,
    0x110f0, 0x110fa, 0x11136, 0x11140, 0x111d0, 0x111da, 0x112f0, 0x112fa, 0x11450, 0x1145a,
    0x114d0, 0x114da, 0x11650, 0x1165a, 0x116c0, 0x116ca, 0x11730, 0x1173a, 0x118e0, 0x118ea,
    0x11950, 0x1195a, 0x11c50, 0x11c5a, 0x11d50, 0x11d5a, 0x11da0, 0x11daa, 0x16a60, 0x16a6a,
    0x16ac0, 0x16aca, 0x16b50, 0x16b5a, 0x1d7ce, 0x1d800, 0x1e140, 0x1e14a, 0x1e2f0, 0x1e2fa,
    0x1e950, 0x1e95a, 0x1f100, 0x1f10b, 0x1fbf0, 0x1fbfa]

/-- The place value of a decimal digit. -/
def decimalValue? (c : Char) : Option Nat :=
  if c.toNat < 128 then
    if c.isDigit then some (c.toNat - 48) else none
  else
    (decimalZeros.find? fun z => z ≤ c.toNat && c.toNat < z + 10).map (c.toNat - ·)

/-- A digit with a place value. -/
def isDecimal (c : Char) : Bool :=
  (decimalValue? c).isSome

/-- A digit in the wider sense. -/
def isDigitLike (c : Char) : Bool :=
  if c.toNat < 128 then c.isDigit else CodeSet.mem digitBounds c.toNat

/-- The number written by decimal digits, most significant first; `none` when
some character is no decimal digit. -/
def decimalFrom (acc : Nat) : List Char → Option Nat
  | [] => some acc
  | c :: rest =>
    match decimalValue? c with
    | some d => decimalFrom (10 * acc + d) rest
    | none => none

/-- A nonempty string of decimal digits, read as a number. -/
def decimal? : List Char → Option Nat
  | [] => none
  | cs => decimalFrom 0 cs

/-- Digits without the underscores between them. An underscore counts as a
separator only in front of a decimal digit. -/
def dropSeparators : List Char → Option (List Char)
  | [] => some []
  | c :: rest =>
    if c = '_' then
      match rest with
      | d :: _ => if isDecimal d then dropSeparators rest else none
      | [] => none
    else (dropSeparators rest).map (c :: ·)

/-- The longest run of digits that is read as a number. -/
def maxDigits : Nat := 4300

/-- Digits with separators, without a sign. -/
def parseNat? : List Char → Option Nat
  | [] => none
  | '_' :: _ => none
  | cs => do
    let digits ← dropSeparators cs
    if digits.length > maxDigits then none else decimal? digits

/-- A whole number with an optional sign and blanks around it. -/
def parseInt? (cs : List Char) : Option Int :=
  match strip cs with
  | '-' :: rest => (parseNat? rest).map fun n => -(n : Int)
  | '+' :: rest => (parseNat? rest).map Int.ofNat
  | rest => (parseNat? rest).map Int.ofNat

end Proctor.Text
