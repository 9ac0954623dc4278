import Proctor.Text.CharName.Table
import Proctor.Text.CodeSet

/-!
# Names of characters

An expression can ask for a character by its name. The table lists the names that
characters have of their own. The name of an ideograph is a stem and its code point, and
that of a Hangul syllable is spelled with the letters of the syllable.

A name is found in whichever case it is written, but for the names of syllables and of
unified ideographs, which are all in capitals.
-/

namespace Proctor.Text

/-- What follows the stem in a name that begins with it. -/
def afterStem? (stem : String) (name : List Char) : Option (List Char) :=
  if stem.toList.isPrefixOf name then some (name.drop stem.length) else none

/-- The code point to which a row gives the name. -/
def NameRow.find? (row : NameRow) (name : String) : Option Nat :=
  ((row.ends.flatMap (·.splitOn "|")).findIdx? fun ending =>
    !ending.isEmpty && row.stem ++ ending == name).map (row.first + ·)

/-- The code point that four or five hexadecimal digits write, with its letters in capitals. -/
def codePoint? (digits : List Char) : Option Nat :=
  let isDigit (c : Char) := c.isDigit || ('A' ≤ c && c ≤ 'F')
  if (digits.length == 4 || digits.length == 5) && digits.all isDigit then
    some (digits.foldl (fun n c => 16 * n + if c.isDigit then c.toNat - 48 else c.toNat - 55) 0)
  else none

/-- Where membership among the unified ideographs flips. -/
def unifiedBounds : List Nat := [
    0x3400, 0x4dc0, 0x4e00, 0xa000, 0x20000, 0x2a6e0, 0x2a700, 0x2b739, 0x2b740, 0x2b81e,
    0x2b820, 0x2cea2, 0x2ceb0, 0x2ebe1, 0x30000, 0x3134b]

/-- The other stems that a code point follows, and where membership among the characters
with such a name flips. -/
def numberedStems : List (String × List Nat) := [
  ("CJK COMPATIBILITY IDEOGRAPH-", [0xf900, 0xfa6e, 0xfa70, 0xfada, 0x2f800, 0x2fa1e]),
  ("KHITAN SMALL SCRIPT CHARACTER-", [0x18b00, 0x18cd6]),
  ("NUSHU CHARACTER-", [0x1b170, 0x1b2fc])]

/-- The character of a set whose code point the digits write. -/
def numbered? (bounds : List Nat) (digits : List Char) : Option Nat :=
  (codePoint? digits).filter (CodeSet.mem bounds)

/-- The letters that a Hangul syllable can begin with. -/
def syllableLeads : List String := [
  "G", "GG", "N", "D", "DD", "R", "M", "B", "BB", "S", "SS", "", "J", "JJ", "C", "K", "T", "P",
  "H"]

/-- The vowels of Hangul syllables. -/
def syllableVowels : List String := [
  "A", "AE", "YA", "YAE", "EO", "E", "YEO", "YE", "O", "WA", "WAE", "OE", "YO", "U", "WEO", "WE",
  "WI", "YU", "EU", "YI", "I"]

/-- The letters that a Hangul syllable can end in. -/
def syllableTails : List String := [
  "", "G", "GG", "GS", "N", "NJ", "NH", "D", "L", "LG", "LM", "LB", "LS", "LT", "LP", "LH", "M",
  "B", "BS", "S", "SS", "NG", "J", "C", "K", "T", "P", "H"]

/-- The spellings of the Hangul syllables, in the order of their code points. -/
def syllables : List String :=
  syllableLeads.flatMap fun lead =>
    syllableVowels.flatMap fun vowel => syllableTails.map fun tail => lead ++ vowel ++ tail

/-- The code point of a name in capitals that is in the table or follows one of its stems. -/
def listed? (name : String) : Option Nat :=
  (nameTable.findSome? fun rows => rows.findSome? (·.find? name)).or <|
    numberedStems.findSome? fun (stem, bounds) =>
      match afterStem? stem name.toList with
      -- The digits are those that write the number, so none is a zero in front.
      | some digits => if digits.head? == some '0' then none else numbered? bounds digits
      | none => none

/-- The character with a name. -/
def characterNamed? (name : String) : Option Char :=
  let code? :=
    match afterStem? "HANGUL SYLLABLE " name.toList,
      afterStem? "CJK UNIFIED IDEOGRAPH-" name.toList with
    | some letters, _ => (syllables.findIdx? (· == String.ofList letters)).map (0xac00 + ·)
    | none, some digits => numbered? unifiedBounds digits
    | none, none => listed? name.toUpper
  code?.map Char.ofNat

end Proctor.Text
