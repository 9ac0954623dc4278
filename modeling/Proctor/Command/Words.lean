/-!
# Command lines as text

A list of words written as one line of a command language, and read back. A word of
harmless characters stands for itself; any other is put into single quotes, and a
single quote inside it is written as a closing quote, the quote in double quotes,
and an opening quote.
-/

namespace Proctor.Command

/-- A character that needs no quotes. -/
def isHarmless (c : Char) : Bool :=
  c.isAlphanum || "@%+=:,./-_".toList.contains c

/-- A single quote inside single quotes. -/
def quoteInside : List Char := ['\x27', '"', '\x27', '"', '\x27']

/-- The inside of a quoted word. -/
def escapeQuotes : List Char → List Char
  | [] => []
  | c :: rest => (if c = '\x27' then quoteInside else [c]) ++ escapeQuotes rest

/-- One word of a command line. -/
def quoteWord (cs : List Char) : List Char :=
  if !cs.isEmpty && cs.all isHarmless then cs
  else '\x27' :: (escapeQuotes cs ++ ['\x27'])

/-- Words as a command line. -/
def line (words : List String) : String :=
  " ".intercalate (words.map fun w => String.ofList (quoteWord w.toList))

end Proctor.Command
