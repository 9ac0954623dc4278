import Proctor.Text.Blank
import Proctor.Text.Line
import Proctor.Text.Utf8

/-!
# Captured output

The lines of a stream that arrives in pieces. A line is kept as soon as its line
feed has arrived; what follows the last line feed is pending until the stream ends.
Bytes are cut into lines before they are read as text, so neither a line nor a
character is broken where two pieces meet.
-/

namespace Proctor

/-- One of the two outputs of a process. -/
inductive Stream where
  | stdout
  | stderr
  deriving DecidableEq, Repr

/-- The output captured so far. -/
structure Capture where
  /-- The complete lines. -/
  lines : List String := []
  /-- What has arrived since the last line feed. -/
  pending : List UInt8 := []
  deriving DecidableEq, Repr

namespace Capture

/-- The byte that ends a line. -/
def lineFeed : UInt8 := 10

/-- The text of a line, without carriage returns at its end. -/
def lineText (bytes : List UInt8) : String :=
  String.ofList (Text.stripEndWhile (· == '\r') (Text.Utf8.decode bytes))

/-- One more piece of the stream. -/
def feed (c : Capture) (chunk : List UInt8) : Capture :=
  let pieces := Text.splitOn lineFeed (c.pending ++ chunk)
  ⟨c.lines ++ pieces.dropLast.map lineText, pieces.getLast?.getD []⟩

/-- The end of the stream. -/
def finish (c : Capture) : Capture :=
  if c.pending.isEmpty then c else ⟨c.lines ++ [lineText c.pending], []⟩

/-- The lines of a stream that arrived in the given pieces. -/
def ofChunks (chunks : List (List UInt8)) : List String :=
  (chunks.foldl feed {}).finish.lines

end Capture

end Proctor
