import Proctor.Capture

/-!
# Captured lines

What has been captured of a stream depends on the bytes that have arrived and not on the
pieces they came in: `ofBytes` says what it is. The lines are those that are complete.
What follows the last line feed becomes one when the stream ends, and not before.
-/

namespace Proctor.Capture

/-- The lines of a run of bytes that are complete. -/
def completeLines (bytes : List UInt8) : List String :=
  (Text.splitOn lineFeed bytes).dropLast.map lineText

/-- What follows the last line feed of a run of bytes. -/
def unfinished (bytes : List UInt8) : List UInt8 :=
  (Text.splitOn lineFeed bytes).getLast?.getD []

/-- All lines of a run of bytes: it is cut at the line feeds, and what follows the last one
counts unless it is empty. -/
def linesOf (bytes : List UInt8) : List String :=
  (if unfinished bytes = [] then (Text.splitOn lineFeed bytes).dropLast
    else Text.splitOn lineFeed bytes).map lineText

/-- What has been captured once some bytes have arrived. -/
def ofBytes (bytes : List UInt8) : Capture := ⟨completeLines bytes, unfinished bytes⟩

@[simp] theorem ofBytes_nil : ofBytes [] = {} := rfl

@[simp] theorem ofBytes_lines (bytes : List UInt8) :
    (ofBytes bytes).lines = completeLines bytes := rfl

/-- The bytes before the last line feed. -/
theorem dropLast_append_unfinished (bytes : List UInt8) :
    (Text.splitOn lineFeed bytes).dropLast ++ [unfinished bytes] =
      Text.splitOn lineFeed bytes := by
  have cut := Text.splitOn_ne_nil lineFeed bytes
  rw [unfinished, List.getLast?_eq_some_getLast cut, Option.getD_some]
  exact List.dropLast_concat_getLast cut

/-- A piece that arrives is as good as one that has been there. -/
theorem feed_ofBytes (bytes chunk : List UInt8) :
    (ofBytes bytes).feed chunk = ofBytes (bytes ++ chunk) := by
  have rest := Text.splitOn_ne_nil lineFeed (unfinished bytes ++ chunk)
  have cut : Text.splitOn lineFeed (bytes ++ chunk) =
      (Text.splitOn lineFeed bytes).dropLast ++ Text.splitOn lineFeed (unfinished bytes ++ chunk) :=
    Text.splitOn_append lineFeed bytes chunk
  have lines : completeLines (bytes ++ chunk) =
      completeLines bytes ++ completeLines (unfinished bytes ++ chunk) := by
    simp only [completeLines, cut, List.dropLast_append_of_ne_nil rest, List.map_append]
  have pending : unfinished (bytes ++ chunk) = unfinished (unfinished bytes ++ chunk) := by
    rw [← dropLast_append_unfinished (unfinished bytes ++ chunk), ← List.append_assoc] at cut
    rw [unfinished, cut, List.getLast?_concat, Option.getD_some]
  rw [ofBytes, ofBytes, lines, pending]
  rfl

/-- At the end of a stream all its lines are there. -/
theorem finish_ofBytes (bytes : List UInt8) : (ofBytes bytes).finish.lines = linesOf bytes := by
  by_cases done : unfinished bytes = []
  · simp [finish, linesOf, ofBytes, done, completeLines]
  · have pending : (ofBytes bytes).pending.isEmpty = false := by simpa [ofBytes] using done
    rw [finish, pending, linesOf, if_neg done, ← dropLast_append_unfinished bytes,
      List.map_append]
    rfl

/-- Before the end of a stream a line is missing exactly if something follows the last line
feed. -/
theorem completeLines_eq_linesOf_iff (bytes : List UInt8) :
    completeLines bytes = linesOf bytes ↔ unfinished bytes = [] := by
  by_cases done : unfinished bytes = []
  · simp [linesOf, completeLines, done]
  · simp only [linesOf, done, if_false, iff_false]
    intro same
    have shorter := congrArg List.length same
    have pieces := List.length_pos_iff.mpr (Text.splitOn_ne_nil lineFeed bytes)
    simp only [completeLines, List.length_map, List.length_dropLast] at shorter
    omega

end Proctor.Capture
