import Mathlib.Data.List.DropRight
import Proctor.Proofs.Capture
import Proctor.Proofs.Text.Utf8

/-!
# Reading a stream in chunks

The lines a stream leaves behind depend on its bytes alone, wherever these were cut: they
follow the lines that had been there before, and they are the lines of the text that all the
bytes together encode.
-/

namespace Proctor.Capture

/-! ## What was there before -/

/-- What has been captured, with other lines before it. -/
def behind (sink : List String) (c : Capture) : Capture := ⟨sink ++ c.lines, c.pending⟩

theorem behind_feed (sink : List String) (c : Capture) (chunk : List UInt8) :
    (c.behind sink).feed chunk = (c.feed chunk).behind sink := by
  simp only [behind, feed, List.append_assoc]

theorem behind_finish (sink : List String) (c : Capture) :
    (c.behind sink).finish = c.finish.behind sink := by
  cases pending : c.pending.isEmpty with
  | true => simp only [behind, finish, pending, if_true]
  | false => simp [behind, finish, pending]

theorem behind_foldl_feed (sink : List String) (c : Capture) (chunks : List (List UInt8)) :
    chunks.foldl feed (c.behind sink) = (chunks.foldl feed c).behind sink := by
  induction chunks generalizing c with
  | nil => rfl
  | cons chunk rest ih => rw [List.foldl_cons, List.foldl_cons, behind_feed, ih]

/-! ## The bytes so far -/

/-- After any number of chunks the lines and the pending bytes are those of the bytes that
have arrived. -/
theorem foldl_feed_ofBytes (bytes : List UInt8) (chunks : List (List UInt8)) :
    chunks.foldl feed (ofBytes bytes) = ofBytes (bytes ++ chunks.flatten) := by
  induction chunks generalizing bytes with
  | nil => rw [List.foldl_nil, List.flatten_nil, List.append_nil]
  | cons chunk rest ih =>
    rw [List.foldl_cons, feed_ofBytes, ih, List.flatten_cons, List.append_assoc]

/-! ## The lines of the bytes -/

/-- A text is cut at each separator. What follows the last one is dropped if and only if it
is empty. -/
def cut [DecidableEq α] (sep : α) (xs : List α) : List (List α) :=
  if (xs.splitOn sep).getLast? = some [] then (xs.splitOn sep).dropLast else xs.splitOn sep

theorem unfinished_eq_nil_iff (bytes : List UInt8) :
    unfinished bytes = [] ↔ (bytes.splitOn lineFeed).getLast? = some [] := by
  rw [unfinished, Text.splitOn_eq,
    List.getLast?_eq_some_getLast (List.splitOn_ne_nil lineFeed bytes), Option.getD_some,
    Option.some_inj]

theorem linesOf_eq (bytes : List UInt8) : linesOf bytes = (cut lineFeed bytes).map lineText := by
  rw [linesOf, cut, Text.splitOn_eq]
  simp only [unfinished_eq_nil_iff]

/-- Cut before they are read, bytes are cut where their text is. -/
theorem cut_decode (bytes : List UInt8) :
    (cut lineFeed bytes).map Text.Utf8.decode = cut '\n' (Text.Utf8.decode bytes) := by
  have pieces : (Text.Utf8.decode bytes).splitOn '\n' =
      (bytes.splitOn lineFeed).map Text.Utf8.decode := Text.Utf8.splitOn_decode bytes
  have last : ((bytes.splitOn lineFeed).map Text.Utf8.decode).getLast? = some [] ↔
      (bytes.splitOn lineFeed).getLast? = some [] := by
    rw [List.getLast?_map, Option.map_eq_some_iff]
    constructor
    · rintro ⟨piece, found, empty⟩
      rw [found, Text.Utf8.decode_eq_nil_iff.mp empty]
    · intro found
      exact ⟨[], found, rfl⟩
  rw [cut, cut, pieces]
  simp only [last]
  split
  · exact List.map_dropLast
  · rfl

/-- A line without the carriage returns at its end. -/
def trimmed (line : List Char) : String := String.ofList (line.rdropWhile (· == '\r'))

/-- The lines at the end of a stream follow those that were there. -/
theorem finish_foldl_feed (sink : List String) (chunks : List (List UInt8)) :
    (chunks.foldl feed ⟨sink, []⟩).finish.lines =
      sink ++ (cut lineFeed chunks.flatten).map (fun piece =>
        trimmed (Text.Utf8.decode piece)) := by
  have start : (⟨sink, []⟩ : Capture) = (ofBytes []).behind sink := by
    rw [ofBytes_nil, behind, List.append_nil]
  rw [start, behind_foldl_feed, foldl_feed_ofBytes, behind_finish, List.nil_append, behind,
    finish_ofBytes, linesOf_eq]
  rfl

/-- The same lines, cut from the text of all the bytes. -/
theorem finish_foldl_feed_decode (sink : List String) (chunks : List (List UInt8)) :
    (chunks.foldl feed ⟨sink, []⟩).finish.lines =
      sink ++ (cut '\n' (Text.Utf8.decode chunks.flatten)).map trimmed := by
  rw [finish_foldl_feed, ← cut_decode, List.map_map]
  rfl

/-- However the bytes of a stream are cut into chunks, its lines follow the lines that were
there: the bytes are cut at the line feeds, an empty piece at the end does not count, and
each piece is decoded and loses the carriage returns at its end. The pieces hold all the
bytes, in order, and the lines are those of the text that all the bytes together encode. -/
theorem lines_of_chunks (sink : List String) (chunks : List (List UInt8)) :
    (chunks.foldl feed ⟨sink, []⟩).finish.lines =
        sink ++ (cut lineFeed chunks.flatten).map (fun piece =>
          trimmed (Text.Utf8.decode piece)) ∧
      [lineFeed].intercalate (chunks.flatten.splitOn lineFeed) = chunks.flatten ∧
      (∀ piece ∈ chunks.flatten.splitOn lineFeed, lineFeed ∉ piece) ∧
      (chunks.foldl feed ⟨sink, []⟩).finish.lines =
        sink ++ (cut '\n' (Text.Utf8.decode chunks.flatten)).map trimmed := by
  refine ⟨finish_foldl_feed sink chunks, List.intercalate_splitOn lineFeed, ?_,
    finish_foldl_feed_decode sink chunks⟩
  intro piece found
  rw [← Text.splitOn_eq] at found
  exact Text.not_mem_of_mem_splitOn found

/-- A text that arrives in chunks leaves its lines behind. -/
theorem ofChunks_encode {text : String} {chunks : List (List UInt8)}
    (arrived : chunks.flatten = Text.Utf8.encode text) :
    ofChunks chunks = (cut '\n' text.toList).map trimmed := by
  rw [← Text.Utf8.decode_encode, ← arrived]
  exact finish_foldl_feed_decode [] chunks

/-- A character, a line end and an empty line, all of them cut. -/
example : ofChunks [[0x61, 0xc3], [0xa9, 0x0d], [0x0a, 0x0a], [0x62]] = ["aé", "", "b"] := by
  decide

end Proctor.Capture
