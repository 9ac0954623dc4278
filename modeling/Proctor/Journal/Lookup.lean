import Proctor.Counterpart
import Proctor.Detection.Source
import Proctor.Log

/-!
# What lookups say

The records that looking for tests, contexts and counterparts leaves in the journal.
Each list is that of one lookup, computed from the same source as its result.
-/

namespace Proctor.Journal

/-- What is said about the test that governs a line. Without patterns or lines
nothing is looked for. -/
def ofNearest (s : Source) (cursor : Int) : List Log.Record :=
  if s.profile.patterns.isEmpty || s.lines.isEmpty then []
  else
    let logger := "detection.locator"
    [match s.bareNearest cursor with
    | some t =>
      { level := .debug, logger, event := "Found nearest test", mark := some "detect",
        entries := [("name", t.nameValue), ("line", .int t.line), ("cursor_line", .int cursor)] }
    | none =>
      .plain .debug logger "No test found at or above cursor" [("cursor_line", .int cursor)]]

/-- What is said about all tests of a source. -/
def ofAll (s : Source) : List Log.Record :=
  if s.profile.patterns.isEmpty then []
  else [.plain .debug "detection.locator" "Located tests in buffer"
    [("count", .int s.bareAll.length), ("file", .text s.file.name)]]

/-- What is said about the context of a test, once it has been resolved. -/
def ofContext (s : Source) (registry : Registry) (t : TestInfo) : List Log.Record :=
  match (registry.find? s.language).bind (·.context), s.contextOf registry t with
  | some strategy, .ok context =>
    [.plain .debug "detection.context" "Resolved test context"
      [("language", .text s.language), ("strategy", .text strategy.name), ("line", .int t.line),
       ("describe", (context.map fun c => Value.text c.describe).getD .null)]]
  | _, _ => []

/-- What is said about the contexts of some tests, up to the first that cannot be
resolved. -/
def ofContexts (s : Source) (registry : Registry) : List TestInfo → List Log.Record
  | [] => []
  | t :: rest =>
    match s.contextOf registry t with
    | .ok _ => ofContext s registry t ++ ofContexts s registry rest
    | .error _ => []

/-- What is said about the counterpart of a file, if there is one. -/
def ofCounterpart (tree : FileTree) (registry : Registry) (file : Path) : List Log.Record :=
  let logger := "detection.naming"
  match Counterpart.looksLikeTest registry file with
  | .ok true =>
    (Counterpart.sourceFile? tree file).toList.map fun found =>
      .plain .debug logger "Resolved source file"
        [("test_file", .text file.text), ("source", .text found.text)]
  | .ok false =>
    (Counterpart.testFile? tree file).toList.map fun found =>
      .plain .debug logger "Resolved test file"
        [("source", .text file.text), ("test_file", .text found.text)]
  | .error _ => []

end Proctor.Journal
