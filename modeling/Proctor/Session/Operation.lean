import Proctor.Session

/-!
# Operations on a session

What a session can be asked for, as data, so that a history of a session is a list of
operations. A *chronicle* keeps a session together with the tests that its history is
about: those chosen since the selection was last cleared, and those that were to be run.
The chronicle is no part of the session and decides nothing.
-/

namespace Proctor.Session

/-- A place in a file: a line of it, or of the given lines in its stead. -/
structure Place where
  file : String
  lines : Option (List String) := none
  cursor : Int
  language : Option String := none
  deriving DecidableEq, Repr

/-- What a session can be asked for. -/
inductive Operation where
  | register (tag : String) (p : Profile)
  | languageOf (file : String) (language : Option String)
  | locate (place : Place)
  | findAll (file : String) (lines : Option (List String)) (language : Option String)
  | run (t : TestInfo) (options : RunOptions)
  | runAtPoint (place : Place) (options : RunOptions)
  | debugAtPoint (place : Place) (options : RunOptions)
  | runLast (options : RunOptions)
  | stop (id : Nat)
  | select (t : TestInfo)
  | selectAtPoint (place : Place)
  | listSelected
  | clearSelected
  | runSelected (options : RunOptions)
  | counterpart (file : String)
  /-- Nothing is asked for. Time passes, jobs end, files change: the session finds itself
  in another world. -/
  | meanwhile (world : World)

/-- The session after an operation, whatever it answers. -/
def perform (s : Session) : Operation → Session
  | .register tag p => s.register tag p
  | .languageOf .. | .listSelected => s
  | .locate p => (s.locate p.file p.lines p.cursor p.language).1
  | .findAll file lines language => (s.findAll file lines language).1
  | .run t options => (s.runTest t options).1
  | .runAtPoint p options => (s.runAtPoint p.file p.lines p.cursor p.language options).1
  | .debugAtPoint p options => (s.debugAtPoint p.file p.lines p.cursor p.language options).1
  | .runLast options => (s.runLast options).1
  | .stop id => (s.stop id).1
  | .select t => (s.select t).1
  | .selectAtPoint p => (s.selectAtPoint p.file p.lines p.cursor p.language).1
  | .clearSelected => s.clearSelected
  | .runSelected options => (s.runSelected options).1
  | .counterpart file => (s.counterpart file).1
  | .meanwhile world => { s with world }

/-! ## Which tests an operation is about -/

/-- The test that governs a place, if there is one and it can be told. -/
def found (s : Session) (p : Place) : Option TestInfo :=
  (s.locate p.file p.lines p.cursor p.language).2.toOption.join

/-- Does an attempt to run the test end with an error that is not reported? -/
def escapes (s : Session) (options : RunOptions) (t : TestInfo) : Bool :=
  !(s.runTest t options).2.isOk

/-- Those of some tests that are tried when they are run one after the other: all of them,
or those up to the first whose attempt ends with an error that is not reported. -/
def tried (s : Session) (options : RunOptions) (tests : List TestInfo) : List TestInfo :=
  tests.takeWhile (fun t => !s.escapes options t) ++ (tests.find? (s.escapes options)).toList

namespace Operation

/-- The test that is given or found for the selection. -/
def chosen (s : Session) : Operation → Option TestInfo
  | .select t => some t
  | .selectAtPoint p => s.found p
  | _ => none

/-- The tests that are to be run, in order, whatever comes of it. -/
def attempted (s : Session) : Operation → List TestInfo
  | .run t _ => [t]
  | .runAtPoint p _ | .debugAtPoint p _ => (s.found p).toList
  | .runLast _ => s.last.toList
  | .runSelected options => s.tried options s.selected
  | _ => []

/-- Does the operation clear the selection? -/
def clears : Operation → Bool
  | .clearSelected => true
  | _ => false

end Operation

/-! ## Histories -/

/-- A session, and the tests that its history is about. -/
structure Chronicle where
  session : Session
  /-- The tests chosen since the selection was last cleared. -/
  chosen : List TestInfo := []
  /-- The tests that were to be run. -/
  attempted : List TestInfo := []

namespace Chronicle

/-- The chronicle with one operation more. -/
def step (c : Chronicle) (op : Operation) : Chronicle where
  session := c.session.perform op
  chosen := if op.clears then [] else c.chosen ++ (op.chosen c.session).toList
  attempted := c.attempted ++ op.attempted c.session

end Chronicle

/-- The chronicle of a session under some operations. -/
def chronicle (s : Session) (ops : List Operation) : Chronicle :=
  ops.foldl Chronicle.step ⟨s, [], []⟩

end Proctor.Session
