import Proctor.Detection.Resolver
import Proctor.Proofs.Outcome

/-!
# When a context cannot be resolved

Two things can go wrong on the way to the context of a test: there is nothing but empty names
around it, or the separator of its profile is no text. With the built-in strategies nothing
else can, because a profile names no strategy but these.
-/

namespace Proctor.Detection

/-- What can go wrong with a context. -/
inductive Unresolved : Error → Prop
  | nameless : Unresolved (.unfit .emptyDescription)
  | separator : Unresolved .noSuchPart

variable {p : Profile} {lines : List String} {line : Int} {file : Option Path}

theorem failsOnly_make (describe : String) (level : Nat) (fileScope : Bool) :
    (Context.make describe level fileScope).FailsOnly Unresolved := by
  unfold Context.make
  split
  · exact Except.failsOnly_error .nameless
  · exact Except.failsOnly_ok _

theorem failsOnly_contextOf (separator : Value) (stack : List Scope) :
    (contextOf separator stack).FailsOnly Unresolved := by
  unfold contextOf
  split
  · exact failsOnly_make _ _ _
  · exact Except.failsOnly_error .separator

theorem failsOnly_suites : (suites lines line p).FailsOnly Unresolved := by
  unfold suites
  split
  · exact Except.failsOnly_ok none
  · exact (failsOnly_contextOf _ _).map

theorem failsOnly_modules : (modules lines line p file).FailsOnly Unresolved := by
  unfold modules
  split
  · split
    · split
      · exact Except.failsOnly_ok none
      · exact (failsOnly_make _ 0 true).map
    · exact Except.failsOnly_ok none
  · exact (failsOnly_contextOf _ _).map

theorem failsOnly_classAbove (patterns : List Pattern) (above : List String) :
    (classAbove patterns above).FailsOnly Unresolved := by
  induction above with
  | nil => exact Except.failsOnly_ok none
  | cons text rest ih =>
    unfold classAbove
    split
    · exact ih
    · split
      · exact (failsOnly_make _ 0 false).map
      · split
        · exact Except.failsOnly_ok none
        · exact ih

theorem failsOnly_enclosingClass : (enclosingClass lines line p).FailsOnly Unresolved := by
  unfold enclosingClass
  split
  · exact Except.failsOnly_ok none
  · split
    · exact Except.failsOnly_ok none
    · split
      · exact Except.failsOnly_ok none
      · exact failsOnly_classAbove _ _

theorem failsOnly_package : (package file).FailsOnly Unresolved := by
  unfold package
  split
  · exact Except.failsOnly_ok none
  · dsimp only
    split
    · exact Except.failsOnly_ok none
    · exact (failsOnly_make _ 0 true).map

theorem failsOnly_enclosing (s : Strategy) :
    (enclosing s lines line p file).FailsOnly Unresolved := by
  cases s with
  | indentStack => exact failsOnly_suites
  | enclosingClass => exact failsOnly_enclosingClass
  | fileScope => exact failsOnly_package
  | moduleBlock => exact failsOnly_modules

theorem contains_all (s : Strategy) : Strategy.all.contains s = true := by
  cases s <;> rfl

/-- A resolver that knows all strategies has nothing to say against a profile. -/
theorem failsOnly_resolve (registry : Registry) (lines : List String) (line : Int)
    (language : String) (file : Option Path) :
    (resolve Strategy.all registry lines line language file).FailsOnly Unresolved := by
  unfold resolve
  split
  · exact Except.failsOnly_ok none
  · split
    · exact Except.failsOnly_ok none
    · rw [if_pos (contains_all _)]
      exact failsOnly_enclosing _

end Proctor.Detection
