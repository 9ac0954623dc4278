/-!
# Timelines

What happens at known moments, put in order. The order is made entry by entry, so that a
timeline can be computed wherever its entries are known.
-/

namespace Proctor.Timeline

variable {α : Type}

/-- Put something before the first entry that is not earlier. -/
def insert (time : α → Nat) (a : α) : List α → List α
  | [] => [a]
  | b :: rest => if time a ≤ time b then a :: b :: rest else b :: insert time a rest

/-- In order of time; what has the same moment stays in the order it had. -/
def sort (time : α → Nat) (as : List α) : List α := as.foldr (insert time) []

/-- The last of some moments, if all of them come. -/
def last? (moments : List (Option Nat)) : Option Nat :=
  moments.foldl (fun acc moment =>
    match acc, moment with
    | some a, some b => some (max a b)
    | _, _ => none) (some 0)

end Proctor.Timeline
