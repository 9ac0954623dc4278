import Proctor.Value

/-!
# Comparing values

Truth values, whole numbers and floats are compared as numbers, so that one and
`true` are the same member of a set. Texts are ordered by code point. Values of
different sorts have no order.
-/

namespace Proctor.Value

/-- The fraction a number stands for: a numerator and a positive denominator. -/
def fraction? : Value → Option (Int × Nat)
  | bool b => some (if b then 1 else 0, 1)
  | int i => some (i, 1)
  | float x =>
    if x.exponentBits == 2047 then none
    else
      let r := Number.Ratio.scale 2 x.mantissa x.power
      some (if x.isNegative then -r.numerator else r.numerator, r.denominator)
  | _ => none

/-- Do two values count as one member of a set? -/
def same (a b : Value) : Bool :=
  match a, b with
  | text s, text t => s == t
  | a, b =>
    match a.fraction?, b.fraction? with
    | some (m, n), some (k, l) => m * l == k * n
    | none, none => a.typeName == b.typeName && a.literal == b.literal
    | _, _ => false

/-- Can the value be a member of a set? -/
def isMember : Value → Bool
  | list _ | table _ => false
  | _ => true

/-- The members of a set, each at its first place. -/
def distinct : List Value → List Value
  | [] => []
  | v :: rest => v :: (distinct rest).filter fun w => !v.same w

/-- Does the first value come before the second, where the two have an order? -/
def before? (a b : Value) : Option Bool :=
  match a, b with
  | text s, text t => some (s < t)
  | date d, date e => some (d.text < e.text)
  | time t, time u => some (t.text < u.text)
  | dateTime .., dateTime .. => some (a.display < b.display)
  | _, _ =>
    match a.fraction?, b.fraction? with
    | some (m, n), some (k, l) => some (m * l < k * n)
    | _, _ => none

/-- Put a value into its place in a sorted list, behind those equal to it. -/
def insertSorted? (v : Value) : List Value → Option (List Value)
  | [] => some [v]
  | w :: rest =>
    match before? v w with
    | none => none
    | some true => some (v :: w :: rest)
    | some false => (insertSorted? v rest).map (w :: ·)

/-- The values in ascending order, if they have one. -/
def sorted? (vs : List Value) : Option (List Value) :=
  vs.foldl (fun acc v => acc.bind (insertSorted? v)) (some [])

end Proctor.Value
