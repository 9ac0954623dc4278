/-!
# Shortest decimals

A finite positive double is `m · 2^q` with whole `m`. Every real number closer to
it than to its neighbours reads back as it, and the ends of that interval do so
when `m` is even. `shortest` finds the decimal with the fewest digits in the
interval and, among those, the one nearest to the double. All arithmetic is exact.
-/

namespace Proctor.Number

/-- A double precision number, kept as its bits so that equality is decidable. -/
structure Binary64 where
  bits : UInt64
  deriving DecidableEq, Repr

/-- Digits and a power of ten: `digits · 10^exponent`. -/
structure Decimal where
  digits : Nat
  exponent : Int
  deriving DecidableEq, Repr

namespace Binary64

/-- The bits of a double. -/
def ofFloat (x : Float) : Binary64 := ⟨x.toBits⟩

/-- Is the sign bit set? -/
def isNegative (x : Binary64) : Bool := x.bits.toNat ≥ Nat.pow 2 63

/-- The eleven bits of the exponent. -/
def exponentBits (x : Binary64) : Nat := x.bits.toNat / Nat.pow 2 52 % Nat.pow 2 11

/-- The fifty-two bits of the fraction. -/
def fractionBits (x : Binary64) : Nat := x.bits.toNat % Nat.pow 2 52

/-- Is it a zero of either sign? -/
def isZero (x : Binary64) : Bool := x.exponentBits == 0 && x.fractionBits == 0

/-- The whole number `m` of a finite double `m · 2^q`. -/
def mantissa (x : Binary64) : Nat :=
  if x.exponentBits == 0 then x.fractionBits else Nat.pow 2 52 + x.fractionBits

/-- The power `q` of a finite double `m · 2^q`. -/
def power (x : Binary64) : Int :=
  (if x.exponentBits == 0 then 1 else x.exponentBits : Int) - 1075

end Binary64

/-- The fraction `numerator / denominator`. -/
structure Ratio where
  numerator : Nat
  denominator : Nat
  deriving DecidableEq, Repr

namespace Ratio

/-- `n · base^e`. -/
def scale (base n : Nat) (e : Int) : Ratio :=
  match e with
  | .ofNat k => ⟨n * Nat.pow base k, 1⟩
  | .negSucc k => ⟨n, Nat.pow base (k + 1)⟩

/-- Is the first at most the second? -/
def le (a b : Ratio) : Bool := a.numerator * b.denominator ≤ b.numerator * a.denominator

/-- Is the first less than the second? -/
def lt (a b : Ratio) : Bool := !le b a

/-- The distance between two. -/
def distance (a b : Ratio) : Ratio :=
  let x := a.numerator * b.denominator
  let y := b.numerator * a.denominator
  ⟨if x ≤ y then y - x else x - y, a.denominator * b.denominator⟩

/-- The whole part of the quotient. -/
def floorDiv (a b : Ratio) : Nat :=
  a.numerator * b.denominator / (a.denominator * b.numerator)

end Ratio

/-- The reals that read back as one double. -/
structure Interval where
  low : Ratio
  high : Ratio
  closed : Bool

/-- Does the interval hold the number? -/
def Interval.holds (i : Interval) (x : Ratio) : Bool :=
  if i.closed then Ratio.le i.low x && Ratio.le x i.high
  else Ratio.lt i.low x && Ratio.lt x i.high

namespace Binary64

/-- The interval of a finite positive double. Below a power of two the
neighbours lie closer. -/
def interval (x : Binary64) : Interval :=
  let m := x.mantissa
  let q := x.power - 2
  let below := if x.fractionBits == 0 && x.exponentBits > 1 then 1 else 2
  ⟨.scale 2 (4 * m - below) q, .scale 2 (4 * m + 2) q, m % 2 == 0⟩

/-- The largest `k` with `10^k` at most the number, found from a guess that is at
most the given number of steps too high. -/
def decimalPower (value : Ratio) : Nat → Int → Int
  | 0, k => k
  | n + 1, k => if Ratio.le (.scale 10 1 k) value then k else decimalPower value n (k - 1)

/-- On the grid of multiples of `10^e`: the neighbour of the value that lies in
the interval and is nearest, the even one of two at the same distance. -/
def onGrid (i : Interval) (value : Ratio) (e : Int) : Option Nat :=
  let below := Ratio.floorDiv value (.scale 10 1 e)
  let above := below + 1
  let a := Ratio.scale 10 below e
  let b := Ratio.scale 10 above e
  match i.holds a, i.holds b with
  | true, true =>
    let da := Ratio.distance a value
    let db := Ratio.distance b value
    if Ratio.lt da db then some below
    else if Ratio.lt db da then some above
    else if below % 2 == 0 then some below else some above
  | true, false => some below
  | false, true => some above
  | false, false => none

/-- The first grid with a hit, from coarse to fine. -/
def firstGrid (i : Interval) (value : Ratio) : Nat → Int → Decimal
  | 0, e => ⟨Ratio.floorDiv value (.scale 10 1 e), e⟩
  | n + 1, e =>
    match onGrid i value e with
    | some d => ⟨d, e⟩
    | none => firstGrid i value n (e - 1)

/-- The shortest decimal that reads back as a finite positive double. -/
def shortest (x : Binary64) : Decimal :=
  let value := Ratio.scale 2 x.mantissa x.power
  let guess : Int := (x.power + x.mantissa.log2 + 1) * 30103 / 100000 + 1
  firstGrid x.interval value 17 (decimalPower value 4 guess)

end Binary64

/-- The digits of a decimal without final zeros, and the power of ten that then
belongs to them. -/
def Decimal.trim : Nat → Decimal → Decimal
  | 0, d => d
  | n + 1, d =>
    if d.digits % 10 == 0 && d.digits != 0 then trim n ⟨d.digits / 10, d.exponent + 1⟩ else d

/-- How a double is written: between these powers of ten by position, else with an
exponent of at least two digits; a whole number keeps one zero after its point. -/
structure DecimalFormat where
  leastPositional : Int
  mostPositional : Int

/-- Doubles are written by position from `10^-4` up to but excluding `10^16`. -/
def standardFormat : DecimalFormat := ⟨-4, 15⟩

/-- A decimal whose leading digit stands at `10^power`. -/
def DecimalFormat.render (f : DecimalFormat) (digits : List Char) (power : Int) : String :=
  if f.leastPositional ≤ power && power ≤ f.mostPositional then
    if power < 0 then
      "0." ++ String.ofList (List.replicate (-power - 1).toNat '0' ++ digits)
    else
      let k := power.toNat + 1
      let whole := digits.take k ++ List.replicate (k - digits.length) '0'
      let fraction := digits.drop k
      String.ofList whole ++ "." ++ String.ofList (if fraction.isEmpty then ['0'] else fraction)
  else
    let fraction := digits.drop 1
    let size := toString power.natAbs
    String.ofList (digits.take 1) ++
      (if fraction.isEmpty then "" else "." ++ String.ofList fraction) ++
      (if power < 0 then "e-" else "e+") ++
      (if size.length < 2 then "0" ++ size else size)

/-- The text of a double. -/
def Binary64.text (x : Binary64) : String :=
  if x.exponentBits == 2047 then
    if x.fractionBits != 0 then "nan" else if x.isNegative then "-inf" else "inf"
  else
    let sign := if x.isNegative then "-" else ""
    if x.isZero then sign ++ "0.0"
    else
      let d := x.shortest.trim 20
      let digits := Nat.toDigits 10 d.digits
      sign ++ standardFormat.render digits (d.exponent + digits.length - 1)

/-- The double nearest to a decimal; far beyond the range of doubles it is zero or
infinite without further arithmetic. -/
def Decimal.toBinary64 (negative : Bool) (d : Decimal) : Binary64 :=
  let size : Int := d.exponent + (Nat.toDigits 10 d.digits).length
  let x : Float :=
    if d.digits == 0 || size < -400 then 0.0
    else if size > 400 then 1.0 / 0.0
    else Float.ofScientific d.digits (d.exponent < 0) d.exponent.natAbs
  .ofFloat (if negative then -x else x)

/-- Infinity of either sign. -/
def infinity (negative : Bool) : Binary64 :=
  .ofFloat (if negative then -(1.0 / 0.0) else 1.0 / 0.0)

/-- The number that is none. -/
def notANumber : Binary64 := ⟨0x7ff8000000000000⟩

end Proctor.Number
