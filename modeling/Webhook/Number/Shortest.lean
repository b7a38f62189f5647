import Webhook.Number.Binary64

/-!
# Shortest decimal text of a binary number

The digits written for a number are the fewest that read back as the same number, and of those
the nearest to it.  For one digit, two digits and so on the two neighbours of the number on that
decimal grid are tried, in exact arithmetic, until one lies among the reals that round to the
number.

`render` lays the digits out.  A number from `0.00001` up to below `1e16` is written with a point
and at least one place after it.  All others have one digit before the point, no point after a
lone digit, and a signed exponent.
-/

namespace Webhook.Binary64

/-- A decimal number: the natural `digits` times `10 ^ exponent`. -/
structure Decimal where
  /-- The digits, read as a natural. -/
  digits : Nat
  /-- The exponent of ten. -/
  exponent : Int
  deriving DecidableEq, Repr

/-- The reals that round to a number lie between `low / den` and `high / den`, and the number is
`value / den`.  The ends belong to them when `closed`. -/
structure Interval where
  /-- The numerator of the lower end. -/
  low : Nat
  /-- The numerator of the number. -/
  value : Nat
  /-- The numerator of the upper end. -/
  high : Nat
  /-- The common denominator. -/
  den : Nat
  /-- Whether the ends round to the number too. -/
  closed : Bool

/-- The reals that round to a number other than zero.  Below a power of two the gap is half. -/
def interval (x : Binary64) : Interval :=
  let m := x.mantissa
  let narrow := m == 1 <<< 52 && minExponent < x.exponent
  let scale := if 0 ≤ x.exponent then 1 <<< x.exponent.toNat else 1
  let den := if 0 ≤ x.exponent then 4 else 4 <<< (-x.exponent).toNat
  { low := (4 * m - if narrow then 1 else 2) * scale
    value := 4 * m * scale
    high := (4 * m + 2) * scale
    den
    closed := m % 2 == 0 }

/-- The numerator and denominator of `n * 10 ^ e`. -/
def tenfold (n : Nat) (e : Int) : Nat × Nat :=
  if 0 ≤ e then (n * Nat.pow 10 e.toNat, 1) else (n, Nat.pow 10 (-e).toNat)

/-- Whether `n * 10 ^ e` rounds to the number of the interval. -/
def Interval.holds (i : Interval) (n : Nat) (e : Int) : Bool :=
  let (a, b) := tenfold n e
  if i.closed then i.low * b ≤ a * i.den && a * i.den ≤ i.high * b
  else i.low * b < a * i.den && a * i.den < i.high * b

/-- The distance of `n * 10 ^ e` from the number, in units common to all `n`. -/
def Interval.distance (i : Interval) (n : Nat) (e : Int) : Nat :=
  let (a, b) := tenfold n e
  (a * i.den - i.value * b) + (i.value * b - a * i.den)

/-- The nearest point of the grid of `10 ^ e` that reads back as the number, if there is one.  Of
two points equally near, the even one. -/
def Interval.onGrid (i : Interval) (e : Int) : Option Nat :=
  let below := if 0 ≤ e then i.value / (i.den * Nat.pow 10 e.toNat)
    else i.value * Nat.pow 10 (-e).toNat / i.den
  let above := below + 1
  match i.holds below e, i.holds above e with
  | false, false => none
  | true, false => some below
  | false, true => some above
  | true, true =>
    let b := i.distance below e
    let a := i.distance above e
    if b < a then some below
    else if a < b then some above
    else if below % 2 == 0 then some below else some above

/-- The first grid that holds a point, from `10 ^ e` down to finer ones. -/
def Interval.search (i : Interval) : Nat → Int → Decimal
  | 0, e => ⟨0, e⟩
  | fuel + 1, e =>
    match i.onGrid e with
    | some n => if n = 0 then i.search fuel (e - 1) else ⟨n, e⟩
    | none => i.search fuel (e - 1)

/-- An exponent of ten at or above that of the number: `3 / 10` is a little less than the
logarithm of two. -/
def topExponent (x : Binary64) : Int :=
  let bits : Int := x.exponent + x.mantissa.log2 + 1
  if 0 ≤ bits then bits * 31 / 100 + 1 else bits * 3 / 10 + 1

/-- Takes the trailing zeros off the digits. -/
def Decimal.trim : Nat → Decimal → Decimal
  | 0, d => d
  | fuel + 1, d =>
    if d.digits != 0 && d.digits % 10 == 0 then trim fuel ⟨d.digits / 10, d.exponent + 1⟩ else d

/-- The shortest decimal that reads back as the magnitude of a number other than zero.  Nineteen
steps below the top exponent there are seventeen digits, which always suffice; subnormal numbers
start up to sixteen digits lower. -/
def shortest (x : Binary64) : Decimal :=
  (x.interval.search 60 x.topExponent).trim 20

/-- The decimal digits of a natural. -/
def digitsOf (n : Nat) : List Char := Nat.toDigits 10 n

/-- Lays out digits with the point after the first `point` of them, which may be none or more
than there are. -/
def fixed (ds : List Char) (point : Int) : List Char :=
  if point ≤ 0 then '0' :: '.' :: (List.replicate (-point).toNat '0' ++ ds)
  else
    let whole := ds.take point.toNat ++ List.replicate (point.toNat - ds.length) '0'
    let places := ds.drop point.toNat
    whole ++ '.' :: (if places.isEmpty then ['0'] else places)

/-- Lays out digits with an exponent. -/
def scientific (ds : List Char) (e : Int) : List Char :=
  let places := ds.drop 1
  ds.take 1 ++ (if places.isEmpty then [] else '.' :: places)
    ++ 'e' :: (if e < 0 then '-' else '+') :: digitsOf e.natAbs

/-- The text of the magnitude. -/
def renderMagnitude (x : Binary64) : List Char :=
  if x.isZero then ['0', '.', '0']
  else
    let d := x.shortest
    let ds := digitsOf d.digits
    let lead : Int := d.exponent + ds.length - 1
    if -5 ≤ lead && lead ≤ 15 then fixed ds (lead + 1) else scientific ds lead

/-- The text of a number. -/
def render (x : Binary64) : List Char :=
  if x.negative then '-' :: x.renderMagnitude else x.renderMagnitude

/-- The text of the number nearest to a quotient, for examples. -/
private def sample (num den : Nat) : Option String :=
  (ofQuotient false num den).map fun x => String.ofList x.render

example : sample 1 10 = some "0.1" := by decide +kernel
example : sample 1 100000 = some "0.00001" := by decide +kernel
example : sample 1 1000000 = some "1e-6" := by decide +kernel
example : sample (10 ^ 15) 1 = some "1000000000000000.0" := by decide +kernel
example : sample (10 ^ 16) 1 = some "1e+16" := by decide +kernel
example : sample 15 10 = some "1.5" := by decide +kernel
example : sample (2 ^ 64) 1 = some "1.8446744073709552e+19" := by decide +kernel
example : sample 1 (2 ^ 1074) = some "5e-324" := by decide +kernel
example : sample 22250738585072014 (10 ^ 324) = some "2.2250738585072014e-308" := by decide +kernel

end Webhook.Binary64
