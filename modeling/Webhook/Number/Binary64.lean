/-!
# Binary floating point numbers

The finite numbers of the 64 bit binary format, as a sign, a whole mantissa and an exponent of two.
Arithmetic is exact and then rounded to the nearest number of the format, and of two equally near
ones to the one with the even mantissa.  A result too large for the format is `none`.

Every number has one representation: the mantissa is below `2 ^ 53`, the exponent is at least
`-1074`, and a mantissa below `2 ^ 52` goes with the exponent `-1074` only.
-/

namespace Webhook

/-- A finite number: `mantissa * 2 ^ exponent`, negated when `negative`. -/
structure Binary64 where
  /-- The sign, which zero has too. -/
  negative : Bool
  /-- The whole mantissa, below `2 ^ 53`. -/
  mantissa : Nat
  /-- The exponent of two, at least `-1074`. -/
  exponent : Int
  deriving DecidableEq, Repr

namespace Binary64

/-- The least exponent of the format. -/
def minExponent : Int := -1074

/-- The greatest exponent of the format. -/
def maxExponent : Int := 971

/-- The positive zero. -/
def zero : Binary64 := ⟨false, 0, minExponent⟩

/-- Both zeros count as zero. -/
def isZero (x : Binary64) : Bool := x.mantissa == 0

/-- The number with the other sign. -/
def neg (x : Binary64) : Binary64 := { x with negative := !x.negative }

/-- The quotient of two naturals rounded to the nearest one, a half to the even neighbour. -/
def roundQuotient (num den : Nat) : Nat :=
  let q := num / den
  let r := num % den
  if 2 * r < den then q
  else if den < 2 * r then q + 1
  else if q % 2 == 0 then q else q + 1

/-- The quotient `num / den` in units of `2 ^ e`, rounded. -/
def quotientIn (num den : Nat) (e : Int) : Nat :=
  if 0 ≤ e then roundQuotient num (den <<< e.toNat)
  else roundQuotient (num <<< (-e).toNat) den

/-- The whole part of `num / den` in units of `2 ^ e`. -/
def wholeIn (num den : Nat) (e : Int) : Nat :=
  if 0 ≤ e then num / (den <<< e.toNat) else (num <<< (-e).toNat) / den

/-- The exponent at which the whole part of `num / den` has 53 bits, but no less than the least
exponent of the format.  The lengths of the two naturals give it up to one. -/
def exponentFor (num den : Nat) : Int :=
  let guess : Int := (num.log2 : Int) - (den.log2 : Int) - 52
  let e := if wholeIn num den guess < 1 <<< 52 then guess - 1 else guess
  max e minExponent

/-- The number of the format nearest to `num / den`, or `none` when it is too large. -/
def ofQuotient (negative : Bool) (num den : Nat) : Option Binary64 :=
  if num = 0 then some ⟨negative, 0, minExponent⟩
  else
    let e := exponentFor num den
    let m := quotientIn num den e
    let (m, e) := if m = 1 <<< 53 then (1 <<< 52, e + 1) else (m, e)
    if maxExponent < e then none else some ⟨negative, m, e⟩

/-- The number nearest to a natural. -/
def ofNat (n : Nat) : Option Binary64 := ofQuotient false n 1

/-- The magnitude as a quotient of naturals. -/
def toQuotient (x : Binary64) : Nat × Nat :=
  if 0 ≤ x.exponent then (x.mantissa <<< x.exponent.toNat, 1)
  else (x.mantissa, 1 <<< (-x.exponent).toNat)

/-- The rounded product. -/
def mul (x y : Binary64) : Option Binary64 :=
  let (a, b) := x.toQuotient
  let (c, d) := y.toQuotient
  ofQuotient (x.negative != y.negative) (a * c) (b * d)

/-- The rounded quotient by a number other than zero. -/
def div (x y : Binary64) : Option Binary64 :=
  let (a, b) := x.toQuotient
  let (c, d) := y.toQuotient
  ofQuotient (x.negative != y.negative) (a * d) (b * c)

/-- The number as a signed whole number of parts of one over a divisor of its own. -/
def toFraction (x : Binary64) : Int × Nat :=
  let (a, b) := x.toQuotient
  (if x.negative then -(a : Int) else a, b)

/-- The rounded sum. -/
def add (x y : Binary64) : Option Binary64 :=
  let (a, b) := x.toFraction
  let (c, d) := y.toFraction
  let sum := a * d + c * b
  if sum = 0 then some { zero with negative := x.negative && y.negative }
  else ofQuotient (sum < 0) sum.natAbs (b * d)

/-- The power of ten with a natural exponent, rounded; `none` above `10 ^ 308`. -/
def pow10 (k : Nat) : Option Binary64 := ofNat (Nat.pow 10 k)

example : ofNat 1 = some ⟨false, 2 ^ 52, -52⟩ := by decide +kernel
example : ofNat (2 ^ 53 + 1) = some ⟨false, 2 ^ 52, 1⟩ := by decide +kernel
example : ofQuotient false 1 (2 ^ 1074) = some ⟨false, 1, -1074⟩ := by decide +kernel
example : ofQuotient false 1 (2 ^ 1075) = some zero := by decide +kernel
example : ofNat (2 ^ 1024) = none := by decide +kernel
example : (ofQuotient true 1 2).bind zero.add = ofQuotient true 1 2 := by decide +kernel

end Binary64
end Webhook
