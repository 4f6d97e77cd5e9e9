/-!
Binary fractions of double precision: significands below 2^53 and exponents from -1074 to 971,
without a sign. The rounding of a quotient is exact, to the nearest fraction, and a value
halfway between two of them goes to the one with the even significand.
-/

namespace Sift

/-- The number `significand * 2 ^ exponent`. -/
structure Binary where
  significand : Nat
  exponent : Int
  deriving DecidableEq, Repr

namespace Binary

def leastExponent : Int := -1074

def greatestExponent : Int := 971

def zero : Binary := ⟨0, leastExponent⟩

def isZero (x : Binary) : Bool :=
  x.significand = 0

/-- The whole number nearest to `num / den`; a half goes to the even neighbour. -/
def roundDiv (num den : Nat) : Nat :=
  let quotient := num / den
  let twice := 2 * (num % den)
  if den < twice || (twice = den && quotient % 2 = 1) then quotient + 1 else quotient

/-- Numerator and denominator of `num / den * 2 ^ exponent`. -/
def shifted (num den : Nat) (exponent : Int) : Nat × Nat :=
  (num * Nat.pow 2 exponent.toNat, den * Nat.pow 2 (-exponent).toNat)

/-- The greatest `k` with `2 ^ k ≤ num / den`, for positive numbers. -/
def floorLog2 (num den : Nat) : Int :=
  let estimate : Int := (num.log2 : Int) - (den.log2 : Int)
  let (scaledNum, scaledDen) := shifted num den (-estimate)
  if scaledDen ≤ scaledNum then estimate else estimate - 1

/-- The binary fraction nearest to `num / den`, unless it is too great. -/
def nearest? (num den : Nat) : Option Binary :=
  if num = 0 then some zero
  else
    let exponent := max (floorLog2 num den - 52) leastExponent
    let (scaledNum, scaledDen) := shifted num den (-exponent)
    let significand := roundDiv scaledNum scaledDen
    let rounded : Binary :=
      if significand = Nat.pow 2 53 then ⟨Nat.pow 2 52, exponent + 1⟩ else ⟨significand, exponent⟩
    if greatestExponent < rounded.exponent then none else some rounded

/-- The product of two binary fractions, rounded. -/
def mul? (x y : Binary) : Option Binary :=
  let (num, den) := shifted (x.significand * y.significand) 1 (x.exponent + y.exponent)
  nearest? num den

/-- The quotient of two binary fractions, rounded; the divisor is not zero. -/
def div? (x y : Binary) : Option Binary :=
  let (num, den) := shifted x.significand y.significand (x.exponent - y.exponent)
  nearest? num den

/-- The binary fraction nearest to `digits * 10 ^ exponent`, unless it is too great. Far beyond
the range of exponents nothing has to be computed. -/
def ofDecimal? (digits : Nat) (exponent : Int) : Option Binary :=
  let places := ((Nat.toDigits 10 digits).length : Int)
  if digits = 0 then some zero
  else if 320 < exponent + places then none
  else if exponent + places < -340 then some zero
  else nearest? (digits * Nat.pow 10 exponent.toNat) (Nat.pow 10 (-exponent).toNat)

end Binary

end Sift
