import Sift.Number.Text

/-!
What a JSON numeral is worth. Digits are gathered into a significand of 64 bits; from the first
digit that does not fit, the digits of the whole part only raise the exponent and those of the
fraction are dropped. A numeral without point and exponent is a whole number as long as it
fits 64 bits; any other is the significand as a binary fraction, once multiplied or divided by
a power of ten, each step rounded. A numeral beyond the range of binary fractions has no value.
-/

namespace Sift.Json

/-- A numeral taken apart. -/
structure Numeral where
  negative : Bool
  whole : List Nat
  fraction : List Nat
  /-- The sign of the exponent, true if negative, and its digits. -/
  exponent : Option (Bool × List Nat)

namespace Numeral

def greatestSignificand : Nat := Nat.pow 2 64 - 1

def greatestExponent : Nat := Nat.pow 2 31 - 1

/-- Gathers digits while they fit, and gives those that are left. -/
def gather (significand : Nat) : List Nat → Nat × List Nat
  | [] => (significand, [])
  | digit :: digits =>
      let grown := significand * 10 + digit
      if greatestSignificand < grown then (significand, digit :: digits) else gather grown digits

def powerOfTen? (exponent : Nat) : Option Binary :=
  Binary.nearest? (Nat.pow 10 exponent) 1

/-- Divides by a power of ten, at most `10 ^ 308` at a time. -/
def shrink (x : Binary) (places : Nat) : Option Binary :=
  if places ≤ 308 then do x.div? (← powerOfTen? places)
  else if x.isZero then some x
  else do
    let smaller ← x.div? (← powerOfTen? 308)
    shrink smaller (places - 308)
  termination_by places

/-- The significand times a power of ten. -/
def scale (significand : Nat) (exponent : Int) : Option Binary := do
  let x ← Binary.nearest? significand 1
  if exponent < 0 then shrink x exponent.natAbs
  else if exponent ≤ 308 then x.mul? (← powerOfTen? exponent.natAbs)
  else if x.isZero then some x
  else none

def ofDigits (digits : List Nat) : Nat :=
  digits.foldl (fun value digit => value * 10 + digit) 0

/-- A whole number, kept as one if it fits; minus zero is a binary fraction. -/
def integer (negative : Bool) (significand : Nat) : Option Number :=
  if !negative then some (.whole significand)
  else if 0 < significand && significand ≤ Nat.pow 2 63 then some (.whole (-(significand : Int)))
  else do return .fraction true (← Binary.nearest? significand 1)

def value? (numeral : Numeral) : Option Number :=
  let (wholePart, wholeLeft) := gather 0 numeral.whole
  let (significand, fractionLeft) := gather wholePart numeral.fraction
  let places : Int := wholeLeft.length - (numeral.fraction.length - fractionLeft.length : Nat)
  match numeral.exponent with
  | none =>
      if wholeLeft.isEmpty && numeral.fraction.isEmpty then integer numeral.negative significand
      else do return .fraction numeral.negative (← scale significand places)
  | some (below, digits) =>
      let exponent := ofDigits digits
      if greatestExponent < exponent then
        if significand ≠ 0 && !below then none else some (.fraction numeral.negative .zero)
      else do
        let total := if below then places - exponent else places + exponent
        return .fraction numeral.negative (← scale significand total)

end Numeral

end Sift.Json
