import Sift.Number.Binary

/-!
The shortest decimal that reads back as a given binary fraction. The numbers that round to a
fraction form an interval around it, which holds its ends if the significand is even. Among the
decimals of one digit, then of two and so on, the two neighbours of the fraction are tried until
one lies in the interval; of two that do, the nearer is taken, and of two equally near the
even one.
-/

namespace Sift

/-- The number `digits * 10 ^ exponent`. -/
structure Decimal where
  digits : Nat
  exponent : Int
  deriving DecidableEq, Repr

namespace Shortest

/-- A number and the ends of the interval of numbers that round to it, in quarters of the last
binary place. -/
structure Target where
  low : Nat
  value : Nat
  high : Nat
  closed : Bool
  unit : Int

def target (x : Binary) : Target :=
  let below := if x.significand = Nat.pow 2 52 && x.exponent ≠ Binary.leastExponent then 1 else 2
  { low := 4 * x.significand - below
    value := 4 * x.significand
    high := 4 * x.significand + 2
    closed := x.significand % 2 = 0
    unit := x.exponent - 2 }

/-- How many places `num / den` lies below one: the least `k` with `num * 10 ^ k ≥ den`. -/
def placesBelowOne (num den : Nat) : Nat → Nat
  | 0 => 0
  | fuel + 1 => if den ≤ num then 0 else placesBelowOne (num * 10) den fuel + 1

/-- The exponent of the leading decimal digit of `num / den`. -/
def leadingExponent (num den : Nat) : Int :=
  if den ≤ num then ((Nat.toDigits 10 (num / den)).length : Int) - 1
  else -(placesBelowOne num den 400 : Int)

/-- The decimal with the given place of the last digit that is nearest to the target, if one of
the two neighbours lies in the interval. -/
def onGrid? (t : Target) (place : Int) : Option Decimal :=
  -- `n` quarters are `n * scale / grid` units of the place.
  let scale := Nat.pow 2 t.unit.toNat * Nat.pow 10 (-place).toNat
  let grid := Nat.pow 2 (-t.unit).toNat * Nat.pow 10 place.toNat
  let down := t.value * scale / grid
  let inside (n : Nat) : Bool :=
    if t.closed then t.low * scale ≤ n * grid && n * grid ≤ t.high * scale
    else t.low * scale < n * grid && n * grid < t.high * scale
  let beyond := 2 * (t.value * scale % grid)
  let upNearer := grid < beyond || (beyond = grid && down % 2 = 1)
  match inside down, inside (down + 1) with
  | true, true => some ⟨if upNearer then down + 1 else down, place⟩
  | true, false => some ⟨down, place⟩
  | false, true => some ⟨down + 1, place⟩
  | false, false => none

/-- The decimal without zeros at its end. -/
def trim : Nat → Decimal → Decimal
  | 0, d => d
  | fuel + 1, d =>
      if d.digits ≠ 0 && d.digits % 10 = 0 then trim fuel ⟨d.digits / 10, d.exponent + 1⟩ else d

end Shortest

/-- The shortest decimal that rounds to `x`. Seventeen digits are always enough. -/
def Binary.shortest (x : Binary) : Decimal :=
  if x.isZero then ⟨0, 0⟩
  else
    let t := Shortest.target x
    let (num, den) := Binary.shifted x.significand 1 x.exponent
    let leading := Shortest.leadingExponent num den
    let found := (List.range 17).findSome? fun (count : Nat) => Shortest.onGrid? t (leading - count)
    Shortest.trim 20 (found.getD ⟨0, 0⟩)

end Sift
