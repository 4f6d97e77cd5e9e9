import Sift.Number.Shortest

/-!
How numbers are written. A binary fraction always shows that it is one: with a point as long
as its leading digit is neither too far left nor too far right, with an exponent otherwise.
-/

namespace Sift

/-- A number that data holds: whole, or a binary fraction with a sign. -/
inductive Number where
  | whole (value : Int)
  | fraction (negative : Bool) (magnitude : Binary)
  deriving DecidableEq, Repr

namespace Number

/-- The decimal with a point, for a leading digit at `10 ^ leading`. -/
def positional (digits : List Char) (leading : Int) : List Char :=
  if leading < 0 then
    ['0', '.'] ++ List.replicate ((-leading).toNat - 1) '0' ++ digits
  else
    let whole := leading.toNat + 1
    let rest := digits.drop whole
    digits.take whole ++ List.replicate (whole - digits.length) '0' ++ ['.']
      ++ (if rest.isEmpty then ['0'] else rest)

/-- The decimal with an exponent, which carries its sign. -/
def scientific (digits : List Char) (leading : Int) : List Char :=
  let rest := digits.drop 1
  digits.take 1 ++ (if rest.isEmpty then [] else '.' :: rest) ++ ['e']
    ++ (if leading < 0 then ['-'] else ['+']) ++ Nat.toDigits 10 leading.natAbs

/-- A decimal is written with a point if its leading digit stands at `10 ^ -5` to `10 ^ 15`. -/
def decimalText (d : Decimal) : List Char :=
  if d.digits = 0 then ['0', '.', '0']
  else
    let digits := Nat.toDigits 10 d.digits
    let leading := d.exponent + digits.length - 1
    if -5 ≤ leading && leading < 16 then positional digits leading else scientific digits leading

def text : Number → String
  | .whole value => toString value
  | .fraction negative magnitude =>
      String.ofList ((if negative then ['-'] else []) ++ decimalText magnitude.shortest)

end Number

end Sift
