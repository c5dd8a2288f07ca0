import RecordSchema.Number.Double

/-!
# Decimal numerals as numbers

`Decimal` is an exact decimal: an integer of digits and a power of ten. `Decimal.toDouble` gives the
nearest binary64 number, ties to even, however many digits the numeral has.
-/

namespace RecordSchema

/-- The decimal `± digits * 10^exponent`, kept with its sign so that zero may be negative. -/
structure Decimal where
  negative : Bool
  digits : Nat
  exponent : Int
  deriving DecidableEq, Repr

namespace Decimal

/-- Decimal digits of a number, most significant first; zero has one. -/
def digitsOf (n : Nat) : List Char :=
  Nat.toDigits 10 n

/-- How many decimal digits a number is written with. -/
def width (n : Nat) : Nat :=
  (digitsOf n).length

/-- The number that a list of digit values denotes in base ten. -/
def ofDigits (digits : List Nat) : Nat :=
  digits.foldl (fun n d => 10 * n + d) 0

/-- The nearest binary64 number. A magnitude of at least `10^310` is infinite and one below
`10^-330` is zero, whatever the digits, which bounds the powers computed for the rest. -/
def toDouble (d : Decimal) : Double :=
  if d.digits = 0 then Double.ofSignificand d.negative 0 0
  else if 310 < d.exponent + width d.digits then Double.infinite d.negative
  else if d.exponent + width d.digits < -330 then Double.ofSignificand d.negative 0 0
  else
    let unit := twoPow Double.unitBits
    if 0 ≤ d.exponent then
      Double.ofQuotient d.negative (d.digits * tenPow d.exponent.toNat * unit) 1
    else
      Double.ofQuotient d.negative (d.digits * unit) (tenPow (-d.exponent).toNat)

end Decimal

end RecordSchema
