import RecordSchema.Number.Decimal

/-!
# Shortest decimal digits

The decimal with the fewest digits that still rounds to a given finite number, and among those the
one nearest to it. Candidates with `k` digits are the two neighbours of the value on the decimal
grid of `k` digits; seventeen digits always suffice.
-/

namespace RecordSchema.Double

/-- The decimals that round to a number: those between `low` and `high` quarter units, the ends
being included when the significand is even. -/
structure Interval where
  value : Nat
  low : Nat
  high : Nat
  closed : Bool

/-- The interval of a positive finite number. The gap below a power of two is half as wide as the
one above, except at the least exponents. -/
def interval (exponent : Fin 2047) (fraction : Fin fractionCount) : Interval :=
  let step := if exponent.val = 0 then 1 else twoPow (exponent.val - 1)
  let value := 4 * magnitude exponent fraction
  let below := if fraction.val = 0 ∧ 1 < exponent.val then step else 2 * step
  { value, low := value - below, high := value + 2 * step, closed := fraction.val % 2 == 0 }

/-- Whether `num / den` quarter units lie in the interval. -/
def Interval.holds (i : Interval) (num den : Nat) : Bool :=
  if i.closed then i.low * den ≤ num && num ≤ i.high * den
  else i.low * den < num && num < i.high * den

/-- Quarter units in one. -/
def quarterUnits : Nat := 4 * twoPow unitBits

/-- The least power of ten, up to `fuel`, that lifts `value` quarter units to one or more. -/
def liftingPower (value : Nat) : Nat → Nat → Nat
  | 0, power => power
  | fuel + 1, power =>
    if quarterUnits ≤ value * tenPow power then power else liftingPower value fuel (power + 1)

/-- The exponent of the leading decimal digit of `value` quarter units. -/
def leadingExponent (value : Nat) : Int :=
  if quarterUnits ≤ value then Decimal.width (value / quarterUnits) - 1
  else
    -- Starts a little below the power of ten that the binary length of the value gives.
    let start := (quarterUnits.log2 - value.log2) * 301 / 1000 - 2
    Int.negOfNat (liftingPower value 400 start)

/-- Of the two neighbours `n` and `n + 1` of the value on the grid of `10^exponent`, those that
round to it; of both the nearer, and of a tie the even one. -/
def neighbour? (i : Interval) (exponent : Int) : Option Nat :=
  -- One grid step is `stepNum / stepDen` quarter units.
  let stepNum := if 0 ≤ exponent then quarterUnits * tenPow exponent.toNat else quarterUnits
  let stepDen := if 0 ≤ exponent then 1 else tenPow (-exponent).toNat
  let n := i.value * stepDen / stepNum
  let below := i.holds (n * stepNum) stepDen
  let above := i.holds ((n + 1) * stepNum) stepDen
  match below, above with
  | true, true =>
    let rest := 2 * (i.value * stepDen - n * stepNum)
    if rest < stepNum then some n
    else if stepNum < rest then some (n + 1)
    else if n % 2 = 0 then some n
    else some (n + 1)
  | true, false => some n
  | false, true => some (n + 1)
  | false, false => none

/-- Tries the grids of more and more digits, `fuel` of them. -/
def shortestFrom (i : Interval) (leading : Int) : Nat → Nat → Nat × Int
  | 0, count =>
    ((neighbour? i (leading - count)).getD 0, leading - count)
  | fuel + 1, count =>
    match neighbour? i (leading - count) with
    | some n => (n, leading - count)
    | none => shortestFrom i leading fuel (count + 1)

/-- The shortest digits of a positive finite number and the power of ten of the last of them. -/
def shortest (exponent : Fin 2047) (fraction : Fin fractionCount) : Nat × Int :=
  let i := interval exponent fraction
  shortestFrom i (leadingExponent i.value) 17 0

end RecordSchema.Double
