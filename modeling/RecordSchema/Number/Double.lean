import RecordSchema.Number.Power

/-!
# Binary floating-point numbers

A `Double` is an IEEE 754 binary64 number given by its fields. Every finite one is a whole
multiple of the least positive one, `2^-1074`, so its exact value is the integer `Double.units`,
and comparison, truncation and rounding are integer arithmetic with no error.
-/

namespace RecordSchema

/-- How many values the 52 fraction bits take. -/
abbrev Double.fractionCount : Nat := 0x10000000000000

/-- A binary64 number: a sign, an exponent below the all-ones one, and 52 fraction bits. -/
inductive Double where
  /-- Not a number. Documents read together hold one `shared` such number, and each other one is
  a thing of its own. -/
  | nan (shared : Bool)
  | infinite (negative : Bool)
  | finite (negative : Bool) (exponent : Fin 2047) (fraction : Fin Double.fractionCount)
  deriving DecidableEq, Repr

namespace Double

/-- How many bits the least positive number lies below one. -/
def unitBits : Nat := 1074

/-- The integer `n`, counted in units of the least positive number. -/
def unitsOfInt (n : Int) : Int :=
  n * twoPow unitBits

/-- The magnitude of a finite number in units: the implicit bit is present unless the exponent
field is zero. -/
def magnitude (exponent : Fin 2047) (fraction : Fin Double.fractionCount) : Nat :=
  if exponent.val = 0 then fraction.val
  else (fractionCount + fraction.val) * twoPow (exponent.val - 1)

/-- The magnitude with its sign. -/
def signed (negative : Bool) (n : Nat) : Int :=
  if negative then -(n : Int) else n

/-- The exact value of a finite number, in units. -/
def units? : Double → Option Int
  | finite negative exponent fraction => some (signed negative (magnitude exponent fraction))
  | _ => none

/-- Positive zero. -/
def zero : Double :=
  finite false ⟨0, by decide⟩ ⟨0, by decide⟩

def isFinite : Double → Bool
  | finite .. => true
  | _ => false

/-- Both zeros are zero. -/
def isZero : Double → Bool
  | finite _ exponent fraction => exponent.val == 0 && fraction.val == 0
  | _ => false

/-- A finite number is whole when one, in units, divides it. -/
def isWhole (x : Double) : Bool :=
  match x.units? with
  | some u => u % twoPow unitBits == 0
  | none => false

/-- The integer nearest to zero between zero and the number, or none for the non-finite ones. -/
def truncate? (x : Double) : Option Int :=
  x.units?.map fun u => u.tdiv (twoPow unitBits)

/-- The quotient nearest to `num / den`, and of two equally near the even one. -/
def nearestQuotient (num den : Nat) : Nat :=
  let q := num / den
  let r := num % den
  if 2 * r < den then q
  else if den < 2 * r then q + 1
  else if q % 2 = 0 then q
  else q + 1

/-- The number with a given sign whose magnitude, in units, is `m * 2^shift`: `m` has at most 53
bits, and is full (at least `2^52`) unless `shift` is zero. A magnitude beyond the greatest is
infinite. -/
def ofSignificand (negative : Bool) (m shift : Nat) : Double :=
  if m < fractionCount then
    finite negative ⟨0, by decide⟩ (Fin.ofNat fractionCount m)
  else if h : shift + 1 < 2047 then
    finite negative ⟨shift + 1, h⟩ (Fin.ofNat fractionCount (m - fractionCount))
  else
    infinite negative

/-- The number nearest to `num / den` units, ties to the even significand. The significand takes
53 bits of the quotient; rounding up to `2^53` moves to the next exponent. -/
def ofQuotient (negative : Bool) (num den : Nat) : Double :=
  let q := num / den
  let shift := if q < 2 * fractionCount then 0 else q.log2 - 52
  let m := nearestQuotient num (den * twoPow shift)
  if m = 2 * fractionCount then ofSignificand negative fractionCount (shift + 1)
  else ofSignificand negative m shift

/-- Whether an integer is too large for the nearest number to be finite: half a step beyond the
greatest one rounds away from it. -/
def overflows (n : Int) : Bool :=
  twoPow 1024 - twoPow 970 ≤ n.natAbs

end Double

end RecordSchema
