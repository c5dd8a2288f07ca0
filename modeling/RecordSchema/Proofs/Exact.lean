import Mathlib
import RecordSchema.Number.Order

/-!
# Exact values

A finite binary64 number is a rational number, its significand times a power of two (`Double.value?`), and
counting it in units of the least positive number loses nothing (`Double.value?_eq`). So dropping the fraction
of a number is exact at any magnitude (`Double.truncate?_eq`).
-/

namespace RecordSchema

/-- A power of two is the same among the rational numbers. -/
lemma natCast_twoPow (n : Nat) : (twoPow n : ℚ) = 2 ^ n :=
  Nat.cast_pow 2 n

/-- The integer next to a rational number on the side of zero. -/
def towardZero (q : ℚ) : ℤ :=
  if 0 ≤ q then ⌊q⌋ else ⌈q⌉

/-- Dropping the fraction of a quotient is dividing toward zero. -/
lemma towardZero_div (u : ℤ) {d : ℕ} (positive : 0 < d) : towardZero (u / d) = u.tdiv d := by
  have positive' : (0 : ℚ) < d := Nat.cast_pos.2 positive
  by_cases nonnegative : 0 ≤ u
  · have above : (0 : ℚ) ≤ u / d := div_nonneg (Int.cast_nonneg nonnegative) positive'.le
    rw [towardZero, if_pos above, Rat.floor_intCast_div_natCast, Int.tdiv_eq_ediv_of_nonneg nonnegative]
  · have below : (u / d : ℚ) < 0 := div_neg_of_neg_of_pos (Int.cast_lt_zero.2 (by omega)) positive'
    have turned : u.tdiv d = -((-u).tdiv d) := by
      rw [Int.neg_tdiv, neg_neg]
    rw [towardZero, if_neg below.not_ge, Rat.ceil_intCast_div_natCast, turned,
      Int.tdiv_eq_ediv_of_nonneg (by omega)]

namespace Double

/-- The exact value of a finite number: its significand, in which the first bit is implied unless the exponent
field is zero, times a power of two. -/
def value? : Double → Option ℚ
  | finite negative exponent fraction =>
    some ((if negative then -1 else 1) *
      if exponent.val = 0 then (fraction.val : ℚ) * 2 ^ (-1074 : ℤ)
      else (2 ^ 52 + fraction.val : ℚ) * 2 ^ ((exponent.val : ℤ) - 1075))
  | _ => none

/-- The magnitude of a number counts its units. -/
lemma magnitude_div (exponent : Fin 2047) (fraction : Fin fractionCount) :
    (magnitude exponent fraction : ℚ) / (twoPow unitBits : ℕ) =
      if exponent.val = 0 then (fraction.val : ℚ) * 2 ^ (-1074 : ℤ)
      else (2 ^ 52 + fraction.val : ℚ) * 2 ^ ((exponent.val : ℤ) - 1075) := by
  have unit : (2 : ℚ) ^ (-1074 : ℤ) = ((2 : ℚ) ^ unitBits)⁻¹ := by
    rw [zpow_neg]
    exact congrArg _ (zpow_natCast 2 unitBits)
  rw [natCast_twoPow, magnitude, div_eq_mul_inv, ← unit]
  split
  · rfl
  · have shift : ((exponent.val - 1 : ℕ) : ℤ) + -1074 = (exponent.val : ℤ) - 1075 := by
      omega
    have count : ((fractionCount : ℕ) : ℚ) = 2 ^ 52 := by
      norm_num
    rw [Nat.cast_mul, Nat.cast_add, natCast_twoPow, count, mul_assoc, ← shift, zpow_add₀ two_ne_zero,
      zpow_natCast]

/-- The sign of a quotient is that of its numerator. -/
lemma signed_div (negative : Bool) (n d : ℕ) :
    ((signed negative n : ℤ) : ℚ) / d = (if negative then -1 else 1) * ((n : ℚ) / d) := by
  cases negative with
  | true => simp [signed, neg_div]
  | false => simp [signed]

/-- The exact value of a number is the count of its units. -/
lemma value?_eq (x : Double) :
    x.value? = x.units?.map fun u : ℤ => (u : ℚ) / (twoPow unitBits : ℕ) := by
  cases x with
  | finite negative exponent fraction =>
    rw [value?, units?, Option.map_some, signed_div, magnitude_div]
  | _ => rfl

/-- Dropping the fraction gives the next integer on the side of zero, however large the number is. -/
lemma truncate?_eq (x : Double) : x.truncate? = x.value?.map towardZero := by
  have same : ∀ u : ℤ, towardZero (u / (twoPow unitBits : ℕ)) = u.tdiv (twoPow unitBits) :=
    fun u => towardZero_div u (twoPow_pos unitBits)
  rw [truncate?, value?_eq, Option.map_map]
  simp only [Function.comp_def, same]

end Double

end RecordSchema
