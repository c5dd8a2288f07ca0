/-!
# Powers of two and ten

The powers that binary and decimal notation are made of.
-/

namespace RecordSchema

/-- Two to the power of `n`. -/
def twoPow (n : Nat) : Nat :=
  Nat.pow 2 n

/-- Ten to the power of `n`. -/
def tenPow (n : Nat) : Nat :=
  Nat.pow 10 n

/-- A power of two is positive. -/
theorem twoPow_pos (n : Nat) : 0 < twoPow n :=
  Nat.pow_pos (by decide)

/-- A greater exponent gives no smaller power of two. -/
theorem twoPow_le {m n : Nat} (le : m ≤ n) : twoPow m ≤ twoPow n :=
  Nat.pow_le_pow_right (by decide) le

/-- A power of ten is positive. -/
theorem tenPow_pos (n : Nat) : 0 < tenPow n :=
  Nat.pow_pos (by decide)

end RecordSchema
