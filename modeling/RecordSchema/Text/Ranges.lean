import RecordSchema.Text.Basic

/-!
# Sets of characters by ranges

A set of code points is an ascending list of disjoint ranges, ends included.
-/

namespace RecordSchema.Text

/-- Ranges of code points in ascending order. -/
abbrev Ranges := List (Nat × Nat)

/-- Membership; the search stops at the first range that starts beyond the code point. -/
def Ranges.contains : Ranges → Nat → Bool
  | [], _ => false
  | (first, last) :: rest, n =>
    if n < first then false
    else if n ≤ last then true
    else Ranges.contains rest n

end RecordSchema.Text
