import RecordSchema.Number.Double

/-!
# Integers and binary64 numbers in one order

A `Number` is an integer or a binary64 number. Numbers of both kinds are compared by their exact
values on the extended line of units, so no comparison loses precision at any magnitude.
-/

namespace RecordSchema

/-- An integer of any size or a binary64 number. -/
inductive Number where
  | int (n : Int)
  | double (x : Double)
  deriving DecidableEq, Repr

/-- A point on the line of exact values, counted in units, with both ends. -/
inductive Position where
  | bottom
  | units (u : Int)
  | top
  deriving DecidableEq, Repr

/-- The order of positions from left to right. -/
def Position.le : Position → Position → Bool
  | bottom, _ => true
  | _, top => true
  | units u, units v => u ≤ v
  | _, _ => false

namespace Number

/-- The place of a number on the line; what is not a number has none. -/
def position? : Number → Option Position
  | int n => some (.units (Double.unitsOfInt n))
  | double (.nan _) => none
  | double (.infinite negative) => some (if negative then .bottom else .top)
  | double (.finite negative exponent fraction) =>
    some (.units (Double.signed negative (Double.magnitude exponent fraction)))

/-- Exact comparison; false as soon as either side is not a number. -/
def le (x y : Number) : Bool :=
  match x.position?, y.position? with
  | some p, some q => p.le q
  | _, _ => false

/-- Exact equality; what is not a number equals nothing. -/
def same (x y : Number) : Bool :=
  match x.position?, y.position? with
  | some p, some q => p == q
  | _, _ => false

end Number

end RecordSchema
