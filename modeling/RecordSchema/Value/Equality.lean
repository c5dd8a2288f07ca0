import RecordSchema.Value.Basic

/-!
# Equality of values

Values are the same when numbers of all types have one exact value, texts and functions one
spelling, lists and tuples the same items in their own kind, and mappings the same entries in any
order. The only thing that is not the same as itself is not-a-number; inside a container the shared
one is.
-/

namespace RecordSchema.Value

/-- Whether both values are the not-a-number that documents share. -/
def bothSharedNaN : Value → Value → Bool
  | float (.nan true), float (.nan true) => true
  | _, _ => false

/-- Equality of two values without parts. -/
def sameLeaf : Value → Value → Bool
  | null, null => true
  | text s, text t => s == t
  | function f, function g => f == g
  | v, w =>
    match v.number?, w.number? with
    | some x, some y => x.same y
    | _, _ => false

mutual

/-- Equality of values. -/
def same : Value → Value → Bool
  | list xs, list ys => sameItems xs ys
  | tuple xs, tuple ys => sameItems xs ys
  | record _ xs, record _ ys => xs.length == ys.length && entriesWithin xs ys
  | v, w => sameLeaf v w

/-- Equality of items, one by one. -/
def sameItems : List Value → List Value → Bool
  | [], [] => true
  | x :: xs, y :: ys => (bothSharedNaN x y || same x y) && sameItems xs ys
  | _, _ => false

/-- Whether each entry of the first list is among the second. -/
def entriesWithin : List (Value × Value) → List (Value × Value) → Bool
  | [], _ => true
  | (k, v) :: rest, others =>
    (match others.find? fun other => bothSharedNaN k other.1 || same k other.1 with
      | some (_, w) => bothSharedNaN v w || same v w
      | none => false) && entriesWithin rest others

end

end RecordSchema.Value
