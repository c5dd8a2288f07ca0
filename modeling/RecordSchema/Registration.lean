import RecordSchema.Rule
import RecordSchema.Transform

/-!
# Registering functions

Functions are values that are known by their names. A `Catalogue` says what each of them does, and a
registry takes them from there; it refuses a value that is no function and stays as it is.
-/

namespace RecordSchema

/-- What functions do when they are called with some values. -/
abbrev Catalogue := String → List Value → Except Fault Value

/-- A function as a rule: it is called with the value and the argument, and the value passes when the
result counts as true. -/
def Rule.ofFunction (catalogue : Catalogue) (function : String) : Rule := fun v argument =>
  (catalogue function [v, argument]).map Value.truthy

/-- A function as a transform: it is called with the value alone. -/
def Transform.ofFunction (catalogue : Catalogue) (function : String) : Transform := fun v =>
  catalogue function [v]

namespace Registry

/-- Registers a value under a name if it is a function, as `make` says. -/
def register {α : Type} (role : String) (make : String → α) (r : Registry α) (name : Text)
    (v : Value) : Except Fault (Registry α) :=
  match v with
  | .function function => .ok (r.put name (make function))
  | _ => .error (.mishap (.notCallable role name v.typeName))

/-- Registers a value as a rule. -/
def registerRule (catalogue : Catalogue) : Registry Rule → Text → Value →
    Except Fault (Registry Rule) :=
  register "Rule" (Rule.ofFunction catalogue)

/-- Registers a value as a transform. -/
def registerTransform (catalogue : Catalogue) : Registry Transform → Text → Value →
    Except Fault (Registry Transform) :=
  register "Transform" (Transform.ofFunction catalogue)

/-- Whether a value is a registered name; one that cannot be looked up is a mishap. -/
def containsValue {α : Type} (r : Registry α) (name : Value) : Except Fault Bool :=
  match name, name.unhashable? with
  | _, some typeName => .error (.mishap (.unhashable typeName))
  | .text s, none => .ok (r.contains s)
  | _, none => .ok false

end Registry

end RecordSchema
