import RecordSchema.Value.Basic

/-!
# Schemas

A `Schema` is an ordered list of properties. Each property says what a name must hold: transforms to
apply first, a nested schema to descend into, and rules to check.
-/

namespace RecordSchema

/-- How a property descends into its value. -/
inductive Nesting (α : Type) where
  /-- Not at all. -/
  | plain
  /-- Into a named schema, which stands in place of all rules. -/
  | reference (name : Text)
  /-- Into a schema of its own, beside its rules. -/
  | inline (properties : List α)

/-- What a schema says about one name. -/
structure Property where
  name : Text
  optional : Bool
  transforms : List Text
  nesting : Nesting Property
  /-- The names of rules with their arguments, in order. -/
  rules : List (Text × Value)

/-- Properties in the order in which they are checked. -/
abbrev Schema := List Property

/-- The mark at the end of the key of an optional property. -/
def optionalMark : Char := '?'

/-- The name that a key stands for, and whether it is optional: only the last mark counts. -/
def splitKey (key : Text) : Text × Bool :=
  match key.toList.reverse with
  | c :: rest =>
    if c = .char optionalMark then (Text.ofList rest.reverse, true) else (key, false)
  | [] => (key, false)

namespace Property

/-- The key that a property is written under. -/
def key (p : Property) : Text :=
  if p.optional then p.name.push optionalMark else p.name

end Property

end RecordSchema
