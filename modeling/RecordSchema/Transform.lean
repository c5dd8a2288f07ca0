import RecordSchema.Fault
import RecordSchema.Registry
import RecordSchema.Text.Integer
import RecordSchema.Text.Lowercase

/-!
# Transforms

A `Transform` changes a value before it is checked. The three built-in ones leave values of other
kinds alone, except that `toInt` gives not-a-number for whatever holds no integer. Transforms are
applied in the order of their names, and a name that is not registered is passed over.
-/

namespace RecordSchema

/-- A function on values, which may stop the run. -/
abbrev Transform := Value → Except Fault Value

namespace Transform

/-- Removes blanks from both ends of a text. -/
def trim : Transform := fun v =>
  match v with
  | .text s => .ok (.text (Text.ofList (Text.trim s.toList)))
  | _ => .ok v

/-- Gives a text in lower case. -/
def toLowerCase : Transform := fun v =>
  match v with
  | .text s => .ok (.text (Text.ofList (Text.lower s.toList)))
  | _ => .ok v

/-- The result for values that hold no integer. -/
def notANumber : Value :=
  .float (.nan false)

/-- Gives the integer that a text starts with, or a number without its fraction. An integer too
large for any finite binary64 number is a mishap, and so is a text with too many digits. -/
def toInt : Transform := fun v =>
  match v with
  | .int n =>
    if Double.overflows n then .error (.mishap .integerTooLarge) else .ok (.int n)
  | .float x =>
    match x.truncate? with
    | some n => .ok (.int n)
    | none => .ok notANumber
  | .text s =>
    match Text.leadingInteger s.toList with
    | .integer n => .ok (.int n)
    | .tooLong digits => .error (.mishap (.tooManyDigits digits))
    | .missing => .ok notANumber
  | _ => .ok notANumber

/-- The built-in transforms. -/
def builtin : Registry Transform :=
  .ofList [("trim", trim), ("toLowerCase", toLowerCase), ("toInt", toInt)]

/-- Applies the transforms of some names to a value, from left to right. -/
def applyAll (transforms : Registry Transform) : List Text → Value → Except Fault Value
  | [], v => .ok v
  | name :: rest, v =>
    match transforms.get? name with
    | none => applyAll transforms rest v
    | some f =>
      match f v with
      | .ok w => applyAll transforms rest w
      | .error fault => .error fault

/-- Applies transforms whose names are values: those that are no text are passed over too, but one
that could not be looked up at all is a mishap. -/
def applyItems (transforms : Registry Transform) : List Value → Value → Except Fault Value
  | [], v => .ok v
  | item :: rest, v =>
    match item, item.unhashable? with
    | _, some typeName => .error (.mishap (.unhashable typeName))
    | .text name, none =>
      match applyAll transforms [name] v with
      | .ok w => applyItems transforms rest w
      | .error fault => .error fault
    | _, none => applyItems transforms rest v

/-- Applies the transforms that the items of a value name. -/
def applyNamed (transforms : Registry Transform) (names v : Value) : Except Fault Value :=
  match names.items? with
  | some items => applyItems transforms items v
  | none => .error (.mishap (.notIterable names.typeName))

/-- Calls a transform by name, which must be registered. -/
def invoke (transforms : Registry Transform) (name : Text) (v : Value) : Except Fault Value :=
  match transforms.get? name with
  | some f => f v
  | none => .error (.mishap (.missingKey (.text name)))

end Transform

end RecordSchema
