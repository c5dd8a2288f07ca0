import RecordSchema.Fault
import RecordSchema.Pattern.Basic
import RecordSchema.Registry
import RecordSchema.Value.Equality

/-!
# Rules

A `Rule` decides whether a value passes, given the argument that a schema states for it. The nine
built-in rules fail for values of the wrong kind; only an argument of the wrong kind is a mishap,
and only for values that the rule would look at.
-/

namespace RecordSchema

/-- A predicate on a value and an argument, which may stop the run. -/
abbrev Rule := Value → Value → Except Fault Bool

namespace Rule

/-- Whether a number of a type is at least a bound. -/
def atLeast (typeName : String) (x : Number) (bound : Value) : Except Fault Bool :=
  match bound.number? with
  | some y => .ok (y.le x)
  | none => .error (.mishap (.unordered ">=" typeName bound.typeName))

/-- Whether a number of a type is at most a bound. -/
def atMost (typeName : String) (x : Number) (bound : Value) : Except Fault Bool :=
  match bound.number? with
  | some y => .ok (x.le y)
  | none => .error (.mishap (.unordered "<=" typeName bound.typeName))

/-- The kind of the value is the argument. -/
def type : Rule := fun v expected =>
  .ok (expected.same (.text v.kindName))

/-- Whether a value has at least so many items or characters. -/
def minLength : Rule := fun v bound =>
  match v.length? with
  | some n => atLeast "int" (.int n) bound
  | none => .ok false

/-- Whether a value has at most so many items or characters. -/
def maxLength : Rule := fun v bound =>
  match v.length? with
  | some n => atMost "int" (.int n) bound
  | none => .ok false

/-- The value is an integer, or a finite number without a fraction. -/
def isInteger : Rule := fun v _ =>
  match v with
  | .int _ => .ok true
  | .float x => .ok x.isWhole
  | _ => .ok false

/-- The value is a number of at least the argument; a boolean is no number here. -/
def min : Rule := fun v bound =>
  match v with
  | .int n => atLeast "int" (.int n) bound
  | .float x => atLeast "float" (.double x) bound
  | _ => .ok false

/-- The value is a number of at most the argument; a boolean is no number here. -/
def max : Rule := fun v bound =>
  match v with
  | .int n => atMost "int" (.int n) bound
  | .float x => atMost "float" (.double x) bound
  | _ => .ok false

/-- The pattern that an argument states. -/
def patternOf (argument : Value) : Except Fault Pattern :=
  match argument with
  | .text source =>
    match Pattern.ofText source.toList with
    | .ok pattern => .ok pattern
    | .error fault => .error (.mishap (.badPattern fault))
  | _ =>
    match argument.unhashable? with
    | some typeName => .error (.mishap (.unhashable typeName))
    | none => .error (.mishap .notPattern)

/-- The value is a text in which the pattern is found. The pattern is not read for other values. -/
def pattern : Rule := fun v argument =>
  match v with
  | .text s =>
    match patternOf argument with
    | .ok p => .ok (p.search s.toList)
    | .error fault => .error fault
  | _ => .ok false

/-- Whether a candidate is the value, both or neither of them being a boolean. -/
def isCandidate (v candidate : Value) : Bool :=
  candidate.isBool == v.isBool && candidate.same v

/-- The value is one of those that the argument lists. -/
def enum : Rule := fun v allowed =>
  match allowed.items? with
  | some candidates => .ok (candidates.any (isCandidate v))
  | none => .error (.mishap (.notIterable allowed.typeName))

/-- The value is a function. -/
def isFunction : Rule := fun v _ =>
  match v with
  | .function _ => .ok true
  | _ => .ok false

/-- The built-in rules. -/
def builtin : Registry Rule :=
  .ofList [("type", type), ("minLength", minLength), ("maxLength", maxLength),
    ("isInteger", isInteger), ("min", min), ("max", max), ("pattern", pattern), ("enum", enum),
    ("isFunction", isFunction)]

/-- Calls a rule by name, which must be registered. -/
def invoke (rules : Registry Rule) (name : Text) (v argument : Value) : Except Fault Bool :=
  match rules.get? name with
  | some rule => rule v argument
  | none => .error (.mishap (.missingKey (.text name)))

end Rule

end RecordSchema
