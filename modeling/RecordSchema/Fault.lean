import RecordSchema.Issue
import RecordSchema.Pattern.Flaw
import RecordSchema.Text.Integer
import RecordSchema.Value.Display

/-!
# Faults

Everything that can stop a run. A `Failure` blames the data: it says what is violated and on which
path from the record down. A `SchemaFault` blames a schema document. Every other `Mishap` comes from
a function, or from an argument of the wrong shape, and is told apart by its cause.
-/

namespace RecordSchema

/-- What the data violates. -/
inductive Violation where
  /-- What is asserted is no mapping. -/
  | notRecord
  | missing (name : Text)
  /-- A property with an inner schema holds no mapping. -/
  | notObject (name : Text)
  | unknownRule (rule : Text)
  | failedRule (rule name : Text) (value : Value)
  /-- A run was stopped below a property by something that is no failure. -/
  | interrupted (name reason : Text)
  | contextNotRecord
  | missingSection (section_ : Text)
  /-- Reported by a function in its own words. -/
  | reported (message : Text) (rule? : Option Text) (value : Value)

namespace Violation

/-- The message of a violation. -/
def message : Violation → Text
  | notRecord => "Assertion failed: provided data must be a non-null object."
  | missing name => "Assertion failed: required property '" ++ name ++ "' is missing."
  | notObject name => "Assertion failed: property '" ++ name ++ "' must be an object."
  | unknownRule rule => "Unknown validation rule: '" ++ rule ++ "'."
  | failedRule rule name _ =>
    "Validation failed for rule '" ++ rule ++ "' on '" ++ name ++ "'."
  | interrupted name reason => "Validation failed for '" ++ name ++ "': " ++ reason
  | contextNotRecord => "Contract verification failed: context must be a non-null object."
  | missingSection name =>
    "Contract requires a '" ++ name ++ "' section, but it's missing from the context."
  | reported message _ _ => message

/-- The rule that is violated: a named one, or one of the three that every schema implies. -/
def rule? : Violation → Option Text
  | notRecord => some "type"
  | missing _ => some "required"
  | notObject _ => some "type"
  | unknownRule _ => some "unknown"
  | failedRule rule _ _ => some rule
  | interrupted _ _ => none
  | contextNotRecord => some "type"
  | missingSection _ => some "required"
  | reported _ rule? _ => rule?

/-- The offending value, which only failed rules have. -/
def value : Violation → Value
  | failedRule _ _ value => value
  | reported _ _ value => value
  | _ => .null

end Violation

/-- A violation and the names that lead to it, outermost first. -/
structure Failure where
  path : List Text
  violation : Violation

namespace Failure

/-- The same failure seen from outside of a property. -/
def within (name : Text) (failure : Failure) : Failure :=
  { failure with path := name :: failure.path }

/-- The path as one text, or nothing when the record itself fails. -/
def property? (failure : Failure) : Option Text :=
  match failure.path with
  | [] => none
  | name :: rest => some (Text.intercalate "." (name :: rest))

def message (failure : Failure) : Text :=
  failure.violation.message

def rule? (failure : Failure) : Option Text :=
  failure.violation.rule?

def value (failure : Failure) : Value :=
  failure.violation.value

/-- A text, or nothing, as a value. -/
def optionalText : Option Text → Value
  | some s => .text s
  | none => .null

/-- The failure as a record, for reports. -/
def toRecord (failure : Failure) : Record :=
  [(.text "property", optionalText failure.property?), (.text "rule", optionalText failure.rule?),
    (.text "message", .text failure.message), (.text "value", failure.value)]

/-- The failure in one line, its texts quoted. -/
def display (failure : Failure) : Text :=
  "ValidationError(property=" ++ (optionalText failure.property?).display ++ ", rule=" ++
    (optionalText failure.rule?).display ++ ", message=" ++ Text.quoted failure.message ++ ")"

end Failure

/-- What is wrong with a schema document. -/
inductive SchemaFault where
  | keyNotText (key : Value)
  | ruleSetNotMapping (key : Text) (found : Value)
  | schemaNotMapping (found : Value)
  | tableNotMapping (found : Value)
  | contractNotMapping (found : Value)
  /-- The fields of a rule set have issues. -/
  | invalidRuleSet (key : Text) (issues : List Issue)
  /-- Reported by a function in its own words. -/
  | reported (message : Text)

namespace SchemaFault

/-- How a message about the issues of a rule set starts. -/
def heading (key : Text) : Text :=
  "Invalid rule set for '" ++ key ++ "': "

/-- The message of a schema fault; of the issues of a rule set only their number is told. -/
def message : SchemaFault → Text
  | keyNotText key => "Schema keys must be strings, got " ++ key.display
  | ruleSetNotMapping key found =>
    "Rule set for '" ++ key ++ "' must be a mapping, got " ++ found.typeName
  | schemaNotMapping found => "Schema must be a mapping, got " ++ found.typeName
  | tableNotMapping found => "Named schemas must be a mapping, got " ++ found.typeName
  | contractNotMapping found => "Contract must be a mapping, got " ++ found.typeName
  | invalidRuleSet key issues =>
    heading key ++ Decimal.writeNat issues.length ++
      (if issues.length = 1 then " validation error" else " validation errors") ++
      " for PropertyRuleSet"
  | reported message => message

end SchemaFault

/-- Anything else that stops a run. -/
inductive Mishap where
  /-- Two values of these types have no order; the operator was to compare them. -/
  | unordered (operator left right : String)
  | notIterable (typeName : String)
  | notContainer (typeName : String)
  | unhashable (typeName : String)
  | notSubscriptable (typeName : String)
  /-- A text, list or tuple was asked for a name. -/
  | indexedByName (typeName : String)
  | notPattern
  | notCallable (role : String) (name : Text) (typeName : String)
  | badPattern (fault : Pattern.Fault)
  /-- An integer of too many digits to be read; how many. -/
  | tooManyDigits (digits : Nat)
  | integerTooLarge
  | indentTooLarge
  /-- A line that no memory can hold. -/
  | outOfMemory
  | missingKey (key : Value)
  /-- A reference to a schema that the table does not hold was followed. -/
  | noSchema
  /-- The fields of a structured value have issues. -/
  | invalidFields (issues : List Issue)
  /-- Reported by a function in its own words. -/
  | reported (message : Text)

namespace Mishap

/-- The message about an integer of too many digits. -/
def digitsMessage (digits : Nat) : String :=
  "Exceeds the limit (" ++ Decimal.writeNat Text.digitLimit ++
    " digits) for integer string conversion: value has " ++ Decimal.writeNat digits ++
    " digits; use sys.set_int_max_str_digits() to increase the limit"

/-- The message of a mishap. -/
def message : Mishap → Text
  | unordered operator left right =>
    "'" ++ operator ++ "' not supported between instances of '" ++ left ++ "' and '" ++ right ++ "'"
  | notIterable typeName => "'" ++ typeName ++ "' object is not iterable"
  | notContainer typeName => "argument of type '" ++ typeName ++ "' is not iterable"
  | unhashable typeName => "unhashable type: '" ++ typeName ++ "'"
  | notSubscriptable typeName => "'" ++ typeName ++ "' object is not subscriptable"
  | indexedByName typeName =>
    if typeName = "str" then "string indices must be integers, not 'str'"
    else typeName ++ " indices must be integers or slices, not str"
  | notPattern => "first argument must be string or compiled pattern"
  | notCallable role name typeName =>
    role ++ " '" ++ name ++ "' must be callable, got " ++ typeName
  | badPattern (.flaw flaw place?) =>
    flaw.message ++ (place?.map Pattern.Place.message).getD ""
  | badPattern .countTooLarge => "the repetition number is too large"
  | badPattern (.countTooLong digits) => digitsMessage digits
  | badPattern .alphabetsClash => "ASCII and UNICODE flags are incompatible"
  | tooManyDigits digits => digitsMessage digits
  | integerTooLarge => "int too large to convert to float"
  | indentTooLarge => "cannot fit 'int' into an index-sized integer"
  | outOfMemory => ""
  | missingKey key => key.display
  | noSchema => "'NoneType' object has no attribute 'properties'"
  | invalidFields issues =>
    Decimal.writeNat issues.length ++
      (if issues.length = 1 then " validation error" else " validation errors")
  | reported message => message

/-- Whether a mishap is an argument of the wrong type or a bad pattern, which a checker takes for a
malformed schema. -/
def blamesSchema : Mishap → Bool
  | unordered .. => true
  | notIterable _ => true
  | notContainer _ => true
  | unhashable _ => true
  | notSubscriptable _ => true
  | indexedByName _ => true
  | notPattern => true
  | notCallable .. => true
  | badPattern (.flaw _ _) => true
  | _ => false

end Mishap

/-- Why a run stops without a result. -/
inductive Fault where
  | failure (failure : Failure)
  | schema (fault : SchemaFault)
  | mishap (mishap : Mishap)
  /-- The recursion budget of the run is used up. -/
  | exhausted

namespace Fault

/-- A failure at the place where it arises. -/
def violated (path : List Text) (violation : Violation) : Fault :=
  failure ⟨path, violation⟩

def message : Fault → Text
  | failure f => f.message
  | schema f => f.message
  | mishap m => m.message
  | exhausted => "recursion budget exhausted"

/-- A fault seen from outside of a property: a failure is located under it, a fault of the schema
stays as it is, and a mishap becomes a failure of the property. -/
def within (name : Text) : Fault → Fault
  | failure f => failure (f.within name)
  | mishap m => violated [name] (.interrupted name m.message)
  | schema f => schema f
  | exhausted => exhausted

end Fault

end RecordSchema
