import RecordSchema.Text.Basic

/-!
# Issues

An `Issue` tells what is wrong with one field of a structured value and where the field is. A value
is checked as a whole, so it may have several issues.
-/

namespace RecordSchema

/-- What can be wrong with a field. -/
inductive IssueKind where
  | missing
  | unexpected
  | notText
  /-- A text with half of a surrogate pair, where a string without is wanted. -/
  | notUnicode
  | notTuple
  | notAllowed
  | notInteger
  | unreadableInteger
  | integerTooLong
  | fractionalInteger
  | notFinite
  | tooSmall
  | noSuchField
  deriving DecidableEq, Repr

/-- The code of a kind of issue. -/
def IssueKind.code : IssueKind → String
  | missing => "missing"
  | unexpected => "extra_forbidden"
  | notText => "string_type"
  | notUnicode => "string_unicode"
  | notTuple => "tuple_type"
  | notAllowed => "literal_error"
  | notInteger => "int_type"
  | unreadableInteger => "int_parsing"
  | integerTooLong => "int_parsing_size"
  | fractionalInteger => "int_from_float"
  | notFinite => "finite_number"
  | tooSmall => "greater_than_equal"
  | noSuchField => "no_such_attribute"

/-- One step on the way to a field. -/
inductive LocationStep where
  | name (s : Text)
  | index (n : Int)
  deriving DecidableEq, Repr

/-- What is wrong with a value, and where in it. -/
structure Issue where
  location : List LocationStep
  kind : IssueKind
  deriving DecidableEq, Repr

/-- An issue with a field at the top. -/
def Issue.at (field : Text) (kind : IssueKind) : Issue :=
  ⟨[.name field], kind⟩

end RecordSchema
