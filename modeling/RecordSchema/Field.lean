import RecordSchema.Issue
import RecordSchema.Value.Display
import RecordSchema.Value.Record

/-!
# Fields

Reading a structured value out of a record of fields. Every field is read on its own, so that all
issues can be told: those of the expected fields in their order, then one for every other field.
-/

namespace RecordSchema.Field

/-- A text as it is. -/
def text (v : Value) : Except IssueKind Text :=
  match v with
  | .text s => .ok s
  | _ => .error .notText

/-- Locates an issue at a field. -/
def located {α : Type} (name : Text) (result : Except IssueKind α) : Except Issue α :=
  result.mapError (Issue.at name)

/-- Reads the field of a name, which may be missing when there is a default. -/
def read {α : Type} (fields : Record) (name : Text) (default? : Option α)
    (reader : Value → Except IssueKind α) : Except Issue α :=
  match Record.get? fields name, default? with
  | some v, _ => located name (reader v)
  | none, some a => .ok a
  | none, none => located name (.error .missing)

/-- The issue of a field, if it has one. -/
def issues {α : Type} (field : Except Issue α) : List Issue :=
  match field with
  | .ok _ => []
  | .error issue => [issue]

/-- One issue for each field that is not among the expected ones, in order. -/
def unexpected (expected : List Text) (fields : Record) : List Issue :=
  (fields.filter fun (key, _) => !expected.any (key.isText ·)).map fun (key, _) =>
    Issue.at key.plain .unexpected

end RecordSchema.Field
