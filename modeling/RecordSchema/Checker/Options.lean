import RecordSchema.Checker.Indent
import RecordSchema.Checker.Log
import RecordSchema.Field
import RecordSchema.Text.Uppercase

/-!
# Options of a check

`Options` are read from a record of fields and may be changed field by field. A change that is
refused leaves them as they are, so they are valid at all times. `ValidatesAssignment` names what is
relied on of changing them.
-/

namespace RecordSchema.Checker

/-- What a check does with the data. -/
inductive Mode where
  /-- Asserts one record against a schema. -/
  | assert
  /-- Verifies the sections of a context. -/
  | contract
  deriving DecidableEq, Repr

/-- The name of a mode. -/
def Mode.name : Mode → Text
  | assert => "assert"
  | contract => "contract"

/-- The mode of a name. -/
def Mode.ofName? (name : Text) : Option Mode :=
  [assert, contract].find? (·.name == name)

/-- What a check is run with. -/
structure Options where
  mode : Mode
  dataPath : Text
  schemaPath : Text
  namedSchemasPath? : Option Text
  logLevel : Level
  /-- The indentation of the report, or none for a report on one line. -/
  indent? : Option Nat
  deriving DecidableEq, Repr

namespace Options

/-- What is wrong with a text that is none of the names which are allowed. -/
def unknownName (s : Text) : IssueKind :=
  if s.string?.isSome then .notAllowed else .notUnicode

/-- A mode by its name in any case, blanks around it aside. -/
def readMode (v : Value) : Except IssueKind Mode :=
  match v with
  | .text s =>
    let name := Text.ofList (Text.trim (Text.lower s.toList))
    match Mode.ofName? name with
    | some mode => .ok mode
    | none => .error (unknownName name)
  | _ => .error .notAllowed

/-- A level by its name in any case, blanks around it aside. -/
def readLevel (v : Value) : Except IssueKind Level :=
  match v with
  | .text s =>
    let name := Text.ofList (Text.trim (Text.upper s.toList))
    match Level.ofName? name with
    | some level => .ok level
    | none => .error (unknownName name)
  | _ => .error .notAllowed

/-- A text or nothing. -/
def readOptionalText (v : Value) : Except IssueKind (Option Text) :=
  match v with
  | .null => .ok none
  | .text s => .ok (some s)
  | _ => .error .notText

/-- The names of the fields, in order. -/
def fieldNames : List Text :=
  ["mode", "data_path", "schema_path", "named_schemas_path", "log_level", "indent"]

/-- Reads options from fields; only the paths of data and schema have no default. -/
def ofFields (fields : Record) : Except (List Issue) Options :=
  let mode := Field.read fields "mode" (some .assert) readMode
  let dataPath := Field.read fields "data_path" none Field.text
  let schemaPath := Field.read fields "schema_path" none Field.text
  let namedSchemasPath := Field.read fields "named_schemas_path" (some none) readOptionalText
  let logLevel := Field.read fields "log_level" (some .warning) readLevel
  let indent := Field.read fields "indent" (some (some 2)) Indent.ofValue
  let unexpected := Field.unexpected fieldNames fields
  match mode, dataPath, schemaPath, namedSchemasPath, logLevel, indent, unexpected with
  | .ok mode, .ok dataPath, .ok schemaPath, .ok namedSchemasPath?, .ok logLevel, .ok indent?, [] =>
    .ok { mode, dataPath, schemaPath, namedSchemasPath?, logLevel, indent? }
  | _, _, _, _, _, _, _ =>
    .error (Field.issues mode ++ Field.issues dataPath ++ Field.issues schemaPath ++
      Field.issues namedSchemasPath ++ Field.issues logLevel ++ Field.issues indent ++ unexpected)

/-- The options as a record of their fields. -/
def toRecord (options : Options) : Record := [
  (.text "mode", .text options.mode.name),
  (.text "data_path", .text options.dataPath),
  (.text "schema_path", .text options.schemaPath),
  (.text "named_schemas_path", Failure.optionalText options.namedSchemasPath?),
  (.text "log_level", .text options.logLevel.name),
  (.text "indent", Indent.toValue options.indent?)]

/-- Whether a name is one of an attribute beside the fields: it starts with an underscore. -/
def isAttribute (name : Text) : Bool :=
  name.toList.head? == some (.char '_')

/-- Changes one field. An attribute beside the fields takes any value and changes none of them. -/
def assign (options : Options) (name : Text) (v : Value) : Except Issue Options :=
  Field.located name <|
    match name with
    | "mode" => (readMode v).map fun mode => { options with mode }
    | "data_path" => (Field.text v).map fun dataPath => { options with dataPath }
    | "schema_path" => (Field.text v).map fun schemaPath => { options with schemaPath }
    | "named_schemas_path" =>
      (readOptionalText v).map fun namedSchemasPath? => { options with namedSchemasPath? }
    | "log_level" => (readLevel v).map fun logLevel => { options with logLevel }
    | "indent" => (Indent.ofValue v).map fun indent? => { options with indent? }
    | _ => if isAttribute name then .ok options else .error .noSuchField

/-- What the reader of a field makes of a value, as the field is told. -/
def readField (name : Text) (v : Value) : Except IssueKind Value :=
  match name with
  | "mode" => (readMode v).map fun mode => .text mode.name
  | "data_path" => (Field.text v).map .text
  | "schema_path" => (Field.text v).map .text
  | "named_schemas_path" => (readOptionalText v).map Failure.optionalText
  | "log_level" => (readLevel v).map fun level => .text level.name
  | "indent" => (Indent.ofValue v).map Indent.toValue
  | _ => .error .noSuchField

/-- What is relied on of options whose assignments are validated. -/
structure ValidatesAssignment
    (assign : Options → Text → Value → Except Issue Options) : Prop where
  /-- A field is set to what its reader makes of the value, and no other one changes. -/
  accepted : ∀ options name v w, readField name v = .ok w →
    ∃ changed, assign options name v = .ok changed ∧
      changed.toRecord = Record.set options.toRecord name w
  /-- What the reader of a field refuses is refused. -/
  refused : ∀ options name v kind, name ∈ fieldNames → readField name v = .error kind →
    assign options name v = .error (.at name kind)
  /-- A name with an underscore in front is that of an attribute beside the fields. -/
  beside : ∀ options name v, isAttribute name = true → assign options name v = .ok options
  /-- Any other name is refused. -/
  unknown : ∀ options name v, name ∉ fieldNames → isAttribute name = false →
    assign options name v = .error (.at name .noSuchField)

/-- The options after a change, which are the same as before when it is refused. -/
def attempt (options : Options) (name : Text) (v : Value) : Options :=
  match options.assign name v with
  | .ok changed => changed
  | .error _ => options

end Options

end RecordSchema.Checker
