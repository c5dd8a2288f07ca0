import RecordSchema.Rule
import RecordSchema.Schema.Table
import RecordSchema.Transform

/-!
# Assertions

A record is asserted against a schema property by property, in order, and the first property that
fails ends the run. A property's value is transformed, then descended into, then checked by rules;
the result is the record with the values so obtained in place.

The walk is written over any monad of runs with a way to look schemas up and to note transforms that
are passed over. `sanitize` is the walk with a table that is compiled on demand and no notes.
-/

namespace RecordSchema

/-- The functions that schemas may name. -/
structure Functions where
  rules : Registry Rule
  transforms : Registry Transform

/-- The built-in functions. -/
def Functions.builtin : Functions :=
  ⟨Rule.builtin, Transform.builtin⟩

/-- A schema as it is handed to an assertion: a document, or one compiled before. -/
inductive Source where
  | document (v : Value)
  | compiled (schema : Schema)

/-- The compiled schema; one compiled before stays as it is. -/
def Source.compile (resolves : Resolver) : Source → Except Fault Schema
  | document v => Schema.compile resolves v
  | compiled schema => .ok schema

namespace Assertion

/-- What a walk asks of its surroundings. -/
structure Services (m : Type → Type) where
  /-- The schema of a name, if there is one. -/
  schema? : Text → m (Option Schema)
  /-- Notes a transform that is passed over because it is not registered. -/
  noteSkipped : Text → m Unit

variable {m : Type → Type} [Monad m] [MonadExcept Fault m]

/-- The result of a computation that may stop the run. -/
def lift {α : Type} : Except Fault α → m α
  | .ok a => pure a
  | .error fault => throw fault

/-- Applies the transforms of some names to a value, from left to right. -/
def transform (services : Services m) (transforms : Registry Transform) :
    List Text → Value → m Value
  | [], v => pure v
  | name :: rest, v =>
    match transforms.get? name with
    | none => do
      services.noteSkipped name
      transform services transforms rest v
    | some f => do
      let w ← lift (f v)
      transform services transforms rest w

/-- Checks the rules of a property in order. Each must be registered and hold. -/
def checkRules (rules : Registry Rule) (name : Text) (v : Value) :
    List (Text × Value) → m Unit
  | [] => pure ()
  | (rule, argument) :: rest =>
    match rules.get? rule with
    | none => throw (.violated [name] (.unknownRule rule))
    | some holds => do
      if ← lift (holds v argument) then checkRules rules name v rest
      else throw (.violated [name] (.failedRule rule name v))

/-- Runs the assertion of a nested record below a property. -/
def below (name : Text) (nested : m Record) : m Record :=
  tryCatch nested fun fault => throw (fault.within name)

/-- Descends into the value of a property as its nesting says, and gives what takes its place. -/
def descend (services : Services m) (walk : Option Schema → Value → m Record) (p : Property)
    (v : Value) : m Value :=
  match p.nesting with
  | .plain => pure v
  | .reference target => do
    let schema? ← services.schema? target
    return .record false (← below p.name (walk schema? v))
  | .inline properties =>
    match v.entries? with
    | none => throw (.violated [p.name] (.notObject p.name))
    | some _ => return .record false (← below p.name (walk (some properties) v))

/-- Processes one property of a record. Its rules see the value before it was descended into. -/
def step (services : Services m) (functions : Functions)
    (walk : Option Schema → Value → m Record) (record : Record) (p : Property) : m Record :=
  match Record.get? record p.name with
  | none =>
    if p.optional then pure record else throw (.violated [p.name] (.missing p.name))
  | some v => do
    let v ← transform services functions.transforms p.transforms v
    let w ← descend services walk p v
    checkRules functions.rules p.name v p.rules
    return Record.set record p.name w

/-- Asserts a value against a schema, with a budget for how deeply records may be nested. -/
def walk (services : Services m) (functions : Functions) :
    Nat → Option Schema → Value → m Record
  | 0, _, _ => throw Fault.exhausted
  | budget + 1, schema?, v =>
    match v.entries?, schema? with
    | none, _ => throw (.violated [] .notRecord)
    | some _, none => throw (.mishap .noSchema)
    | some record, some schema =>
      schema.foldlM (step services functions (walk services functions budget)) record

/-- How many levels transforms may add to the depth of the data. -/
def headroom : Nat := 1000

/-- The budget for a value: one level for each level of mappings in it, one more for what lies below
the last, and the headroom. -/
def budgetFor (v : Value) : Nat :=
  v.depth + 1 + headroom

/-- Looking schemas up in a table, without notes. -/
def tableServices (table : Table) : Services (Except Fault) where
  schema? := table.schema?
  noteSkipped _ := pure ()

end Assertion

/-- Asserts a value against a schema, with a budget for how deeply records may be nested, and gives
the sanitized record. -/
def sanitizeWithin (budget : Nat) (functions : Functions) (table : Table) (source : Source)
    (v : Value) : Except Fault Record := do
  let schema ← source.compile table.resolves
  Assertion.walk (Assertion.tableServices table) functions budget (some schema) v

/-- Asserts a value against a schema and gives the sanitized record. -/
def sanitize (functions : Functions) (table : Table) (source : Source) (v : Value) :
    Except Fault Record :=
  sanitizeWithin (Assertion.budgetFor v) functions table source v

end RecordSchema
