import RecordSchema.Checker.Arguments
import RecordSchema.Checker.Input
import RecordSchema.Checker.Report
import RecordSchema.Contract

/-!
# Checks

A check reads its documents, asserts or verifies the data and reports the verdict. It ends with exit
code 0 for valid data, 1 for invalid data, and 2 when an input cannot be read or the schema is to
blame. A mishap that blames neither has no exit code and ends the check without an outcome.
-/

namespace RecordSchema.Checker

/-- What a check leaves behind. -/
structure Outcome where
  exitCode : Nat
  output : String
  log : List LogRecord
  deriving DecidableEq, Repr

/-- The documents that a check works on; nothing stands for a table that is not given. -/
structure Documents where
  data : Value
  schema : Value
  namedSchemas : Value

/-- Reads the documents in order. An empty path of named schemas counts as none. -/
def Documents.load (files : Files) (options : Options) : Except InputFault Documents := do
  let data ← Checker.load files options.dataPath
  let schema ← Checker.load files options.schemaPath
  let namedSchemas ←
    match options.namedSchemasPath? with
    | some path => if path.isEmpty then pure .null else Checker.load files path
    | none => pure .null
  return { data, schema, namedSchemas }

/-- Comes to a verdict about documents, with the events on the way. -/
def judge (mode : Mode) (documents : Documents) : Except Fault (Option Record) × List Event :=
  match mode with
  | .contract =>
    let (result, session) :=
      (Session.ofTable ⟨[]⟩).run (Contract.verifyInSession documents.data documents.schema)
    (result.map fun _ => none, session.journal)
  | .assert =>
    match Table.ofValue documents.namedSchemas with
    | .error fault => (.error fault, [])
    | .ok table =>
      let (result, session) := (Session.ofTable table).run
        (Session.sanitize .builtin (.document documents.schema) documents.data)
      (result.map some, session.journal)

/-- The exit code of a check without a verdict. -/
def refusedCode : Nat := 2

/-- The record of a failure. -/
def failureRecord (failure : Failure) : LogRecord :=
  ⟨.checks, .info, "Check failed at " ++ (Failure.optionalText failure.property?).plain ++ " (" ++
    (Failure.optionalText failure.rule?).plain ++ ")"⟩

/-- The outcome with a verdict. -/
def conclude (options : Options) (report : Report) (log : List LogRecord) :
    Except Fault Outcome := do
  let output ← report.write options.indent?
  return ⟨report.exitCode, output, log.filter (·.shownAt options.logLevel)⟩

/-- The outcome without a verdict. -/
def refuse (options : Options) (log : List LogRecord) : Outcome :=
  ⟨refusedCode, "", log.filter (·.shownAt options.logLevel)⟩

/-- Whether a fault is taken for a malformed schema. -/
def blamesSchema : Fault → Bool
  | .schema _ => true
  | .mishap m => m.blamesSchema
  | _ => false

/-- Checks the documents that options name. -/
def check (files : Files) (options : Options) : Except Fault Outcome :=
  match Documents.load files options with
  | .error fault =>
    .ok (refuse options [⟨.checks, .error, "Cannot read input: " ++ fault.message⟩])
  | .ok documents =>
    let (result, events) := judge options.mode documents
    let log := events.map LogRecord.ofEvent
    match result with
    | .ok record? => conclude options (.valid record?) log
    | .error (.failure failure) =>
      conclude options (.invalid failure) (log ++ [failureRecord failure])
    | .error fault =>
      if blamesSchema fault then
        .ok (refuse options
          (log ++ [⟨.checks, .error, "Malformed schema: " ++ fault.message⟩]))
      else .error fault

/-- Runs a check by its command-line arguments. -/
def run (files : Files) (arguments : List Text) : Except Fault Outcome :=
  match Arguments.options arguments with
  | .ok options => check files options
  | .error .helpWanted => .ok ⟨0, "", []⟩
  | .error _ => .ok ⟨refusedCode, "", []⟩

end RecordSchema.Checker
