import RecordSchema.Assertion

/-!
# Sessions

A `Session` is one table that several assertions share, with what has been compiled of it, and a
journal of what happened. Both outlive an assertion that fails.
-/

namespace RecordSchema

/-- Something that happened during a run. -/
inductive Event where
  | compiling (name : Text)
  | skipped (transform : Text)
  /-- An assertion passed: the sizes of its schema and of its table. -/
  | passed (properties names : Nat)
  | sectionSatisfied (name : Text)
  deriving DecidableEq, Repr

/-- A shared table and the events so far, oldest first. -/
structure Session where
  table : CachedTable
  journal : List Event

/-- A computation in a session, which may stop without a result. -/
abbrev InSession := ExceptT Fault (StateM Session)

namespace Session

/-- A session with a table of which nothing has been compiled. -/
def ofTable (table : Table) : Session :=
  ⟨.ofTable table, []⟩

/-- Writes an event down in the journal. -/
def note (event : Event) : InSession Unit :=
  modify fun s => { s with journal := s.journal ++ [event] }

/-- Looks a name up in the shared table. -/
def schema? (name : Text) : InSession (Option Schema) := do
  let s ← get
  if s.table.compiles name then note (.compiling name)
  let (result, table) := s.table.get name
  modify fun s => { s with table }
  Assertion.lift result

/-- Looking schemas up in the shared table, with notes in the journal. -/
def services : Assertion.Services InSession where
  schema? := schema?
  noteSkipped name := note (.skipped name)

/-- Asserts a value against a schema with the shared table. -/
def sanitize (functions : Functions) (source : Source) (v : Value) : InSession Record := do
  let table := (← get).table.table
  let schema ← Assertion.lift (source.compile table.resolves)
  let record ← Assertion.walk services functions (Assertion.budgetFor v) (some schema) v
  note (.passed schema.length table.size)
  return record

/-- Runs a computation in a session; the session it leaves is there whether it stops or not. -/
def run {α : Type} (session : Session) (x : InSession α) : Except Fault α × Session :=
  Id.run (x.run.run session)

end Session

end RecordSchema
