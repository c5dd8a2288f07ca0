import RecordSchema.Schema.Compile

/-!
# Tables of named schemas

A `Table` holds schema documents by name. They are compiled when they are looked up, so that schemas
may refer to each other and to themselves. A `CachedTable` keeps what has been compiled; looking a
name up in it gives what the bare table gives.
-/

namespace RecordSchema

/-- Schema documents by name, not yet compiled. -/
structure Table where
  entries : Record

namespace Table

/-- The table of a value: nothing stands for the empty table. -/
def ofValue : Value → Except Fault Table
  | .null => .ok ⟨[]⟩
  | .record _ entries => .ok ⟨entries⟩
  | v => .error (.schema (.tableNotMapping v))

def contains (t : Table) (name : Text) : Bool :=
  Record.contains t.entries name

/-- The names in order. -/
def names (t : Table) : List Value :=
  Record.keys t.entries

def size (t : Table) : Nat :=
  t.entries.length

/-- The names that resolve are those of the table. -/
def resolves (t : Table) : Resolver := fun name =>
  .ok (t.contains name)

/-- The compiled schema of a name, or none when the table does not hold the name. -/
def schema? (t : Table) (name : Text) : Except Fault (Option Schema) :=
  match Record.get? t.entries name with
  | none => .ok none
  | some document =>
    match Schema.compile t.resolves document with
    | .ok schema => .ok (some schema)
    | .error fault => .error fault

end Table

/-- A table with the schemas that have been compiled so far. -/
structure CachedTable where
  table : Table
  compiled : List (Text × Schema)

namespace CachedTable

/-- A table of which nothing has been compiled. -/
def ofTable (table : Table) : CachedTable :=
  ⟨table, []⟩

/-- Whether a look-up of a name would compile its document. -/
def compiles (t : CachedTable) (name : Text) : Bool :=
  t.table.contains name && (t.compiled.lookup name).isNone

/-- Looks a name up; a document that compiles well is compiled once only. -/
def get (t : CachedTable) (name : Text) : Except Fault (Option Schema) × CachedTable :=
  match t.compiled.lookup name with
  | some schema => (.ok (some schema), t)
  | none =>
    match t.table.schema? name with
    | .ok (some schema) =>
      (.ok (some schema), { t with compiled := (name, schema) :: t.compiled })
    | result => (result, t)

end CachedTable

end RecordSchema
