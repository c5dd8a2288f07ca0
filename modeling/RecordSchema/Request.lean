import RecordSchema.Session

/-!
# Requests to a session

All that a session can be asked: the schema of a name, whether there is one, the names and how many
they are, and to assert a value. Any value can be asked for as a name, though only texts are names. A
request that fails ends neither the session nor the requests after it.
-/

namespace RecordSchema

/-- Whether a value is one of the names. -/
def Table.containsValue (t : Table) : Value → Bool
  | .text name => t.contains name
  | _ => false

/-- Something that a session can be asked. -/
inductive Request where
  | schema (name : Value)
  | contains (name : Value)
  | names
  | size
  | sanitize (functions : Functions) (source : Source) (v : Value)

/-- What comes of a request that does not fail. -/
inductive Answer where
  | schema (schema? : Option Schema)
  | contained (b : Bool)
  | names (names : List Value)
  | size (n : Nat)
  | record (record : Record)

namespace Session

/-- Answers a request with the shared table. -/
def answer : Request → InSession Answer
  | .schema (.text name) => do return .schema (← schema? name)
  | .schema _ => return .schema none
  | .contains name => do return .contained ((← get).table.table.containsValue name)
  | .names => do return .names (← get).table.table.names
  | .size => do return .size (← get).table.table.size
  | .sanitize functions source v => do return .record (← sanitize functions source v)

/-- Answers requests one after another. -/
def serve (session : Session) : List Request → List (Except Fault Answer) × Session
  | [] => ([], session)
  | request :: rest =>
    let (result, session) := session.run (answer request)
    let (results, session) := session.serve rest
    (result :: results, session)

end Session

end RecordSchema
