import RecordSchema.Session

/-!
# Contracts

A contract states, for up to three sections of a context, the schema that the section must satisfy.
The sections are looked at in a fixed order, each on its own and without named schemas, and the
sanitized sections are not kept.
-/

namespace RecordSchema.Contract

/-- The sections of a context, in the order in which they are looked at. -/
def sections : List Text :=
  ["state", "data", "services"]

/-- What a mapping holds under a name; nothing counts as absent. -/
def present? (entries : Record) (name : Text) : Option Value :=
  match Record.get? entries name with
  | some .null => none
  | found => found

/-- Verifies one section, given a way to assert it. -/
def verifySection {m : Type → Type} [Monad m] [MonadExcept Fault m]
    (assertSection : Value → Value → m Unit) (context contract : Record) (name : Text) :
    m Unit :=
  match present? contract name with
  | none => pure ()
  | some document =>
    match present? context name with
    | none => throw (.violated [name] (.missingSection name))
    | some v => assertSection document v

/-- Verifies every section that a contract demands. -/
def verifyWith {m : Type → Type} [Monad m] [MonadExcept Fault m]
    (assertSection : Text → Value → Value → m Unit) (context contract : Value) : m Unit :=
  match contract.entries?, context.entries? with
  | none, _ => throw (.schema (.contractNotMapping contract))
  | some _, none => throw (.violated [] .contextNotRecord)
  | some contract, some context =>
    sections.forM fun name => verifySection (assertSection name) context contract name

/-- Verifies a context against a contract. -/
def verify (context contract : Value) : Except Fault Unit :=
  verifyWith
    (fun _ document v =>
      match sanitize .builtin ⟨[]⟩ (.document document) v with
      | .ok _ => .ok ()
      | .error fault => .error fault)
    context contract

/-- Verifies a context in a session, whose table must be empty: events go to its journal. -/
def verifyInSession (context contract : Value) : InSession Unit :=
  verifyWith
    (fun name document v => do
      let _ ← Session.sanitize .builtin (.document document) v
      Session.note (.sectionSatisfied name))
    context contract

end RecordSchema.Contract
