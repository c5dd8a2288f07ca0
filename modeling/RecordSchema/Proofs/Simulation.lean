import RecordSchema.Contract
import RecordSchema.Proofs.Stateful

/-!
# Runs in a session

A session shares a table and keeps what has been compiled of it. As long as what it keeps is what the
table gives (`Faithful`), a computation in the session gives what the plain one gives and leaves the
session so (`Simulates`). This holds of every look-up (`simulates_schema?`), so of whole walks
(`simulates_walk`), assertions (`simulates_sanitize`) and contracts (`simulates_verify`).
-/

namespace RecordSchema

open Assertion

/-- A session has a table, and everything it has compiled is what the table gives. -/
structure Faithful (T : Table) (session : Session) : Prop where
  table : session.table.table = T
  compiled : ∀ name schema, session.table.compiled.lookup name = some schema →
    T.schema? name = .ok (some schema)

/-- In sessions with a table, a computation gives what a plain one gives and leaves the session with
that table. -/
def Simulates {α : Type} (T : Table) (x : InSession α) (y : Except Fault α) : Prop :=
  ∀ session, Faithful T session →
    (Session.run session x).1 = y ∧ Faithful T (Session.run session x).2

variable {α β : Type} {T : Table}

/-- A session of which nothing has been compiled is faithful. -/
lemma faithful_ofTable : Faithful T (Session.ofTable T) :=
  ⟨rfl, nofun⟩

/-- Giving a result simulates giving it. -/
lemma simulates_pure (a : α) : Simulates T (pure a) (pure a) :=
  follows_pure a

/-- A fault simulates itself. -/
lemma simulates_throw (fault : Fault) :
    Simulates (α := α) T (throw fault) (throw fault) :=
  follows_throw fault

/-- A result simulates itself. -/
lemma simulates_lift (x : Except Fault α) : Simulates T (lift x) (lift x) :=
  follows_lift x

/-- A computation and its continuation are simulated when both are. -/
lemma Simulates.bind {x : InSession α} {y f} {g : α → Except Fault β} (first : Simulates T x y)
    (rest : ∀ a, Simulates T (f a) (g a)) : Simulates T (x >>= f) (y >>= g) :=
  Follows.bind first fun a _ => rest a

/-- A note changes nothing but the journal. -/
lemma simulates_note (event : Event) : Simulates T (Session.note event) (pure ()) :=
  fun _ faithful => ⟨rfl, faithful.table, faithful.compiled⟩

/-- A computation that leaves a note of its result is simulated when it is without the note. -/
lemma Simulates.noted {x : InSession α} {y} {event : α → Event} (first : Simulates T x y) :
    Simulates T
      (do
        let a ← x
        Session.note (event a)
        return a)
      y := by
  have plain : y = y >>= fun a => (do pure (); return a : Except Fault α) := by
    cases y <;> rfl
  rw [plain]
  exact first.bind fun a => (simulates_note (event a)).bind fun _ => simulates_pure a

/-- A look-up in a faithful cache gives what the table gives, and what it keeps of it is right. -/
lemma Faithful.get {session} (faithful : Faithful T session) (name : Text) :
    (session.table.get name).1 = T.schema? name ∧
      Faithful T { session with table := (session.table.get name).2 } := by
  unfold CachedTable.get
  cases el : session.table.compiled.lookup name with
  | some schema => exact ⟨(faithful.compiled name schema el).symm, faithful⟩
  | none =>
    dsimp only
    rw [faithful.table]
    -- Only what compiles is kept, so the cache never holds a fault.
    cases es : T.schema? name with
    | error fault => exact ⟨rfl, faithful⟩
    | ok schema? =>
      cases schema? with
      | none => exact ⟨rfl, faithful⟩
      | some schema =>
        refine ⟨rfl, rfl, ?_⟩
        intro other found e
        have e : List.lookup other ((name, schema) :: session.table.compiled) = some found := e
        rw [List.lookup_cons] at e
        split at e
        · cases e
          rename_i same
          rw [eq_of_beq same, es]
        · exact faithful.compiled other found e

/-- Looking a name up leaves a note if it has to be compiled, and then the table after it. -/
lemma run_schema? {session : Session} {name} :
    Session.run session (Session.schema? name) =
      ((session.table.get name).1,
        { (if session.table.compiles name then
            { session with journal := session.journal ++ [.compiling name] }
          else session) with table := (session.table.get name).2 }) := by
  have first : Session.run session (Session.schema? name) =
      Session.run (if session.table.compiles name then
        { session with journal := session.journal ++ [.compiling name] } else session)
        (do
          modify fun s => { s with table := (session.table.get name).2 }
          lift (session.table.get name).1) := by
    unfold Session.schema?
    change (_ >>= _ : InSession (Option Schema)).run.run session = _
    rw [run_bind]
    change Session.run session (if session.table.compiles name then _ else _) = _
    cases session.table.compiles name <;> rfl
  rw [first]
  cases (session.table.get name).1 <;> rfl

/-- A look-up in a session is simulated by one in the table. -/
lemma simulates_schema? (name : Text) : Simulates T (Session.schema? name) (T.schema? name) := by
  intro session faithful
  obtain ⟨e, kept⟩ := faithful.get name
  rw [run_schema?]
  refine ⟨e, kept.table, kept.compiled⟩

/-- Walks are simulated. -/
lemma simulates_walk {F : Functions} {budget schema? v} :
    Simulates T (walk Session.services F budget schema? v)
      (walk (tableServices T) F budget schema? v) := by
  -- Every look-up is simulated, so it does not matter which schemas the walk goes down with.
  apply follows_walk fun _ => True
  · exact fun name => simulates_note _
  · exact fun _ _ _ _ target _ => simulates_schema? target
  · exact fun _ _ _ _ _ _ _ => trivial
  · trivial

/-- Assertions in a session are those with its table. -/
lemma simulates_sanitize {F : Functions} {source v} :
    Simulates T (Session.sanitize F source v) (sanitize F T source v) := by
  have walked : Simulates T
      (do
        let schema ← lift (source.compile T.resolves)
        let record ← walk Session.services F (budgetFor v) (some schema) v
        Session.note (.passed schema.length T.size)
        return record)
      (sanitize F T source v) := by
    have compiled := simulates_lift (T := T) (source.compile T.resolves)
    rw [lift_eq] at compiled
    exact compiled.bind fun schema => simulates_walk.noted
  intro session faithful
  -- The assertion reads its table off the session, which has the given one.
  have shared : Session.run session (Session.sanitize F source v) =
      Session.run session
        (do
          let schema ← lift (source.compile session.table.table.resolves)
          let record ← walk Session.services F (budgetFor v) (some schema) v
          Session.note (.passed schema.length session.table.table.size)
          return record) := rfl
  rw [shared, faithful.table]
  exact walked session faithful

/-- Contracts are simulated when the assertions of their sections are. -/
lemma simulates_verifyWith {f : Text → Value → Value → InSession Unit}
    {g : Text → Value → Value → Except Fault Unit} {context contract}
    (each : ∀ name document v, Simulates T (f name document v) (g name document v)) :
    Simulates T (Contract.verifyWith f context contract)
      (Contract.verifyWith g context contract) := by
  unfold Contract.verifyWith
  cases contract.entries? with
  | none => exact simulates_throw _
  | some sections =>
    cases context.entries? with
    | none => exact simulates_throw _
    | some record =>
      apply Follows.forM
      intro name
      unfold Contract.verifySection
      cases Contract.present? sections name with
      | none => exact simulates_pure ()
      | some document =>
        cases Contract.present? record name with
        | none => exact simulates_throw _
        | some v => exact each name document v

/-- Verifying a contract in a session without named schemas is verifying it. -/
lemma simulates_verify {context contract} :
    Simulates ⟨[]⟩ (Contract.verifyInSession context contract)
      (Contract.verify context contract) := by
  apply simulates_verifyWith
  intro name document v
  have noted : Simulates ⟨[]⟩
      (do
        let _ ← Session.sanitize .builtin (.document document) v
        Session.note (.sectionSatisfied name))
      (do
        let _ ← sanitize .builtin ⟨[]⟩ (.document document) v
        pure ()) :=
    simulates_sanitize.bind fun _ => simulates_note _
  cases e : sanitize .builtin ⟨[]⟩ (.document document) v with
  | error fault =>
    rw [e] at noted
    exact noted
  | ok record =>
    rw [e] at noted
    exact noted

end RecordSchema
