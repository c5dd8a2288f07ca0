import RecordSchema.Proofs.Location
import RecordSchema.Proofs.Sharing

/-!
# Look-ups of a run

A walk in a session is watched by writing down each look-up that it makes, with what came of it
(`Watch`). Watching changes nothing (`Watch.follows_sanitizeWithin`): compiling makes a reference only
of a name that the table holds, and whatever a walk gets to was compiled among those names. So no
reference is followed to a schema that is not there (`lookups_lead`).
-/

namespace RecordSchema

open Assertion

/-- A look-up of a name, and what came of it. -/
structure Lookup where
  name : Text
  result : Except Fault (Option Schema)

/-- A session with the look-ups that were made in it, oldest first. -/
structure Watch where
  session : Session
  lookups : List Lookup

namespace Watch

/-- Looks a name up in the session and writes down what came of it. -/
def schema? (name : Text) : ExceptT Fault (StateM Watch) (Option Schema) := do
  let w ← get
  let (result, session) := w.session.run (Session.schema? name)
  set (⟨session, w.lookups ++ [⟨name, result⟩]⟩ : Watch)
  lift result

/-- Notes a name without a look-up. -/
def noteSkipped (name : Text) : ExceptT Fault (StateM Watch) Unit :=
  modify fun w => { w with session := (w.session.run (Session.services.noteSkipped name)).2 }

def services : Services (ExceptT Fault (StateM Watch)) where
  schema?
  noteSkipped

/-- Asserts a value against a schema with the shared table, within a budget. -/
def sanitizeWithin (budget : Nat) (functions : Functions) (source : Source) (v : Value) :
    ExceptT Fault (StateM Watch) Record := do
  let table := (← get).session.table.table
  let schema ← lift (source.compile table.resolves)
  walk services functions budget (some schema) v

/-- Runs a computation in a session and watches it. -/
def run {α : Type} (session : Session) (x : ExceptT Fault (StateM Watch) α) :
    Except Fault α × Watch :=
  Id.run (x.run.run ⟨session, []⟩)

end Watch

/-- A look-up is of a name in the table, and gives its schema or the fault of its document. -/
def Lookup.Leads (T : Table) (l : Lookup) : Prop :=
  T.contains l.name = true ∧
    ((∃ schema, l.result = .ok (some schema)) ∨ ∃ flaw, l.result = .error (.schema flaw))

/-- A schema is handed over as a document, or has been compiled in a table with the same names. -/
inductive Against (T : Table) : Source → Prop where
  | document {v} :
    Against T (.document v)
  | compiled {T' : Table} {document schema} :
    (∀ name, T'.contains name = T.contains name) →
    Schema.compile T'.resolves document = .ok schema →
    Against T (.compiled schema)

variable {T : Table} {F : Functions}

/-- What goes against a table compiles from a document, given the names of the table. -/
lemma Against.compile {source schema} (a : Against T source)
    (e : source.compile T.resolves = .ok schema) : Compiled T schema := by
  cases a with
  | @document v => exact ⟨v, e⟩
  | @compiled T' document _ names ec =>
    cases e
    -- Compiling asks a table for nothing but its names.
    have same : T'.resolves = T.resolves := funext fun name => congrArg Except.ok (names name)
    rw [same] at ec
    exact ⟨document, ec⟩

/-- Looking up a name of the table gives a schema, or a fault of one. -/
lemma Table.leads {name} (named : T.contains name = true) :
    Lookup.Leads T ⟨name, T.schema? name⟩ := by
  refine ⟨named, ?_⟩
  dsimp only
  cases es : T.schema? name with
  | error fault =>
    obtain ⟨flaw, rfl⟩ := schema?_error es
    exact .inr ⟨flaw, rfl⟩
  | ok schema? =>
    obtain ⟨_, schema, _, _, rfl⟩ := schema?_of_contains named es
    exact .inl ⟨schema, rfl⟩

namespace Watch

/-- The session that is watched is faithful, and all its look-ups led somewhere. -/
def Sound (T : Table) (w : Watch) : Prop :=
  Faithful T w.session ∧ ∀ l ∈ w.lookups, l.Leads T

/-- Looking up a name of the table while watching gives what the bare table gives. -/
lemma follows_schema? {name} (named : T.contains name = true) :
    Follows (Sound T) (schema? name) (T.schema? name) := by
  intro w sound
  obtain ⟨faithful, led⟩ := sound
  obtain ⟨e, faithful⟩ := simulates_schema? name w.session faithful
  have ran : (schema? name).run.run w =
      (T.schema? name, ⟨(w.session.run (Session.schema? name)).2,
        w.lookups ++ [⟨name, T.schema? name⟩]⟩) := by
    rw [← e]
    unfold schema?
    rw [run_bind]
    exact run_lift (w.session.run (Session.schema? name)).1
  rw [ran]
  refine ⟨rfl, faithful, ?_⟩
  intro l mem
  rcases List.mem_append.1 mem with mem | mem
  · exact led l mem
  · cases List.mem_singleton.1 mem
    exact Table.leads named

/-- Noting a name that is passed over looks nothing up. -/
lemma follows_noteSkipped (name : Text) : Follows (Sound T) (noteSkipped name) (pure ()) := by
  intro w sound
  obtain ⟨_, faithful⟩ := simulates_note (.skipped name) w.session sound.1
  exact ⟨rfl, faithful, sound.2⟩

/-- An assertion that is watched gives what it gives with the bare table. -/
lemma follows_sanitizeWithin {budget source v} (a : Against T source) :
    Follows (Sound T) (sanitizeWithin budget F source v)
      (RecordSchema.sanitizeWithin budget F T source v) := by
  have walked : Follows (Sound T)
      (do
        let schema ← lift (source.compile T.resolves)
        walk services F budget (some schema) v)
      (RecordSchema.sanitizeWithin budget F T source v) := by
    have compiled : Follows (Sound T) (lift (source.compile T.resolves))
        (source.compile T.resolves) := by
      simpa using follows_lift (source.compile T.resolves)
    apply compiled.bind
    intro schema ec
    -- The walk goes down with compiled schemas only, so its look-ups are of names in the table.
    apply follows_walk fun schema? => ∃ schema, schema? = some schema ∧ Compiled T schema
    · exact follows_noteSkipped
    · rintro _ ⟨schema, ⟨⟩, own⟩ p mem target en
      exact follows_schema? (own.target mem en)
    · rintro _ ⟨schema, ⟨⟩, own⟩ p mem w inner d
      exact own.descends mem d
    · exact ⟨schema, rfl, a.compile ec⟩
  intro w sound
  have shared : (sanitizeWithin budget F source v).run.run w =
      ExceptT.run (m := StateM Watch)
        (do
          let schema ← lift (source.compile w.session.table.table.resolves)
          walk services F budget (some schema) v) w := rfl
  rw [shared, sound.1.table]
  exact walked w sound

end Watch

/-- No reference is followed to a schema that is not there. Whatever requests share a table, and
whatever is asserted after them against a document, or a schema compiled among the same names: watching
the run changes nothing of its outcome, each look-up in it is of a name in the table and gives a schema
or the fault of a document, and every property that it gets to descends with a schema. -/
theorem lookups_lead {source} (a : Against T source) (requests : List Request) (budget : Nat)
    (F : Functions) (v : Value) :
    let session := ((Session.ofTable T).serve requests).2
    let run := Watch.run session (Watch.sanitizeWithin budget F source v)
    run.1 = sanitizeWithin budget F T source v ∧
      (∀ l ∈ run.2.lookups, l.Leads T) ∧
      ∀ schema record chain p mid w schema?, source.compile T.resolves = .ok schema →
        v.entries? = some record → Reaches F T schema record chain p mid → Transforms F p mid w →
        Descends T p w schema? → ∃ inner, schema? = some inner := by
  intro session run
  have fresh : Faithful T (Session.ofTable T) := faithful_ofTable
  obtain ⟨_, faithful⟩ := fresh.serve requests
  have follows : Follows (Watch.Sound T) (Watch.sanitizeWithin budget F source v)
      (sanitizeWithin budget F T source v) := Watch.follows_sanitizeWithin a
  obtain ⟨e, sound⟩ := follows ⟨session, []⟩ ⟨faithful, nofun⟩
  refine ⟨e, sound.2, ?_⟩
  intro schema record chain p mid w schema? ec _ reaches _ d
  cases schema? with
  | none => exact (not_dangling (a.compile ec) reaches d).elim
  | some inner => exact ⟨inner, rfl⟩

/-- A table with the names of `halfBroken`, in another order and with other documents. -/
def lenient : Table :=
  ⟨[(.text "bad", .record false []), (.text "node", .record false [])]⟩

/-- The two tables of the example have the same names. -/
lemma contains_lenient (name : Text) : lenient.contains name = halfBroken.contains name := by
  simp only [Table.contains, Record.contains, Record.get?, lenient, halfBroken, Option.isSome_map,
    List.isSome_find?, List.any_cons, List.any_nil, Bool.or_false]
  exact Bool.or_comm _ _

/-- A document that refers to a sound document and to one that does not compile. -/
def nodeAndBad : Value :=
  .record false [(.text "a", .record false [(.text "type", .text "node")]),
    (.text "b", .record false [(.text "type", .text "bad")])]

/-- A node that holds another one, and a second record beside it. -/
def nestedNode : Value :=
  .record false [(.text "a", .record false [(.text "next", .record false [])]),
    (.text "b", .record false [])]

/-- A schema that was compiled in another table looks its names up in the table of the run: one of them
twice, and the last one has a document that does not compile. -/
theorem lookups_lead_nestedNode :
    ∃ schema, Schema.compile lenient.resolves nodeAndBad = .ok schema ∧
      (Watch.run (Session.ofTable halfBroken)
        (Watch.sanitizeWithin 3 .builtin (.compiled schema) nestedNode)).2.lookups.map Lookup.name =
          ["node", "node", "bad"] ∧
      ∀ l ∈ (Watch.run (Session.ofTable halfBroken)
        (Watch.sanitizeWithin 3 .builtin (.compiled schema) nestedNode)).2.lookups,
        l.Leads halfBroken := by
  have compiled : Schema.compile lenient.resolves nodeAndBad =
      .ok [⟨"a", false, [], .reference "node", []⟩, ⟨"b", false, [], .reference "bad", []⟩] := rfl
  have against : Against halfBroken (.compiled
      [⟨"a", false, [], .reference "node", []⟩, ⟨"b", false, [], .reference "bad", []⟩]) :=
    .compiled contains_lenient compiled
  obtain ⟨_, led, _⟩ := lookups_lead against [] 3 .builtin nestedNode
  exact ⟨_, compiled, rfl, led⟩

end RecordSchema
