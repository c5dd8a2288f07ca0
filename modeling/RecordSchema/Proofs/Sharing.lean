import RecordSchema.Proofs.Simulation
import RecordSchema.Request

/-!
# Sharing a table

Requests that share a table do not notice each other. What is kept compiled only ever saves work: each
request is answered as the bare table answers it (`simulates_answer`), whatever was asked before, so as
if it were the first one (`serve_transparent`).
-/

namespace RecordSchema

/-- The answer to a request with a table of which nothing is kept. -/
def Table.answer (T : Table) : Request → Except Fault Answer
  | .schema (.text name) => do return .schema (← T.schema? name)
  | .schema _ => return .schema none
  | .contains name => return .contained (T.containsValue name)
  | .names => return .names T.names
  | .size => return .size T.size
  | .sanitize functions source v => do return .record (← sanitize functions T source v)

variable {T : Table}

/-- A computation that reads something off the table of a session is simulated by reading it off the
table. -/
lemma simulates_read {α : Type} (f : Table → α) :
    Simulates T (do return f (← get).table.table) (pure (f T)) := by
  intro session faithful
  have read : (Session.run session (do return f (← get).table.table)).1 =
      .ok (f session.table.table) := rfl
  rw [read, faithful.table]
  exact ⟨rfl, faithful⟩

/-- Requests in a session are answered as by its table. -/
lemma simulates_answer (request : Request) :
    Simulates T (Session.answer request) (T.answer request) := by
  cases request with
  | schema name =>
    cases name with
    | text name => exact (simulates_schema? name).bind fun schema? => simulates_pure _
    | _ => exact simulates_pure _
  | contains name => exact simulates_read fun table => Answer.contained (table.containsValue name)
  | names => exact simulates_read fun table => Answer.names table.names
  | size => exact simulates_read fun table => Answer.size table.size
  | sanitize functions source v => exact simulates_sanitize.bind fun record => simulates_pure _

/-- A row of requests is answered as by the table, and leaves the session with it. -/
lemma Faithful.serve {session : Session} (faithful : Faithful T session) (requests : List Request) :
    (session.serve requests).1 = requests.map T.answer ∧ Faithful T (session.serve requests).2 := by
  induction requests generalizing session with
  | nil => exact ⟨rfl, faithful⟩
  | cons request rest ih =>
    obtain ⟨first, faithful⟩ := simulates_answer request session faithful
    obtain ⟨others, faithful⟩ := ih faithful
    refine ⟨?_, faithful⟩
    rw [List.map_cons, ← first, ← others]
    rfl

/-- The document under a value, which has one only if it is a name of the table. -/
def Table.document? (T : Table) : Value → Option Value
  | .text name => Record.get? T.entries name
  | _ => none

/-- Asked for a schema, a table compiles the document of the name, if there is one. -/
lemma Table.answer_schema (T : Table) (v : Value) :
    T.answer (.schema v) =
      match T.document? v with
      | none => .ok (.schema none)
      | some document => (Schema.compile T.resolves document).map (Answer.schema ∘ some) := by
  cases v with
  | text name =>
    change (T.schema? name >>= fun schema? => pure (Answer.schema schema?)) =
      match Record.get? T.entries name with
      | none => _
      | some document => _
    unfold Table.schema?
    cases Record.get? T.entries name with
    | none => rfl
    | some document =>
      dsimp only
      cases Schema.compile T.resolves document <;> rfl
  | _ => rfl

/-- Whatever requests share a table, each of them is answered as if it came first. Asking for a schema
always gives what the document of the name compiles to, or the fault that it has; no text but a name of
the table, and nothing that is no text, has one. The table stays as it is, and what is kept compiled is
what its documents compile to, so nothing is kept of those that do not. -/
theorem serve_transparent (T : Table) (requests : List Request) :
    ((Session.ofTable T).serve requests).1 =
        requests.map (fun request => ((Session.ofTable T).run (Session.answer request)).1) ∧
      (∀ v, (((Session.ofTable T).serve requests).2.run (Session.answer (.schema v))).1 =
        match T.document? v with
        | none => .ok (.schema none)
        | some document => (Schema.compile T.resolves document).map (Answer.schema ∘ some)) ∧
      ((Session.ofTable T).serve requests).2.table.table = T ∧
      ∀ name schema,
        ((Session.ofTable T).serve requests).2.table.compiled.lookup name = some schema →
        ∃ document, Record.get? T.entries name = some document ∧
          Schema.compile T.resolves document = .ok schema := by
  have fresh : Faithful T (Session.ofTable T) := faithful_ofTable
  obtain ⟨answers, later⟩ := fresh.serve requests
  refine ⟨?_, ?_, later.table, ?_⟩
  · rw [answers]
    apply List.map_congr_left
    intro request _
    exact (simulates_answer request _ fresh).1.symm
  · intro v
    rw [(simulates_answer (.schema v) _ later).1]
    exact T.answer_schema v
  · intro name schema kept
    obtain ⟨_, e⟩ | ⟨document, _, eg, ec, e⟩ := Table.schema?_ok_iff.1 (later.compiled name schema kept)
    · cases e
    · cases e
      exact ⟨document, eg, ec⟩

/-- A table with a schema that refers to itself and a document that does not compile. -/
def halfBroken : Table :=
  ⟨[(.text "node", .record false [(.text "next?", .record false [(.text "type", .text "node")])]),
    (.text "bad", .record false [(.text "x", .int 1)])]⟩

/-- Requests of which several fail, one of them an assertion that has already looked a name up. -/
def mixedRequests : List Request :=
  [.schema (.text "bad"),
    .sanitize .builtin
      (.document (.record false [(.text "a", .record false [(.text "type", .text "node")]),
        (.text "b", .record false [(.text "type", .text "bad")])]))
      (.record false [(.text "a", .record false []), (.text "b", .record false [])]),
    .schema (.text "node"), .schema (.text "bad"), .contains (.int 1)]

/-- The assertion that fails leaves the one schema compiled that it got to, and changes no answer. -/
theorem serve_mixedRequests :
    ((Session.ofTable halfBroken).serve mixedRequests).2.table.compiled.lookup ("node" : Text) =
        some [⟨"next", true, [], .reference "node", []⟩] ∧
      (∃ document, Record.get? halfBroken.entries "node" = some document ∧
        Schema.compile halfBroken.resolves document =
          .ok [⟨"next", true, [], .reference "node", []⟩]) ∧
      ((Session.ofTable halfBroken).serve mixedRequests).1 =
        mixedRequests.map fun request =>
          ((Session.ofTable halfBroken).run (Session.answer request)).1 := by
  have kept : ((Session.ofTable halfBroken).serve mixedRequests).2.table.compiled.lookup ("node" : Text) =
      some [⟨"next", true, [], .reference "node", []⟩] := by
    cbv
  obtain ⟨answers, _, _, sound⟩ := serve_transparent halfBroken mixedRequests
  exact ⟨kept, sound _ _ kept, answers⟩

end RecordSchema
