import RecordSchema.Proofs.Budget
import RecordSchema.Proofs.Row

/-!
# Acceptance

What a schema document means, without the order in which a run goes about it. `Accepts` says when a
document accepts a value and `Sanitizes` what record comes of it; both read rule sets off the
documents themselves and follow references through the table. `returns_iff_accepts` says that runs
agree: `walk_sound` leads from runs to the meaning by induction on the budget, `Accepts.walk` back by
induction on the meaning. Where no transform deepens a value, the budget that `sanitize` takes is
always enough, so the same holds of it (`sanitize_iff_accepts`).
-/

namespace RecordSchema

/-- Every document of a table has a property. -/
def Table.All (T : Table) (P : Value → Prop) : Prop :=
  ∀ name document, Record.get? T.entries name = some document → P document

/-- Anything holds of all documents of a table that has none. -/
lemma Table.all_nil {P : Value → Prop} : Table.All ⟨[]⟩ P := by
  intro name document e
  cases e

/-- What holds of a first document and of all others holds of all. -/
lemma Table.all_cons {name document entries} {P : Value → Prop} (first : P document)
    (rest : Table.All ⟨entries⟩ P) : Table.All ⟨(.text name, document) :: entries⟩ P := by
  intro other found e
  by_cases named : (Value.text name).isText other
  · have found : document = found := by simpa [Record.get?, named] using e
    exact found ▸ first
  · rw [Record.get?_cons_of_not named] at e
    exact rest other found e

/-- What holds of a document holds of all of a table with no other. -/
lemma Table.all_singleton {name document} {P : Value → Prop} (holds : P document) :
    Table.All ⟨[(.text name, document)]⟩ P :=
  all_cons holds nofun

namespace Assertion

/-- With some budget, a value asserted against a schema gives a record. -/
def Returns (F : Functions) (T : Table) (source : Source) (v : Value) (record : Record) : Prop :=
  ∃ budget, sanitizeWithin budget F T source v = .ok record

mutual

/-- A document accepts a value that is a mapping and satisfies every rule set of the document. -/
inductive Accepts (F : Functions) (T : Table) : Value → Value → Prop where
  | intro {frozen entries readOnly record} :
    (∀ key frozen fields, (.text key, .record frozen fields) ∈ entries →
      Satisfies F T key fields record) →
    Accepts F T (.record frozen entries) (.record readOnly record)

/-- A record satisfies the rule set under a key: the name of the key is absent and optional, or its
transformed value is accepted by the schema referred to, or by the inner schema and all rules, or by
all rules alone. -/
inductive Satisfies (F : Functions) (T : Table) : Text → Record → Record → Prop where
  | absent {key fields record} :
    Record.get? record (splitKey key).1 = none →
    (splitKey key).2 = true →
    Satisfies F T key fields record
  | reference {key fields record v w target document} :
    Record.get? record (splitKey key).1 = some v →
    Transform.applyAll F.transforms (RuleSet.transforms fields) v = .ok w →
    RuleSet.target? T.contains fields = some target →
    Record.get? T.entries target = some document →
    Accepts F T document w →
    Satisfies F T key fields record
  | inline {key fields record v w document} :
    Record.get? record (splitKey key).1 = some v →
    Transform.applyAll F.transforms (RuleSet.transforms fields) v = .ok w →
    RuleSet.target? T.contains fields = none →
    RuleSet.inner? fields = some document →
    Accepts F T document w →
    (∀ rule argument, RuleSet.States fields rule argument → Holds F.rules w (rule, argument)) →
    Satisfies F T key fields record
  | plain {key fields record v w} :
    Record.get? record (splitKey key).1 = some v →
    Transform.applyAll F.transforms (RuleSet.transforms fields) v = .ok w →
    RuleSet.target? T.contains fields = none →
    RuleSet.inner? fields = none →
    (∀ rule argument, RuleSet.States fields rule argument → Holds F.rules w (rule, argument)) →
    Satisfies F T key fields record

end

mutual

/-- What a document makes of a value that it accepts: a record with the same keys in the same order,
the same entries outside of the names of the document, and under each name what its rule set makes
of the value there. -/
inductive Sanitizes (F : Functions) (T : Table) : Value → Value → Record → Prop where
  | intro {frozen entries readOnly record result} :
    Record.keys result = Record.keys record →
    Record.outside (Schema.entryNames entries) result =
      Record.outside (Schema.entryNames entries) record →
    (∀ key frozen fields, (.text key, .record frozen fields) ∈ entries →
      Replaces F T fields (Record.get? record (splitKey key).1)
        (Record.get? result (splitKey key).1)) →
    Sanitizes F T (.record frozen entries) (.record readOnly record) result

/-- What a rule set makes of the value under its name, if there is one: the transformed value, or
what the schema referred to or the inner schema makes of it. -/
inductive Replaces (F : Functions) (T : Table) : Record → Option Value → Option Value → Prop where
  | absent {fields} :
    Replaces F T fields none none
  | reference {fields v w target document inner} :
    Transform.applyAll F.transforms (RuleSet.transforms fields) v = .ok w →
    RuleSet.target? T.contains fields = some target →
    Record.get? T.entries target = some document →
    Sanitizes F T document w inner →
    Replaces F T fields (some v) (some (.record false inner))
  | inline {fields v w document inner} :
    Transform.applyAll F.transforms (RuleSet.transforms fields) v = .ok w →
    RuleSet.target? T.contains fields = none →
    RuleSet.inner? fields = some document →
    Sanitizes F T document w inner →
    Replaces F T fields (some v) (some (.record false inner))
  | plain {fields v w} :
    Transform.applyAll F.transforms (RuleSet.transforms fields) v = .ok w →
    RuleSet.target? T.contains fields = none →
    RuleSet.inner? fields = none →
    Replaces F T fields (some v) (some w)

end

variable {F : Functions} {T : Table}

/-- Where no transform deepens a value, the budget of a run is enough for any record. -/
lemma returns_iff_sanitize {source v record} (keeps : KeepsDepth F.transforms) :
    Returns F T source v record ↔ sanitize F T source v = .ok record := by
  constructor
  · rintro ⟨budget, e⟩
    obtain ⟨schema, ec, e⟩ := sanitizeWithin_ok_iff.1 e
    rw [sanitize, sanitizeWithin_eq ec, walk_stable keeps depth_lt_budgetFor budget]
    exact walk_mono (Nat.le_add_left _ _) e nofun
  · intro e
    exact ⟨_, e⟩

/-- The rules of a compiled property hold exactly when those that its document states do. -/
lemma holds_iff_states {fields w} :
    (∀ rule ∈ Schema.rulesOf fields, Holds F.rules w rule) ↔
      ∀ rule argument, RuleSet.States fields rule argument → Holds F.rules w (rule, argument) := by
  rw [Prod.forall]
  apply forall_congr'
  intro rule
  apply forall_congr'
  intro argument
  rw [Schema.mem_rulesOf_iff]

section Sound

variable (distincts : T.All (DistinctNames T.contains)) {next : Descent}
  (below : ∀ {document schema v record}, Schema.compile (.total T.contains) document = .ok schema →
    DistinctNames T.contains document → next (some schema) v = .ok record →
    Accepts F T document v ∧ Sanitizes F T document v record)

include distincts below

/-- A compiled rule set that settles what is under its name is satisfied, and replaces it as the
rule set says. -/
lemma settles_sound {key fields p record new} (c : Schema.CompilesTo T.contains key fields p)
    (distinct : ∀ document, RuleSet.target? T.contains fields = none →
      RuleSet.inner? fields = some document → DistinctNames T.contains document)
    (s : Settles F T next p (Record.get? record p.name) new) :
    Satisfies F T key fields record ∧
      Replaces F T fields (Record.get? record (splitKey key).1) new := by
  obtain ⟨en, eo, et⟩ := c.head
  rw [en] at s
  cases ev : Record.get? record (splitKey key).1 with
  | none =>
    rw [ev] at s
    cases s with
    | absent optional => exact ⟨.absent ev (eo ▸ optional), .absent⟩
  | some v =>
    rw [ev] at s
    cases s with
    | @present _ x es =>
      obtain ⟨w, ew, ed, hold⟩ := settle_ok_iff.1 es
      rw [et] at ew
      cases c with
      | reference names er =>
        -- A reference that compiles is in the table, so the walk below had its schema.
        obtain ⟨e, _⟩ | ⟨schema?, record, d, e, rfl⟩ := descend_ok_iff.1 ed
        · cases e
        · cases d with
          | inline e' => cases e'
          | reference e' es =>
            cases e'
            have named := (RuleSet.of_target? er).2
            obtain ⟨_, schema, eg, ec, rfl⟩ := Table.schema?_of_contains named es
            obtain ⟨accepts, sanitizes⟩ := below ec (distincts _ _ eg) e
            exact ⟨.reference ev ew er eg accepts, .reference ew er eg sanitizes⟩
      | inline names texts er ei ec =>
        obtain ⟨e, _⟩ | ⟨schema?, record, d, e, rfl⟩ := descend_ok_iff.1 ed
        · cases e
        · cases d with
          | reference e' => cases e'
          | inline e' =>
            cases e'
            obtain ⟨accepts, sanitizes⟩ := below ec (distinct _ er ei) e
            exact ⟨.inline ev ew er ei accepts (holds_iff_states.1 hold), .inline ew er ei sanitizes⟩
      | plain names texts er ei =>
        obtain ⟨_, rfl⟩ | ⟨schema?, record, d, _, _⟩ := descend_ok_iff.1 ed
        · exact ⟨.plain ev ew er ei (holds_iff_states.1 hold), .plain ew er ei⟩
        · cases d with
          | reference e' => cases e'
          | inline e' => cases e'

end Sound

/-- A walk that gives a record asserts a value that its document accepts, and gives what the document
makes of it. -/
lemma walk_sound (distincts : T.All (DistinctNames T.contains)) {budget document schema v result}
    (ec : Schema.compile (.total T.contains) document = .ok schema)
    (distinct : DistinctNames T.contains document)
    (e : walk (tableServices T) F budget (some schema) v = .ok result) :
    Accepts F T document v ∧ Sanitizes F T document v result := by
  induction budget generalizing document schema v result with
  | zero => cases e
  | succ budget ih =>
    obtain ⟨frozen, entries, rfl, all⟩ := Schema.compile_ok_iff.1 ec
    cases distinct with
    | intro nodup inner =>
      rw [← Schema.names_eq all] at nodup
      cases v with
      | record readOnly record =>
        rw [walk_succ] at e
        have e : List.foldlM (step (tableServices T) F (walk (tableServices T) F budget)) record
          schema = .ok result := e
        -- Names are distinct, so what an entry says is about the record at the start.
        have each : ∀ key frozen fields, (.text key, .record frozen fields) ∈ entries →
            Satisfies F T key fields record ∧
              Replaces F T fields (Record.get? record (splitKey key).1)
                (Record.get? result (splitKey key).1) := by
          intro key frozen fields mem
          obtain ⟨p, mp, ⟨c⟩⟩ := exists_right_of_mem all mem
          rw [← c.head.1]
          have s := row_settles e nodup p mp
          obtain ⟨satisfies, replaces⟩ := settles_sound distincts ih c (inner _ _ _ · mem) s
          rw [← c.head.1] at replaces
          exact ⟨satisfies, replaces⟩
        refine ⟨.intro fun key frozen fields mem => (each key frozen fields mem).1, .intro ?_ ?_ ?_⟩
        · exact row_keys e
        · apply row_outside e
          intro p mem
          rw [← Schema.names_eq all]
          exact List.mem_map_of_mem mem
        · intro key frozen fields mem
          exact (each key frozen fields mem).2
      | _ => cases e

/-- What a property settles, it also settles with greater budgets below. -/
lemma Settles.mono {budget budget' p old new} (le : budget ≤ budget')
    (s : Settles F T (walk (tableServices T) F budget) p old new) :
    Settles F T (walk (tableServices T) F budget') p old new := by
  cases s with
  | absent optional => exact .absent optional
  | present es => exact .present (settle_mono le es)

/-- Properties that each settle what is under their name with some budget have a budget with which
all of them do. -/
lemma exists_budget {properties : Schema} {record}
    (each : ∀ p ∈ properties, ∃ budget new, Settles F T (walk (tableServices T) F budget) p
      (Record.get? record p.name) new) :
    ∃ budget, ∀ p ∈ properties, ∃ new, Settles F T (walk (tableServices T) F budget) p
      (Record.get? record p.name) new := by
  induction properties with
  | nil => exact ⟨0, nofun⟩
  | cons q rest ih =>
    obtain ⟨first, new, s⟩ := each q List.mem_cons_self
    obtain ⟨later, all⟩ := ih fun p mem => each p (List.mem_cons_of_mem _ mem)
    refine ⟨max first later, ?_⟩
    intro p mem
    rcases List.mem_cons.1 mem with rfl | mem
    · exact ⟨new, s.mono (Nat.le_max_left _ _)⟩
    · obtain ⟨new, s⟩ := all p mem
      exact ⟨new, s.mono (Nat.le_max_right _ _)⟩

/-- A document that accepts a value has a walk that gives a record. -/
lemma Accepts.walk (sound : T.All (WellFormed T.contains))
    (distincts : T.All (DistinctNames T.contains)) {document schema v}
    (accepts : Accepts F T document v)
    (ec : Schema.compile (.total T.contains) document = .ok schema)
    (distinct : DistinctNames T.contains document) :
    ∃ budget result, walk (tableServices T) F budget (some schema) v = .ok result := by
  induction accepts using Accepts.rec (motive_2 := fun key fields record _ =>
    ∀ p, Schema.CompilesTo T.contains key fields p →
      (∀ document, RuleSet.target? T.contains fields = none →
        RuleSet.inner? fields = some document → DistinctNames T.contains document) →
      ∃ budget new, Settles F T (Assertion.walk (tableServices T) F budget) p
        (Record.get? record p.name) new) generalizing schema with
  | @intro frozen entries readOnly record satisfied ih =>
    obtain ⟨_, _, e, all⟩ := Schema.compile_ok_iff.1 ec
    cases e
    cases distinct with
    | intro nodup inner =>
      rw [← Schema.names_eq all] at nodup
      -- Every entry comes with a budget of its own, and the row needs one for all of them.
      obtain ⟨budget, settled⟩ : ∃ budget, ∀ p ∈ schema, ∃ new,
          Settles F T (Assertion.walk (tableServices T) F budget) p
            (Record.get? record p.name) new := by
        apply exists_budget
        intro p mem
        obtain ⟨_, mem, ⟨c⟩⟩ := exists_left_of_mem all mem
        exact ih _ _ _ mem p c (inner _ _ _ · mem)
      obtain ⟨result, e⟩ := row_exists nodup settled
      exact ⟨budget + 1, result, e⟩
  | @absent key fields record en eo p c _ =>
    obtain ⟨name, optional, _⟩ := c.head
    rw [name, en]
    exact ⟨0, none, .absent (optional.trans eo)⟩
  | @reference key fields record v w target document ev ew er eg _ ih p c _ =>
    obtain ⟨name, _, transforms⟩ := c.head
    obtain ⟨schema, ec⟩ := (sound _ _ eg).compile
    obtain ⟨budget, result, e⟩ := ih ec (distincts _ _ eg)
    rw [name, ev]
    cases c with
    | reference _ er' =>
      cases er.symm.trans er'
      have es := Table.schema?_ok_iff.2 (.inr ⟨document, schema, eg, ec, rfl⟩)
      refine ⟨budget, some (.record false result), .present (settle_ok_iff.2 ⟨w, ew, ?_, nofun⟩)⟩
      exact descend_ok_iff.2 (.inr ⟨_, result, .reference rfl es, e, rfl⟩)
    | inline _ _ er' => cases er.symm.trans er'
    | plain _ _ er' => cases er.symm.trans er'
  | @inline key fields record v w document ev ew er ei accepts hold ih p c inner =>
    obtain ⟨name, _, transforms⟩ := c.head
    rw [name, ev]
    cases c with
    | reference _ er' => cases er.symm.trans er'
    | @inline _ schema _ _ _ ei' ec =>
      cases ei.symm.trans ei'
      obtain ⟨budget, result, e⟩ := ih ec (inner _ er ei)
      obtain ⟨entries, en⟩ : ∃ entries, w.entries? = some entries := by
        cases accepts
        exact ⟨_, rfl⟩
      refine ⟨budget, some (.record false result),
        .present (settle_ok_iff.2 ⟨w, ew, ?_, holds_iff_states.2 hold⟩)⟩
      exact descend_ok_iff.2 (.inr ⟨_, result, .inline rfl en, e, rfl⟩)
    | plain _ _ _ ei' => cases ei.symm.trans ei'
  | @plain key fields record v w ev ew er ei hold p c _ =>
    obtain ⟨name, _, transforms⟩ := c.head
    rw [name, ev]
    cases c with
    | reference _ er' => cases er.symm.trans er'
    | inline _ _ _ ei' => cases ei.symm.trans ei'
    | plain =>
      refine ⟨0, some w, .present (settle_ok_iff.2 ⟨w, ew, ?_, holds_iff_states.2 hold⟩)⟩
      exact descend_ok_iff.2 (.inl ⟨rfl, rfl⟩)

/-- A record that comes back is what its document makes of the value, which it accepts. -/
lemma Returns.sound {document v result} (returns : Returns F T (.document document) v result)
    (distinct : DistinctNames T.contains document) (distincts : T.All (DistinctNames T.contains)) :
    Accepts F T document v ∧ Sanitizes F T document v result := by
  obtain ⟨budget, e⟩ := returns
  obtain ⟨schema, ec, e⟩ := sanitizeWithin_ok_iff.1 e
  exact walk_sound distincts ec distinct e

/-- Of a value that its document accepts, a record comes back. -/
lemma Accepts.returns {document v} (accepts : Accepts F T document v)
    (wf : WellFormed T.contains document) (sound : T.All (WellFormed T.contains))
    (distinct : DistinctNames T.contains document) (distincts : T.All (DistinctNames T.contains)) :
    ∃ result, Returns F T (.document document) v result := by
  obtain ⟨schema, ec⟩ := wf.compile
  obtain ⟨budget, result, e⟩ := accepts.walk sound distincts ec distinct
  have run : sanitizeWithin budget F T (.document document) v =
      Assertion.walk (tableServices T) F budget (some schema) v := sanitizeWithin_eq ec
  exact ⟨result, budget, run.trans e⟩

/-- With well-formed documents whose names are distinct on every level, a record comes back exactly
when the document accepts the value, and it is what the document makes of the value. -/
theorem returns_iff_accepts {document v} (wf : WellFormed T.contains document)
    (sound : T.All (WellFormed T.contains)) (distinct : DistinctNames T.contains document)
    (distincts : T.All (DistinctNames T.contains)) :
    ((∃ result, Returns F T (.document document) v result) ↔ Accepts F T document v) ∧
      ∀ result, Returns F T (.document document) v result → Sanitizes F T document v result := by
  refine ⟨⟨?_, ?_⟩, ?_⟩
  · rintro ⟨result, returns⟩
    exact (returns.sound distinct distincts).1
  · exact fun accepts => accepts.returns wf sound distinct distincts
  · exact fun result returns => (returns.sound distinct distincts).2

/-- A document of named nodes, each of which may have a next one. -/
def linked : Value :=
  .record false [
    (.text "name", .record false [(.text "transform", .list [.text "trim"]),
      (.text "type", .text "string")]),
    (.text "next?", .record false [(.text "type", .text "node")])]

/-- The table in which nodes refer to themselves. -/
def linkedTable : Table :=
  ⟨[(.text "node", linked)]⟩

/-- Two nodes with blanks around their names. -/
def linkedNodes : Value :=
  .record false [
    (.text "next", .record true [(.text "name", .text "b ")]),
    (.text "name", .text " a")]

/-- Linked nodes are accepted, and the name of each of them is trimmed. -/
theorem accepts_linkedNodes :
    WellFormed linkedTable.contains linked ∧ DistinctNames linkedTable.contains linked ∧
      Accepts .builtin linkedTable linked linkedNodes ∧
      Sanitizes .builtin linkedTable linked linkedNodes
        [(.text "next", .record false [(.text "name", .text "b")]),
          (.text "name", .text "a")] := by
  have wf : WellFormed linkedTable.contains linked := wellFormed_iff.2 ⟨_, rfl⟩
  have distinct : DistinctNames linkedTable.contains linked := by
    refine .intro (by decide) ?_
    intro key frozen fields document mem _ ei
    simp only [List.mem_cons, List.not_mem_nil, or_false, Prod.mk.injEq, Value.record.injEq] at mem
    rcases mem with ⟨_, _, rfl⟩ | ⟨_, _, rfl⟩ <;> cases ei
  have only : ∀ name document, Record.get? linkedTable.entries name = some document →
      document = linked := by
    intro name document e
    have mem := Record.mem_of_get? e
    simp only [linkedTable, List.mem_singleton, Prod.mk.injEq] at mem
    exact mem.2
  obtain ⟨accepted, sanitized⟩ := returns_iff_accepts (F := .builtin) (v := linkedNodes) wf
    (fun name document e => only name document e ▸ wf) distinct
    (fun name document e => only name document e ▸ distinct)
  have returned : Returns .builtin linkedTable (.document linked) linkedNodes
      [(.text "next", .record false [(.text "name", .text "b")]), (.text "name", .text "a")] :=
    ⟨3, by cbv⟩
  exact ⟨wf, distinct, accepted.1 ⟨_, returned⟩, sanitized _ returned⟩

/-- Where no transform deepens a value, `sanitize` itself gives a record exactly when the document accepts
the value, and it is what the document makes of the value. -/
theorem sanitize_iff_accepts {document v} (keeps : KeepsDepth F.transforms)
    (wf : WellFormed T.contains document) (sound : T.All (WellFormed T.contains))
    (distinct : DistinctNames T.contains document) (distincts : T.All (DistinctNames T.contains)) :
    ((∃ result, sanitize F T (.document document) v = .ok result) ↔ Accepts F T document v) ∧
      ∀ result, sanitize F T (.document document) v = .ok result →
        Sanitizes F T document v result := by
  simp only [← returns_iff_sanitize keeps]
  refine ⟨⟨?_, ?_⟩, ?_⟩
  · rintro ⟨result, returns⟩
    exact (returns.sound distinct distincts).1
  · exact fun accepts => accepts.returns wf sound distinct distincts
  · exact fun result returns => (returns.sound distinct distincts).2

end Assertion

end RecordSchema
