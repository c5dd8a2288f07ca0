import RecordSchema.Proofs.Acceptance
import RecordSchema.Proofs.Builtin

/-!
# Malformed schemas

A schema is at fault or it is not, whatever is asserted against it. Where every document of the table
is well formed and no function blames a schema, no look-up and no call of a run comes to the fault of a
schema (`walk_ne_schema`). Compiling alone does, and it has not seen the data yet, so a malformed
document is refused for the same fault with any data, and a well-formed one never
(`findsFlaw_all_or_none`).
-/

namespace RecordSchema

/-- A fault that is seen as that of a schema from outside of some properties is one. -/
lemma Fault.eq_schema_of_beneath {chain fault flaw} (e : Fault.beneath chain fault = .schema flaw) :
    fault = .schema flaw := by
  induction chain with
  | nil => exact e
  | cons q rest ih =>
    apply ih
    change (Fault.beneath rest fault).within q.name = _ at e
    generalize Fault.beneath rest fault = below at e
    cases below with
    | schema => exact e
    | _ => cases e

/-- A schema as it is handed over is well formed: as a document in the table, or as it was compiled. -/
def Source.WellFormed (T : Table) : Source → Prop
  | .document v => RecordSchema.WellFormed T.contains v
  | .compiled _ => True

/-- Every name of a table of well-formed documents has a schema. -/
lemma Table.All.schema?_ne_error {T : Table} (sound : T.All (WellFormed T.contains)) {name fault} :
    T.schema? name ≠ .error fault := by
  intro e
  cases eg : Record.get? T.entries name with
  | none =>
    have found : T.schema? name = .ok none := schema?_ok_iff.2 (.inl ⟨eg, rfl⟩)
    cases found.symm.trans e
  | some document =>
    obtain ⟨schema, ec⟩ := (sound name document eg).compile
    have found : T.schema? name = .ok (some schema) :=
      schema?_ok_iff.2 (.inr ⟨document, schema, eg, ec, rfl⟩)
    cases found.symm.trans e

namespace Assertion

variable {F : Functions} {T : Table}

/-- A schema compiles when it is well formed, and has a fault of its own when it is not. -/
lemma compile_cases (T : Table) (source : Source) :
    (source.WellFormed T ∧ ∃ schema, source.compile T.resolves = .ok schema) ∨
      (¬source.WellFormed T ∧ ∃ flaw, source.compile T.resolves = .error (.schema flaw)) := by
  cases source with
  | compiled schema => exact .inl ⟨trivial, schema, rfl⟩
  | document v =>
    cases ec : Schema.compile T.resolves v with
    | ok schema => exact .inl ⟨.of_compile ec, schema, ec⟩
    | error fault =>
      obtain ⟨flaw, rfl⟩ := Schema.compile_error ec
      refine .inr ⟨?_, flaw, ec⟩
      intro wf
      obtain ⟨schema, ec'⟩ := WellFormed.compile wf
      cases ec'.symm.trans ec

/-- No function stops a run by blaming a schema. -/
structure SparesSchemas (F : Functions) : Prop where
  transforms : ∀ name f v flaw, F.transforms.get? name = some f → f v ≠ .error (.schema flaw)
  rules : ∀ name holds v argument flaw, F.rules.get? name = some holds →
    holds v argument ≠ .error (.schema flaw)

/-- The built-in functions raise mishaps only. -/
lemma builtin_sparesSchemas : SparesSchemas .builtin where
  transforms := by
    intro name f v flaw ef e
    obtain ⟨_, mishap, em, _⟩ := Transform.builtin_error ef e
    cases em
  rules := by
    intro name holds v argument flaw eh e
    obtain ⟨mishap, em, _⟩ | ⟨_, _, _, _, _, _, _, em⟩ := Rule.builtin_error eh e
    · cases em
    · cases em

/-- What a function raises at a property is not the fault of a schema. -/
lemma Raises.ne_schema {p record flaw} (spares : SparesSchemas F) :
    ¬Raises F T p record (.schema flaw) := by
  intro raises
  cases raises with
  | transform _ et =>
    obtain ⟨_, name, _, f, w, _, _, ef, raised⟩ := applyAll_error et
    exact spares.transforms name f w flaw ef raised
  | rule _ _ _ _ er eh => exact spares.rules _ _ _ _ flaw er eh

/-- A walk over a table of well-formed documents does not end with the fault of a schema. -/
lemma walk_ne_schema (spares : SparesSchemas F) (sound : T.All (WellFormed T.contains))
    {budget schema v flaw} :
    walk (tableServices T) F budget (some schema) v ≠ .error (.schema flaw) := by
  intro e
  obtain ⟨_, ef⟩ | ⟨record, chain, p, mid, inner, _, _, fails, ef⟩ := walk_error e nofun
  · cases ef
  · -- Whatever is seen as the fault of a schema was one at the property where it arose.
    obtain rfl := Fault.eq_schema_of_beneath ef.symm
    cases fails with
    | raised raises => exact raises.ne_schema spares
    | lookup _ _ es => exact sound.schema?_ne_error es

/-- Asserting a value against a schema ends with the fault of a schema. -/
def FindsFlaw (F : Functions) (T : Table) (source : Source) (v : Value) : Prop :=
  ∃ flaw, sanitize F T source v = .error (.schema flaw)

/-- Whether an assertion ends with the fault of a schema does not depend on the data. With a table of
well-formed documents and functions that do not blame schemas, it does so for every value when the
schema is malformed, always with the same fault and within any budget, and for no value when the schema
is well formed. -/
theorem findsFlaw_all_or_none (spares : SparesSchemas F) (sound : T.All (WellFormed T.contains))
    (source : Source) :
    ((∀ v, FindsFlaw F T source v) ∨ ∀ v, ¬FindsFlaw F T source v) ∧
      ((∀ v, FindsFlaw F T source v) ↔ ¬source.WellFormed T) ∧
      (¬source.WellFormed T →
        ∃ flaw, ∀ budget v, sanitizeWithin budget F T source v = .error (.schema flaw)) ∧
      (source.WellFormed T →
        ∀ budget v flaw, sanitizeWithin budget F T source v ≠ .error (.schema flaw)) := by
  obtain ⟨wf, schema, ec⟩ | ⟨malformed, flaw, ec⟩ := compile_cases T source
  · have never : ∀ budget v flaw, sanitizeWithin budget F T source v ≠ .error (.schema flaw) := by
      intro budget v flaw
      rw [sanitizeWithin_eq ec]
      exact walk_ne_schema spares sound
    have none : ∀ v, ¬FindsFlaw F T source v := by
      rintro v ⟨flaw, e⟩
      exact never _ v flaw e
    refine ⟨.inr none, ⟨?_, ?_⟩, ?_, fun _ => never⟩
    · exact fun all => (none .null (all .null)).elim
    · exact fun malformed => (malformed wf).elim
    · exact fun malformed => (malformed wf).elim
  · have always : ∀ budget v, sanitizeWithin budget F T source v = .error (.schema flaw) := by
      intro budget v
      rw [sanitizeWithin, ec]
      rfl
    have all : ∀ v, FindsFlaw F T source v := fun v => ⟨flaw, always _ v⟩
    refine ⟨.inl all, ⟨fun _ => malformed, fun _ => all⟩, fun _ => ⟨flaw, always⟩, ?_⟩
    exact fun wf => (malformed wf).elim

/-- A box whose inner document has a rule set that is no mapping, far below what data need to have. -/
def brokenBox : Value :=
  .record false [(.text "box?", .record false [(.text "properties", .record false [
    (.text "node", .record false [(.text "type", .text "node")]),
    (.text "size?", .text "large")])])]

/-- Among linked nodes a broken box is refused with any data, even with data that has no box in it, and a
node never is. -/
theorem findsFlaw_brokenBox :
    SparesSchemas .builtin ∧ linkedTable.All (WellFormed linkedTable.contains) ∧
      (∀ v, FindsFlaw .builtin linkedTable (.document brokenBox) v) ∧
      ∀ v, ¬FindsFlaw .builtin linkedTable (.document linked) v := by
  have wf : WellFormed linkedTable.contains linked := wellFormed_iff.2 ⟨_, rfl⟩
  have sound : linkedTable.All (WellFormed linkedTable.contains) := Table.all_singleton wf
  have malformed : ¬(Source.document brokenBox).WellFormed linkedTable := by
    intro wf
    obtain ⟨schema, ec⟩ := WellFormed.compile wf
    cases ec
  obtain ⟨_, refused, _⟩ :=
    findsFlaw_all_or_none builtin_sparesSchemas sound (.document brokenBox)
  obtain ⟨apart, accepted, _⟩ :=
    findsFlaw_all_or_none builtin_sparesSchemas sound (.document linked)
  refine ⟨builtin_sparesSchemas, sound, refused.2 malformed, ?_⟩
  exact apart.resolve_left fun all => accepted.1 all wf

end Assertion

end RecordSchema
