import RecordSchema.Contract
import RecordSchema.Proofs.Builtin

/-!
# What escapes from assertions and contracts

A mishap that does not blame the schema escapes from an assertion with the built-in functions exactly
when it is raised at one of the properties of the document itself (`sanitize_escapes_iff`): raised
further down, it is seen as a failure. From a contract it escapes when it escapes from the assertion
of a section that the sections before it let the run get to (`verify_escapes_iff`).
-/

namespace RecordSchema

/-- Seen from outside of a property, nothing is a mishap. -/
lemma Fault.within_ne_mishap {fault : Fault} {name mishap} : fault.within name ≠ .mishap mishap := by
  cases fault <;> nofun

/-- Only below no property at all is a fault still seen as a mishap. -/
lemma Fault.beneath_mishap {chain fault mishap} (e : Fault.beneath chain fault = .mishap mishap) :
    chain = [] ∧ fault = .mishap mishap := by
  cases chain with
  | nil => exact ⟨rfl, e⟩
  | cons q rest => exact (within_ne_mishap e).elim

namespace Assertion

variable {F : Functions} {T : Table}

/-- What a walk comes to with budgets that are large enough is what its own budget gives. -/
lemma Eventually.budgetFor (keeps : KeepsDepth F.transforms) {schema? v result}
    (e : Eventually (fun budget => walk (tableServices T) F budget schema? v) result) :
    walk (tableServices T) F (budgetFor v) schema? v = result := by
  obtain ⟨enough, e⟩ := e
  rw [walk_stable keeps depth_lt_budgetFor enough]
  exact e _ (Nat.le_add_left _ _)

/-- The budget of an assertion with the built-in functions is never used up. -/
lemma sanitize_ne_exhausted {document v} :
    sanitize .builtin T (.document document) v ≠ .error .exhausted := by
  intro e
  obtain ec | ⟨schema, _, ew⟩ := bind_error_iff.1 e
  · obtain ⟨flaw, ef⟩ := Schema.compile_error ec
    cases ef
  · exact walk_ne_exhausted builtin_keepsDepth builtin_neverExhausts depth_lt_budgetFor ew

/-- A mishap escapes from asserting a value against a document: the built-in functions raise it at a
property of the document that the run gets to, and it does not blame the schema. -/
def Escapes (T : Table) (document v : Value) (mishap : Mishap) : Prop :=
  ∃ schema record p mid, Schema.compile T.resolves document = .ok schema ∧
    v.entries? = some record ∧ Reaches .builtin T schema record [] p mid ∧ Uncaught p mid mishap

/-- A mishap that goes wrong at a property is raised there. -/
lemma Fails.raises {p record mishap} (fails : Fails F T p record (.mishap mishap)) :
    Raises F T p record (.mishap mishap) := by
  cases fails with
  | raised raises => exact raises
  | lookup _ _ es =>
    obtain ⟨flaw, ef⟩ := Table.schema?_error es
    cases ef

/-- An assertion ends with a mishap that does not blame the schema exactly when it escapes. -/
theorem sanitize_escapes_iff {document v mishap} :
    sanitize .builtin T (.document document) v = .error (.mishap mishap) ∧
        mishap.blamesSchema = false ↔
      Escapes T document v mishap := by
  constructor
  · rintro ⟨e, calm⟩
    obtain ec | ⟨schema, ec, ew⟩ := bind_error_iff.1 e
    · obtain ⟨flaw, ef⟩ := Schema.compile_error ec
      cases ef
    · -- A mishap that is seen at the top was not raised below any property.
      obtain ⟨_, ef⟩ | ⟨record, chain, p, mid, inner, en, reaches, fails, ef⟩ :=
        walk_error ew nofun
      · cases ef
      · obtain ⟨rfl, rfl⟩ := Fault.beneath_mishap ef.symm
        exact ⟨schema, record, p, mid, ec, en, reaches, uncaught_iff.2 ⟨fails.raises, calm⟩⟩
  · rintro ⟨schema, record, p, mid, ec, en, reaches, uncaught⟩
    obtain ⟨raises, calm⟩ := uncaught_iff.1 uncaught
    refine ⟨?_, calm⟩
    have compiled : (Source.document document).compile T.resolves = .ok schema := ec
    rw [sanitize, sanitizeWithin_eq compiled]
    exact (reaches.walk_error en (.raised raises)).budgetFor builtin_keepsDepth

end Assertion

namespace Contract

open Assertion

/-- A row of checks fails at the first one that does. -/
lemma forM_error_iff {α : Type} {f : α → Except Fault Unit} {xs : List α} {fault} :
    xs.forM f = .error fault ↔ ∃ before x after, xs = before ++ x :: after ∧
      (∀ y ∈ before, f y = .ok ()) ∧ f x = .error fault := by
  induction xs with
  | nil =>
    constructor
    · nofun
    · rintro ⟨before, x, after, e, _⟩
      cases before <;> cases e
  | cons x rest ih =>
    change (f x >>= fun _ => rest.forM f) = _ ↔ _
    rw [bind_error_iff, ih]
    constructor
    · rintro (e | ⟨_, ex, before, y, after, rfl, passed, e⟩)
      · exact ⟨[], x, rest, rfl, nofun, e⟩
      · exact ⟨x :: before, y, after, rfl, List.forall_mem_cons.2 ⟨ex, passed⟩, e⟩
    · rintro ⟨before, y, after, e, passed, ey⟩
      cases before with
      | nil =>
        cases e
        exact .inl ey
      | cons first before =>
        cases e
        obtain ⟨ex, passed⟩ := List.forall_mem_cons.1 passed
        exact .inr ⟨(), ex, before, y, after, rfl, passed, ey⟩

/-- A section is satisfied: a contract demands nothing of it, or it is there and accepted. -/
def Satisfied (contract context : Record) (name : Text) : Prop :=
  ∀ document, present? contract name = some document →
    ∃ v record, present? context name = some v ∧
      sanitize .builtin ⟨[]⟩ (.document document) v = .ok record

/-- How a section fails: what a contract demands is missing, or not accepted. -/
inductive SectionFails (contract context : Record) (name : Text) : Fault → Prop where
  | missing {document} :
    present? contract name = some document →
    present? context name = none →
    SectionFails contract context name (.violated [name] (.missingSection name))
  | refused {document v fault} :
    present? contract name = some document →
    present? context name = some v →
    sanitize .builtin ⟨[]⟩ (.document document) v = .error fault →
    SectionFails contract context name fault

/-- Verifies one section by asserting it. -/
def verifyNamed (contract context : Record) (name : Text) : Except Fault Unit :=
  verifySection
    (fun document v =>
      match sanitize .builtin ⟨[]⟩ (.document document) v with
      | .ok _ => .ok ()
      | .error fault => .error fault)
    context contract name

/-- Of mappings, the sections are verified one after another. -/
lemma verify_eq {context contract : Value} {entries record} (ec : contract.entries? = some entries)
    (er : context.entries? = some record) :
    verify context contract = sections.forM (verifyNamed entries record) := by
  rw [verify, verifyWith, ec, er]
  rfl

/-- A section passes exactly when it is satisfied. -/
lemma verifyNamed_ok_iff {contract context name} :
    verifyNamed contract context name = .ok () ↔ Satisfied contract context name := by
  unfold verifyNamed verifySection Satisfied
  cases present? contract name with
  | none => exact ⟨fun _ => nofun, fun _ => rfl⟩
  | some document =>
    cases present? context name with
    | none =>
      constructor
      · nofun
      · intro satisfied
        obtain ⟨v, _, ev, _⟩ := satisfied document rfl
        cases ev
    | some v =>
      dsimp only
      cases es : sanitize .builtin ⟨[]⟩ (.document document) v with
      | error fault =>
        constructor
        · nofun
        · intro satisfied
          obtain ⟨_, record, ev, er⟩ := satisfied document rfl
          cases ev
          rw [es] at er
          cases er
      | ok record =>
        constructor
        · intro _ _ e
          cases e
          exact ⟨v, record, rfl, es⟩
        · exact fun _ => rfl

/-- A section fails exactly in the ways of `SectionFails`. -/
lemma verifyNamed_error_iff {contract context name fault} :
    verifyNamed contract context name = .error fault ↔
      SectionFails contract context name fault := by
  unfold verifyNamed verifySection
  cases ec : present? contract name with
  | none =>
    constructor
    · nofun
    · intro fails
      cases fails with
      | missing e => rw [ec] at e; cases e
      | refused e => rw [ec] at e; cases e
  | some document =>
    cases ev : present? context name with
    | none =>
      constructor
      · intro e
        cases e
        exact .missing ec ev
      · intro fails
        cases fails with
        | missing => rfl
        | refused _ e => rw [ev] at e; cases e
    | some v =>
      -- The section is both demanded and there, so it is asserted.
      dsimp only
      cases es : sanitize .builtin ⟨[]⟩ (.document document) v with
      | error fault =>
        constructor
        · intro e
          cases e
          exact .refused ec ev es
        · intro fails
          cases fails with
          | missing _ e => rw [ev] at e; cases e
          | refused ec' ev' es' =>
            rw [ec] at ec'
            rw [ev] at ev'
            cases ec'
            cases ev'
            rw [es] at es'
            cases es'
            rfl
      | ok record =>
        constructor
        · nofun
        · intro fails
          cases fails with
          | missing _ e => rw [ev] at e; cases e
          | refused ec' ev' es' =>
            rw [ec] at ec'
            rw [ev] at ev'
            cases ec'
            cases ev'
            rw [es] at es'
            cases es'

/-- How verifying a context fails: the contract or the context is no mapping, or a section fails,
those before it being satisfied. -/
inductive Fails (context contract : Value) : Fault → Prop where
  | notContract :
    contract.entries? = none →
    Fails context contract (.schema (.contractNotMapping contract))
  | notContext {entries} :
    contract.entries? = some entries →
    context.entries? = none →
    Fails context contract (.violated [] .contextNotRecord)
  | ofSection {entries record before name after fault} :
    contract.entries? = some entries →
    context.entries? = some record →
    sections = before ++ name :: after →
    (∀ name ∈ before, Satisfied entries record name) →
    SectionFails entries record name fault →
    Fails context contract fault

/-- Verifying a context fails exactly in the ways of `Fails`. -/
lemma verify_error_iff {context contract fault} :
    verify context contract = .error fault ↔ Fails context contract fault := by
  constructor
  · intro e
    cases ec : contract.entries? with
    | none =>
      rw [verify, verifyWith, ec] at e
      cases e
      exact .notContract ec
    | some entries =>
      cases er : context.entries? with
      | none =>
        rw [verify, verifyWith, ec, er] at e
        cases e
        exact .notContext ec er
      | some record =>
        rw [verify_eq ec er, forM_error_iff] at e
        obtain ⟨before, name, after, ordered, passed, e⟩ := e
        apply Fails.ofSection ec er ordered _ (verifyNamed_error_iff.1 e)
        exact fun name mem => verifyNamed_ok_iff.1 (passed name mem)
  · intro fails
    cases fails with
    | notContract ec =>
      rw [verify, verifyWith, ec]
      rfl
    | notContext ec er =>
      rw [verify, verifyWith, ec, er]
      rfl
    | ofSection ec er ordered satisfied fails =>
      rw [verify_eq ec er, forM_error_iff]
      refine ⟨_, _, _, ordered, ?_, verifyNamed_error_iff.2 fails⟩
      exact fun name mem => verifyNamed_ok_iff.2 (satisfied name mem)

/-- Verifying never runs out of a budget. -/
lemma verify_ne_exhausted {context contract} : verify context contract ≠ .error .exhausted := by
  intro e
  cases verify_error_iff.1 e with
  | ofSection _ _ _ _ fails =>
    cases fails with
    | refused _ _ es => exact sanitize_ne_exhausted es

/-- A mishap escapes from verifying a context: it escapes from asserting a section that is there, the
sections before it being satisfied. -/
def Escapes (context contract : Value) (mishap : Mishap) : Prop :=
  ∃ entries record before name after document v,
    contract.entries? = some entries ∧ context.entries? = some record ∧
    sections = before ++ name :: after ∧ (∀ name ∈ before, Satisfied entries record name) ∧
    present? entries name = some document ∧ present? record name = some v ∧
    Assertion.Escapes ⟨[]⟩ document v mishap

/-- Verifying a contract ends with a mishap that does not blame the schema exactly when it
escapes. -/
theorem verify_escapes_iff {context contract mishap} :
    verify context contract = .error (.mishap mishap) ∧ mishap.blamesSchema = false ↔
      Escapes context contract mishap := by
  rw [verify_error_iff]
  constructor
  · rintro ⟨fails, calm⟩
    cases fails with
    | ofSection ec er ordered satisfied fails =>
      cases fails with
      | refused ed ev es =>
        exact ⟨_, _, _, _, _, _, _, ec, er, ordered, satisfied, ed, ev,
          sanitize_escapes_iff.1 ⟨es, calm⟩⟩
  · rintro ⟨_, _, _, _, _, _, _, ec, er, ordered, satisfied, ed, ev, escapes⟩
    obtain ⟨es, calm⟩ := sanitize_escapes_iff.2 escapes
    exact ⟨.ofSection ec er ordered satisfied (.refused ed ev es), calm⟩

end Contract

end RecordSchema
