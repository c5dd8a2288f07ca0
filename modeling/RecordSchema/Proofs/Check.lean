import RecordSchema.Checker.Check
import RecordSchema.Proofs.Escape
import RecordSchema.Proofs.Simulation

/-!
# What a check leaves behind

A check is to end with one of three exit codes and the report that goes with it (`promise`). It does
so unless a mishap escapes from the assertion or the contract that it decides about, which then ends
the check instead (`keeps_iff`).
-/

namespace RecordSchema.Checker

/-- What is decided about documents: the sanitized record of an assertion, nothing more of a
contract, or the fault that is found. -/
def verdict (mode : Mode) (documents : Documents) : Except Fault (Option Record) :=
  match mode with
  | .contract => do
    Contract.verify documents.data documents.schema
    return none
  | .assert => do
    let table ← Table.ofValue documents.namedSchemas
    let record ← sanitize .builtin table (.document documents.schema) documents.data
    return some record

/-- The exit code and the output that a check promises: a report of valid data with code 0 for a
verdict that finds no fault, a report of the failure with code 1, and in all other cases code 2
without a report. -/
def promise (files : Files) (options : Options) : Nat × String :=
  match Documents.load files options with
  | .error _ => (2, "")
  | .ok documents =>
    match verdict options.mode documents with
    | .ok record? => (0, Json.write options.indent? (Report.valid record?).toValue ++ "\n")
    | .error (.failure failure) =>
      (1, Json.write options.indent? (Report.invalid failure).toValue ++ "\n")
    | .error _ => (2, "")

/-- A mishap escapes from what is to be decided about documents. -/
inductive Escapes (documents : Documents) : Mode → Mishap → Prop where
  | assert {table mishap} :
    Table.ofValue documents.namedSchemas = .ok table →
    Assertion.Escapes table documents.schema documents.data mishap →
    Escapes documents .assert mishap
  | contract {mishap} :
    Contract.Escapes documents.data documents.schema mishap →
    Escapes documents .contract mishap

variable {mode : Mode} {documents : Documents} {files : Files} {options : Options}

/-- A check judges as is decided, whatever it notes on the way. -/
lemma judge_fst : (judge mode documents).1 = verdict mode documents := by
  cases mode with
  | contract =>
    have simulates : Simulates ⟨[]⟩ (Contract.verifyInSession documents.data documents.schema)
        (Contract.verify documents.data documents.schema) := simulates_verify
    obtain ⟨e, _⟩ := simulates (.ofTable ⟨[]⟩) faithful_ofTable
    change Except.map _ (Session.run (.ofTable ⟨[]⟩)
      (Contract.verifyInSession documents.data documents.schema)).1 = _
    rw [e]
    change _ = Contract.verify documents.data documents.schema >>= _
    cases Contract.verify documents.data documents.schema <;> rfl
  | assert =>
    unfold judge verdict
    cases Table.ofValue documents.namedSchemas with
    | error fault => rfl
    | ok table =>
      have simulates : Simulates table
          (Session.sanitize .builtin (.document documents.schema) documents.data)
          (sanitize .builtin table (.document documents.schema) documents.data) :=
        simulates_sanitize
      obtain ⟨e, _⟩ := simulates (.ofTable table) faithful_ofTable
      change Except.map _ (Session.run (.ofTable table)
        (Session.sanitize .builtin (.document documents.schema) documents.data)).1 = _
      rw [e]
      change _ = sanitize .builtin table (.document documents.schema) documents.data >>= _
      cases sanitize .builtin table (.document documents.schema) documents.data <;> rfl

/-- A verdict never runs out of its budget. -/
lemma verdict_ne_exhausted : verdict mode documents ≠ .error .exhausted := by
  intro e
  cases mode with
  | contract =>
    obtain e | ⟨_, _, e⟩ := Assertion.bind_error_iff.1 e
    · exact Contract.verify_ne_exhausted e
    · cases e
  | assert =>
    obtain e | ⟨table, _, e⟩ := Assertion.bind_error_iff.1 e
    · obtain ⟨flaw, ef⟩ := Table.ofValue_error e
      cases ef
    · obtain e | ⟨_, _, e⟩ := Assertion.bind_error_iff.1 e
      · exact Assertion.sanitize_ne_exhausted e
      · cases e

/-- A verdict is a mishap that does not blame the schema exactly when it escapes. -/
lemma verdict_escapes_iff {mishap} :
    verdict mode documents = .error (.mishap mishap) ∧ mishap.blamesSchema = false ↔
      Escapes documents mode mishap := by
  constructor
  · rintro ⟨e, calm⟩
    cases mode with
    | contract =>
      obtain e | ⟨_, _, e⟩ := Assertion.bind_error_iff.1 e
      · exact .contract (Contract.verify_escapes_iff.1 ⟨e, calm⟩)
      · cases e
    | assert =>
      obtain e | ⟨table, et, e⟩ := Assertion.bind_error_iff.1 e
      · obtain ⟨flaw, ef⟩ := Table.ofValue_error e
        cases ef
      · obtain e | ⟨_, _, e⟩ := Assertion.bind_error_iff.1 e
        · exact .assert et (Assertion.sanitize_escapes_iff.1 ⟨e, calm⟩)
        · cases e
  · intro escapes
    cases escapes with
    | contract escapes =>
      obtain ⟨e, calm⟩ := Contract.verify_escapes_iff.2 escapes
      exact ⟨Assertion.bind_error_iff.2 (.inl e), calm⟩
    | assert et escapes =>
      obtain ⟨e, calm⟩ := Assertion.sanitize_escapes_iff.2 escapes
      refine ⟨Assertion.bind_error_iff.2 (.inr ⟨_, et, ?_⟩), calm⟩
      exact Assertion.bind_error_iff.2 (.inl e)

/-- A report that can be indented is written. -/
lemma conclude_eq {report log} (small : Report.checkIndent options.indent? = .ok ()) :
    conclude options report log =
      .ok ⟨report.exitCode, Json.write options.indent? report.toValue ++ "\n",
        log.filter (·.shownAt options.logLevel)⟩ := by
  rw [conclude, Report.write, small]
  rfl

/-- A check ends as promised. -/
def Keeps (files : Files) (options : Options) : Prop :=
  ∃ outcome, check files options = .ok outcome ∧
    (outcome.exitCode, outcome.output) = promise files options

/-- A check that cannot read its documents ends as promised. -/
lemma keeps_of_unread {fault} (el : Documents.load files options = .error fault) :
    Keeps files options := by
  refine ⟨refuse options [⟨.checks, .error, "Cannot read input: " ++ fault.message⟩], ?_, ?_⟩
  · rw [check, el]
  · rw [promise, el]
    rfl

/-- A check with a verdict ends as promised, unless it is a mishap that does not blame the
schema. -/
lemma keeps_of_verdict (small : Report.checkIndent options.indent? = .ok ())
    (el : Documents.load files options = .ok documents)
    (blames : ∀ mishap, verdict options.mode documents = .error (.mishap mishap) →
      mishap.blamesSchema = true) :
    Keeps files options := by
  unfold Keeps
  rw [check, promise, el]
  dsimp only
  rw [judge_fst]
  cases ev : verdict options.mode documents with
  | ok record? => exact ⟨_, conclude_eq small, rfl⟩
  | error fault =>
    cases fault with
    | failure failure => exact ⟨_, conclude_eq small, rfl⟩
    | schema flaw => exact ⟨_, rfl, rfl⟩
    | mishap mishap =>
      refine ⟨_, if_pos (blames mishap ev), rfl⟩
    | exhausted => exact (verdict_ne_exhausted ev).elim

/-- A mishap that escapes from its documents ends a check. -/
lemma check_escapes {mishap} (el : Documents.load files options = .ok documents)
    (escapes : Escapes documents options.mode mishap) :
    check files options = .error (.mishap mishap) := by
  obtain ⟨ev, calm⟩ := verdict_escapes_iff.2 escapes
  rw [check, el]
  dsimp only
  rw [judge_fst, ev]
  exact if_neg (by rw [blamesSchema, calm]; nofun)

/-- A check ends as promised exactly when no mishap escapes from its documents, and what ends a check
without an outcome is a mishap that escapes. -/
theorem keeps_iff (small : Report.checkIndent options.indent? = .ok ()) :
    (Keeps files options ↔ ¬∃ documents mishap, Documents.load files options = .ok documents ∧
      Escapes documents options.mode mishap) ∧
    ∀ fault, check files options = .error fault ↔
      ∃ documents mishap, fault = .mishap mishap ∧ Documents.load files options = .ok documents ∧
        Escapes documents options.mode mishap := by
  -- This decides everything else, since a mishap that escapes ends the check for certain.
  have keeps : (¬∃ documents mishap, Documents.load files options = .ok documents ∧
      Escapes documents options.mode mishap) → Keeps files options := by
    intro calm
    cases el : Documents.load files options with
    | error fault => exact keeps_of_unread el
    | ok documents =>
      apply keeps_of_verdict small el
      intro mishap ev
      by_contra blames
      have escapes := verdict_escapes_iff.1 ⟨ev, Bool.eq_false_iff.2 blames⟩
      exact calm ⟨documents, mishap, el, escapes⟩
  refine ⟨⟨?_, keeps⟩, ?_⟩
  · rintro ⟨outcome, e, _⟩ ⟨documents, mishap, el, escapes⟩
    rw [check_escapes el escapes] at e
    cases e
  · intro fault
    constructor
    · intro e
      by_cases escaping : ∃ documents mishap, Documents.load files options = .ok documents ∧
          Escapes documents options.mode mishap
      · obtain ⟨documents, mishap, el, escapes⟩ := escaping
        rw [check_escapes el escapes] at e
        cases e
        exact ⟨documents, mishap, rfl, el, escapes⟩
      · obtain ⟨outcome, ended, _⟩ := keeps escaping
        rw [e] at ended
        cases ended
    · rintro ⟨documents, mishap, rfl, el, escapes⟩
      exact check_escapes el escapes

/-- Files with data and a schema. -/
def dataAndSchema (data schema : String) : Files := fun path =>
  if path = "data.json" then .content data.toUTF8
  else if path = "schema.json" then .content schema.toUTF8
  else .missing

/-- Options of an assertion with a report on one line. -/
def onOneLine : Options where
  mode := .assert
  dataPath := "data.json"
  schemaPath := "schema.json"
  namedSchemasPath? := none
  logLevel := .warning
  indent? := none

/-- A schema that wants text to match a pattern with a count that is too large. -/
def tooManyTimes : Value :=
  .record false [(.text "b", .record false [(.text "pattern", .text "x\x7b4294967296\x7d")])]

/-- The documents of data that has to match the pattern below a property. -/
def countBelow : Documents where
  data := .record false [(.text "a", .record false [(.text "b", .text "x")])]
  schema := .record false [(.text "a", .record false [(.text "properties", tooManyTimes)])]
  namedSchemas := .null

/-- The documents of data that has to match the pattern at the top. -/
def countAbove : Documents where
  data := .record false [(.text "b", .text "x")]
  schema := tooManyTimes
  namedSchemas := .null

/-- The files of the documents with the pattern below a property. -/
def filesBelow : Files :=
  dataAndSchema "\x7b\"a\": \x7b\"b\": \"x\"\x7d\x7d"
    "\x7b\"a\": \x7b\"properties\": \x7b\"b\": \x7b\"pattern\": \"x\x7b4294967296\x7d\"\x7d\x7d\x7d\x7d"

/-- The files of the documents with the pattern at the top. -/
def filesAbove : Files :=
  dataAndSchema "\x7b\"b\": \"x\"\x7d" "\x7b\"b\": \x7b\"pattern\": \"x\x7b4294967296\x7d\"\x7d\x7d"

/-- Below a property a count that is too large is reported as a failure, so nothing escapes. -/
theorem keeps_filesBelow :
    Report.checkIndent onOneLine.indent? = .ok () ∧ Keeps filesBelow onOneLine ∧
      ¬∃ documents mishap, Documents.load filesBelow onOneLine = .ok documents ∧
        Escapes documents .assert mishap := by
  have small : Report.checkIndent onOneLine.indent? = .ok () := rfl
  have loaded : Documents.load filesBelow onOneLine = .ok countBelow := by
    cbv
  have found : verdict .assert countBelow = .error (.violated ["a"]
      (.interrupted "a" (Mishap.badPattern .countTooLarge).message)) := rfl
  have kept : Keeps filesBelow onOneLine := by
    apply keeps_of_verdict small loaded
    intro mishap e
    cases found.symm.trans e
  exact ⟨small, kept, (keeps_iff small).1.1 kept⟩

/-- At the top a count that is too large ends a check without an outcome. -/
theorem not_keeps_filesAbove :
    Report.checkIndent onOneLine.indent? = .ok () ∧ ¬Keeps filesAbove onOneLine := by
  have loaded : Documents.load filesAbove onOneLine = .ok countAbove := by
    cbv
  have found : verdict .assert countAbove = .error (.mishap (.badPattern .countTooLarge)) := rfl
  refine ⟨rfl, ?_⟩
  rintro ⟨outcome, e, _⟩
  rw [check_escapes loaded (verdict_escapes_iff.1 ⟨found, rfl⟩)] at e
  cases e

end RecordSchema.Checker
