import RecordSchema.Proofs.Check
import RecordSchema.Proofs.Reading
import RecordSchema.Proofs.Sections
import RecordSchema.Proofs.Storing
import RecordSchema.Proofs.Unused
import RecordSchema.Proofs.Writing

/-!
# Strict reports

Of data with finite numbers a check reports no numbers but finite ones and the not-a-number of `toInt`,
be it in a sanitized record or as the value of a failure (`reported_storable`). JSON has no form for the
latter, so a report is a document of JSON exactly when there is none in what is reported; where no
schema of the check mentions `toInt`, it always is one (`isReport_iff`).
-/

namespace RecordSchema.Checker

open Assertion Json

/-- The text at a path, if there is one, is a document of JSON whose numbers are integers or finite
binary64 numbers. -/
def IsStrict (files : Files) (path : Text) : Prop :=
  ∀ bytes s, files (Path.tidy path) = .content bytes → String.fromUTF8? bytes = some s →
    IsDocument IsFiniteNumeral s.toList

/-- An output is one document of JSON and a line feed. -/
def IsReport (output : String) : Prop :=
  ∃ text, output = text ++ "\n" ∧ IsDocument IsNumeral text.toList

/-- What a verdict about documents is reported as. -/
inductive Reported (mode : Mode) (documents : Documents) : Report → Prop where
  | valid {record?} :
    verdict mode documents = .ok record? →
    Reported mode documents (.valid record?)
  | invalid {failure} :
    verdict mode documents = .error (.failure failure) →
    Reported mode documents (.invalid failure)

/-- The documents of schemas that a verdict may go by: the schema and the named ones of an assertion, or
those of the sections of a contract. -/
inductive GoesBy (documents : Documents) : Mode → Value → Prop where
  | schema :
    GoesBy documents .assert documents.schema
  | named {table name document} :
    Table.ofValue documents.namedSchemas = .ok table →
    Record.get? table.entries name = some document →
    GoesBy documents .assert document
  | ofSection {contract name document} :
    documents.schema.entries? = some contract →
    name ∈ Contract.sections →
    Contract.present? contract name = some document →
    GoesBy documents .contract document

/-- No schema that a verdict may go by mentions `toInt`. -/
def SparesToInt (mode : Mode) (documents : Documents) : Prop :=
  ∀ document, GoesBy documents mode document →
    ¬(Source.document document).Mentions .transform "toInt"

variable {files : Files} {options : Options} {mode : Mode} {documents : Documents}
  {P : Double → Prop}

/-- What is loaded is read from a text at the path. -/
lemma load_ok {path v} (e : load files path = .ok v) :
    ∃ bytes s, files (Path.tidy path) = .content bytes ∧ String.fromUTF8? bytes = some s ∧
      read? s.toList = some v := by
  unfold load at e
  dsimp only at e
  split at e
  · cases e
  · cases e
  · rename_i bytes found
    split at e
    · cases e
    · rename_i s decoded
      split at e
      · cases e
      · rename_i read
        cases e
        exact ⟨bytes, s, found, decoded, read⟩

/-- The data of a check is what is read of its file. -/
lemma load_data (el : Documents.load files options = .ok documents) :
    load files options.dataPath = .ok documents.data := by
  unfold Documents.load at el
  cases ed : load files options.dataPath with
  | error fault =>
    rw [ed] at el
    cases el
  | ok data =>
    cases es : load files options.schemaPath with
    | error fault =>
      rw [ed, es] at el
      cases el
    | ok schema =>
      rw [ed, es] at el
      cases ep : options.namedSchemasPath? with
      | none =>
        rw [ep] at el
        cases el
        rfl
      | some path =>
        rw [ep] at el
        change (if path.isEmpty = true then Except.ok _ else load files path >>= fun _ => _) = _ at el
        split at el
        · cases el
          rfl
        · cases en : load files path with
          | error fault =>
            rw [en] at el
            cases el
          | ok namedSchemas =>
            rw [en] at el
            cases el
            rfl

/-- Data of a strict file has finite numbers only. -/
lemma IsStrict.storable (strict : IsStrict files options.dataPath)
    (el : Documents.load files options = .ok documents) :
    Storable (fun x => x.isFinite = true) documents.data := by
  obtain ⟨bytes, s, found, decoded, read⟩ := load_ok (load_data el)
  exact (strict bytes s found decoded).storable read

/-- A report that is written stands on its own before a line feed. -/
lemma conclude_ok {report log outcome} (e : conclude options report log = .ok outcome) :
    outcome.exitCode = report.exitCode ∧
      outcome.output = Json.write options.indent? report.toValue ++ "\n" := by
  unfold conclude Report.write at e
  cases ei : Report.checkIndent options.indent? with
  | error fault =>
    rw [ei] at e
    cases e
  | ok =>
    rw [ei] at e
    cases e
    exact ⟨rfl, rfl⟩

/-- A check that is not refused writes what its verdict is reported as. -/
lemma reported_of_check {outcome} (ended : check files options = .ok outcome)
    (reports : outcome.exitCode ≠ refusedCode) :
    ∃ documents report, Documents.load files options = .ok documents ∧
      Reported options.mode documents report ∧ outcome.exitCode = report.exitCode ∧
      outcome.output = Json.write options.indent? report.toValue ++ "\n" := by
  unfold check at ended
  cases el : Documents.load files options with
  | error fault =>
    rw [el] at ended
    cases ended
    exact (reports rfl).elim
  | ok documents =>
    rw [el] at ended
    dsimp only at ended
    rw [judge_fst] at ended
    cases ev : verdict options.mode documents with
    | ok record? =>
      rw [ev] at ended
      exact ⟨documents, _, rfl, .valid ev, conclude_ok ended⟩
    | error fault =>
      rw [ev] at ended
      cases fault with
      | failure failure => exact ⟨documents, _, rfl, .invalid ev, conclude_ok ended⟩
      | _ =>
        dsimp only at ended
        split at ended
        · cases ended
          exact (reports rfl).elim
        · cases ended

/-- Asserting storable data with the built-in functions is safe, if the not-a-number of `toInt` can be
stored or nothing mentions `toInt`. -/
lemma sanitize_builtin_safe {T : Table} {document v}
    (calm : P (.nan false) ∨ Unused T (.document document) .transform "toInt")
    (storable : Storable P v) :
    Safe P (fun r => Storable P (.record false r)) (sanitize .builtin T (.document document) v) := by
  rcases calm with nan | unused
  · exact sanitize_safe (builtin_keepsStorable nan) storable
  · -- Without a mention of it, `toInt` might as well change nothing.
    have same : ∀ p : Property, ¬p.Mentions .transform "toInt" →
        SameTo .builtin withoutToInt T T p := by
      intro p spared
      refine ⟨?_, fun _ _ => rfl, fun _ _ => rfl⟩
      intro other mem
      apply Registry.get?_put_of_ne
      rintro rfl
      exact spared mem
    obtain ⟨_, _, e⟩ := coincide_of_unused unused rfl same v
    rw [← e]
    exact sanitize_safe withoutToInt_keepsStorable storable

/-- A verdict about storable data is safe, if the not-a-number of `toInt` can be stored or nothing
mentions `toInt`. -/
lemma verdict_safe (calm : P (.nan false) ∨ SparesToInt mode documents)
    (storable : Storable P documents.data) :
    Safe P (fun record? => Storable P (Report.valid record?).toValue) (verdict mode documents) := by
  cases mode with
  | assert =>
    rw [verdict]
    cases et : Table.ofValue documents.namedSchemas with
    | error fault =>
      obtain ⟨flaw, rfl⟩ := Table.ofValue_error et
      trivial
    | ok table =>
      have calm := calm.imp_right fun plain =>
        Unused.mk (plain _ .schema) fun name document eg => plain document (.named et eg)
      apply (sanitize_builtin_safe calm storable).bind
      exact fun record kept => .cons .bool (.cons kept .empty)
  | contract =>
    rw [verdict]
    cases ev : Contract.verify documents.data documents.schema with
    | ok => exact .cons .bool .empty
    | error fault =>
      change Safe P _ (.error fault)
      cases Contract.verify_error_iff.1 ev with
      | notContract => trivial
      | notContext => exact .violated rfl
      -- What is under a section is asserted by its own document, as all of the data is without contract.
      | @ofSection _ record before name after _ ec er ordered _ fails =>
        cases fails with
        | missing => exact .violated rfl
        | @refused document v _ ed ev es =>
          have mem : name ∈ Contract.sections := by
            rw [ordered]
            exact List.mem_append_right _ List.mem_cons_self
          have calm := calm.imp_right fun plain =>
            Unused.mk (plain document (.ofSection ec mem ed)) Table.all_nil
          have found : Record.get? record name = some v := Contract.present?_eq_some ev
          have safe := sanitize_builtin_safe calm ((storable.entries er).get? found)
          rw [es] at safe
          exact safe.error

/-- Of storable data nothing is reported that could not be stored. -/
lemma reported_storable {report} (calm : P (.nan false) ∨ SparesToInt mode documents)
    (storable : Storable P documents.data) (reported : Reported mode documents report) :
    Storable P report.toValue := by
  have safe := verdict_safe calm storable
  cases reported with
  | valid ev =>
    rw [ev] at safe
    exact safe
  | @invalid failure ev =>
    rw [ev] at safe
    have optional : ∀ s?, Storable P (Failure.optionalText s?) := by
      intro s?
      cases s? with
      | none => exact .null
      | some s => exact .text
    have value : Storable P failure.value := safe
    have error : Storable P (.record false failure.toRecord) :=
      .cons (optional _) (.cons (optional _) (.cons .text (.cons value .empty)))
    exact .cons .bool (.cons error .empty)

/-- A line feed behind a text is no matter for what the text shows. -/
lemma mem_bare_lineFeed {v c} (storable : Storable P v) (indent? : Option Nat) (other : c ≠ '\n') :
    c ∈ bare (Json.write indent? v ++ "\n").toList ↔ c ∈ bare (Json.write indent? v).toList := by
  have shows_ : Shows (Visible (Written P)) (Json.write indent? v).toList := by
    rw [Json.write, String.toList_ofList]
    exact storable.shows 0
  rw [String.toList_append, shows_.bare_append]
  change c ∈ _ ++ ['\n'] ↔ _
  simp [other]

/-- An output is a report when what stands before its line feed is a document. -/
lemma isReport_lineFeed {text : String} :
    IsReport (text ++ "\n") ↔ IsDocument IsNumeral text.toList := by
  constructor
  · rintro ⟨other, e, document⟩
    have e := congrArg String.toList e
    rw [String.toList_append, String.toList_append] at e
    rw [List.append_cancel_right e]
    exact document
  · exact fun document => ⟨text, rfl, document⟩

/-- A report about data with finite numbers is a document of JSON exactly when the numbers in what it
reports are finite. The others are all the not-a-number of `toInt`, of which a report is free whenever
no schema mentions `toInt`; they are seen by the capital of their name, which no report shows outside of
texts otherwise. -/
theorem isReport_iff {outcome} (strict : IsStrict files options.dataPath)
    (ended : check files options = .ok outcome) (reports : outcome.exitCode ≠ refusedCode) :
    ∃ documents report, Documents.load files options = .ok documents ∧
      Reported options.mode documents report ∧ outcome.exitCode = report.exitCode ∧
      (IsReport outcome.output ↔ Storable (fun x => x.isFinite = true) report.toValue) ∧
      (IsReport outcome.output ↔ 'N' ∉ bare outcome.output.toList) ∧
      'I' ∉ bare outcome.output.toList ∧
      Storable (fun x => x.isFinite = true ∨ Value.float x = Transform.notANumber) report.toValue ∧
      (SparesToInt options.mode documents → IsReport outcome.output) := by
  obtain ⟨documents, report, el, reported, code, written⟩ := reported_of_check ended reports
  have finite := strict.storable el
  have storable : Storable (fun x => x.isFinite = true ∨ Value.float x = Transform.notANumber)
      report.toValue :=
    reported_storable (.inl (.inr rfl)) (finite.mono fun _ => .inl) reported
  obtain ⟨strict_iff, shown_iff⟩ := isDocument_write_iff storable options.indent?
  have infinite : 'I' ∉ bare (Json.write options.indent? report.toValue).toList := by
    apply storable.not_mem_bare
    rintro _ (kind | kind) negative rfl
    · cases kind
    · cases kind
  refine ⟨documents, report, el, reported, code, ?_⟩
  rw [written, isReport_lineFeed, mem_bare_lineFeed storable _ (by decide),
    mem_bare_lineFeed storable _ (by decide)]
  refine ⟨strict_iff, ?_, infinite, storable, ?_⟩
  · rw [shown_iff]
    exact and_iff_left infinite
  · intro plain
    exact strict_iff.2 (reported_storable (.inr plain) finite reported)

/-- A file with the document of a value whose numbers are integers is strict. -/
lemma IsStrict.of_write {path v} (found : files (Path.tidy path) = .content (Json.write none v).toUTF8)
    (storable : Storable (fun _ => False) v) : IsStrict files path := by
  intro bytes s found' decoded
  cases found.symm.trans found'
  have decodes : String.fromUTF8? (Json.write none v).toUTF8 = some (Json.write none v) :=
    dif_pos (Json.write none v).isValidUTF8
  cases decodes.symm.trans decoded
  exact storable.isDocument_write Decimal.isFiniteNumeral_writeInt fun _ none => none.elim

/-- A check that finds its data valid writes the report of that. -/
lemma check_of_verdict {record?} (small : Report.checkIndent options.indent? = .ok ())
    (el : Documents.load files options = .ok documents)
    (ev : verdict options.mode documents = .ok record?) :
    ∃ outcome, check files options = .ok outcome ∧ outcome.exitCode = 0 ∧
      outcome.output = Json.write options.indent? (Report.valid record?).toValue ++ "\n" := by
  rw [check, el]
  dsimp only
  rw [judge_fst, ev]
  exact ⟨_, conclude_eq small, rfl, rfl⟩

/-- The documents of data with a text that is to be an integer. -/
def integerOf (s : String) : Documents where
  data := .record false [(.text "x", .text s)]
  schema := .record false [(.text "x", .record false [(.text "transform", .list [.text "toInt"])])]
  namedSchemas := .null

/-- The files of a numeral that is to be an integer. -/
def filesOfNumeral : Files :=
  dataAndSchema "\x7b\"x\": \"7\"\x7d" "\x7b\"x\": \x7b\"transform\": [\"toInt\"]\x7d\x7d"

/-- The files of a letter that is to be an integer. -/
def filesOfLetter : Files :=
  dataAndSchema "\x7b\"x\": \"a\"\x7d" "\x7b\"x\": \x7b\"transform\": [\"toInt\"]\x7d\x7d"

/-- The integer of a numeral is reported as one, though `toInt` is mentioned. -/
theorem isReport_filesOfNumeral :
    IsStrict filesOfNumeral onOneLine.dataPath ∧
      ∃ outcome, check filesOfNumeral onOneLine = .ok outcome ∧ outcome.exitCode ≠ refusedCode ∧
        IsReport outcome.output := by
  have strict : IsStrict filesOfNumeral onOneLine.dataPath := by
    apply IsStrict.of_write (v := (integerOf "7").data) _ (.cons .text .empty)
    cbv
  have loaded : Documents.load filesOfNumeral onOneLine = .ok (integerOf "7") := by
    cbv
  have found : verdict .assert (integerOf "7") = .ok (some [(.text "x", .int 7)]) := by
    cbv
  obtain ⟨outcome, ended, code, _⟩ := check_of_verdict rfl loaded found
  have reports : outcome.exitCode ≠ refusedCode := by
    rw [code]
    decide
  obtain ⟨documents, report, el, reported, _, finite_iff, _⟩ := isReport_iff strict ended reports
  refine ⟨strict, outcome, ended, reports, finite_iff.2 ?_⟩
  cases loaded.symm.trans el
  cases reported with
  | valid ev =>
    cases found.symm.trans ev
    exact .cons .bool (.cons (.cons .int .empty) .empty)
  | invalid ev => cases found.symm.trans ev

/-- The not-a-number for a letter is reported by its name, though data and schema are strict. -/
theorem not_isReport_filesOfLetter :
    IsStrict filesOfLetter onOneLine.dataPath ∧ IsStrict filesOfLetter onOneLine.schemaPath ∧
      onOneLine.namedSchemasPath? = none ∧
      ∃ outcome, check filesOfLetter onOneLine = .ok outcome ∧ outcome.exitCode = 0 ∧
        ¬IsReport outcome.output := by
  have strict : IsStrict filesOfLetter onOneLine.dataPath := by
    apply IsStrict.of_write (v := (integerOf "a").data) _ (.cons .text .empty)
    cbv
  have strict' : IsStrict filesOfLetter onOneLine.schemaPath := by
    apply IsStrict.of_write (v := (integerOf "a").schema)
    · cbv
    · exact .cons (.cons (.list (List.forall_mem_singleton.2 .text)) .empty) .empty
  have loaded : Documents.load filesOfLetter onOneLine = .ok (integerOf "a") := by
    cbv
  have found : verdict .assert (integerOf "a") = .ok (some [(.text "x", Transform.notANumber)]) := by
    cbv
  obtain ⟨outcome, ended, code, written⟩ := check_of_verdict rfl loaded found
  refine ⟨strict, strict', rfl, outcome, ended, code, ?_⟩
  rw [written, isReport_lineFeed]
  intro document
  have storable : Storable (fun _ => True)
      (Report.valid (some [(.text "x", Transform.notANumber)])).toValue :=
    .cons .bool (.cons (.cons (.float trivial) .empty) .empty)
  have finite := (isDocument_write_iff storable onOneLine.indent?).1.1 document
  have data := finite.get? (show Record.get? _ "data" = some _ from rfl)
  have x := data.get? (show Record.get? _ "x" = some _ from rfl)
  cases x with
  | float kind => cases kind

end RecordSchema.Checker
