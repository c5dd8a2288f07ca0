import RecordSchema.Checker.Options
import RecordSchema.Proofs.Lenient
import RecordSchema.Proofs.Record

/-!
# Changing options

Options keep their fields within what is allowed, however they are changed (`Allowed`). Assigning to them is
what is relied on of validated assignments (`validates_assign`): a change that is refused leaves all fields
alone, and another one only touches the field that it names (`get?_assign`). The value of a field, as it is
told, is read as the same value again (`assign_current`), and so is the value that the options were built
from (`assign_given`).
-/

namespace RecordSchema

namespace Field

variable {α β : Type} {fields : Record} {name : Text} {default? : Option α}
  {reader : Value → Except IssueKind α} {v : Value} {a : α}

/-- A field that is there has been read with its reader. -/
lemma reader_of_read (er : read fields name default? reader = .ok a)
    (given : Record.get? fields name = some v) : reader v = .ok a := by
  unfold read located at er
  rw [given] at er
  dsimp only at er
  cases es : reader v with
  | ok b =>
    rw [es] at er
    cases er
    rfl
  | error kind =>
    rw [es] at er
    cases er

/-- A field that is there is what its reader makes of it. -/
lemma read_of_reader (given : Record.get? fields name = some v) (er : reader v = .ok a) :
    read fields name default? reader = .ok a := by
  unfold read
  rw [given]
  dsimp only
  rw [er]
  rfl

/-- A result under a function is what the function makes of some result. -/
lemma map_eq_ok {result : Except IssueKind α} {f : α → β} {b} (e : result.map f = .ok b) :
    ∃ a, result = .ok a ∧ f a = b := by
  cases result with
  | ok a =>
    cases e
    exact ⟨a, rfl, rfl⟩
  | error kind => cases e

/-- What is refused under a function has been refused. -/
lemma map_eq_error {result : Except IssueKind α} {f : α → β} {kind}
    (e : result.map f = .error kind) : result = .error kind := by
  cases result with
  | ok a => cases e
  | error kind => exact congrArg Except.error (Except.error.inj e)

/-- Without unexpected fields, all names are among the expected ones. -/
lemma mem_of_unexpected {expected : List Text} (none : unexpected expected fields = [])
    (given : Record.get? fields name = some v) : name ∈ expected := by
  have known := List.filter_eq_nil_iff.1 (List.map_eq_nil_iff.1 none) _ (Record.mem_of_get? given)
  simp only [Bool.not_eq_true', Bool.not_eq_false, List.any_eq_true] at known
  obtain ⟨other, mem, same⟩ := known
  cases Value.isText_iff.1 same
  exact mem

end Field

namespace Checker.Options

variable {fields : Record} {options changed : Options} {name other : Text} {v : Value}

/-- Options are built when every field can be read and no other one is there. -/
lemma ofFields_ok (built : ofFields fields = .ok options) :
    Field.read fields "mode" (some .assert) readMode = .ok options.mode ∧
      Field.read fields "data_path" none Field.text = .ok options.dataPath ∧
      Field.read fields "schema_path" none Field.text = .ok options.schemaPath ∧
      Field.read fields "named_schemas_path" (some none) readOptionalText =
        .ok options.namedSchemasPath? ∧
      Field.read fields "log_level" (some .warning) readLevel = .ok options.logLevel ∧
      Field.read fields "indent" (some (some 2)) Indent.ofValue = .ok options.indent? ∧
      Field.unexpected fieldNames fields = [] := by
  unfold ofFields at built
  dsimp only at built
  split at built
  · cases built
    exact ⟨‹_›, ‹_›, ‹_›, ‹_›, ‹_›, ‹_›, ‹_›⟩
  · cases built

/-- Options are assigned to as it is relied on. -/
theorem validates_assign : ValidatesAssignment assign where
  accepted options name v w e := by
    unfold readField at e
    split at e
    -- A name that is no field has no reader.
    case h_7 => cases e
    all_goals
      obtain ⟨a, er, rfl⟩ := Field.map_eq_ok e
      simp only [assign, er]
      exact ⟨_, rfl, rfl⟩
  refused options name v kind mem e := by
    simp only [fieldNames, List.mem_cons, List.not_mem_nil, or_false] at mem
    obtain rfl | rfl | rfl | rfl | rfl | rfl := mem
    all_goals
      have er := Field.map_eq_error e
      simp only [assign, er]
      rfl
  beside options name v marked := by
    unfold assign
    split
    case h_7 =>
      rw [if_pos marked]
      rfl
    all_goals exact absurd marked (by decide)
  unknown options name v other unmarked := by
    unfold assign
    split
    case h_7 =>
      rw [if_neg (Bool.eq_false_iff.1 unmarked)]
      rfl
    all_goals exact (other (by simp [fieldNames])).elim

/-- Only a field that options have can be assigned to, or an attribute beside the fields, and then the
fields stay as they are. -/
lemma assign_cases (accepted : options.assign name v = .ok changed) :
    name ∈ fieldNames ∨ isAttribute name = true ∧ changed = options := by
  by_cases mem : name ∈ fieldNames
  · exact .inl mem
  · cases beside : isAttribute name with
    | true => exact .inr ⟨rfl, Except.ok.inj (accepted.symm.trans (validates_assign.beside _ _ v beside))⟩
    | false => cases accepted.symm.trans (validates_assign.unknown _ _ v mem beside)

/-- The value that a field was built from is accepted for it, and changes nothing. -/
lemma assign_given (built : ofFields fields = .ok options)
    (given : Record.get? fields name = some v) : options.assign name v = .ok options := by
  obtain ⟨mode, dataPath, schemaPath, namedSchemasPath, logLevel, indent, none⟩ := ofFields_ok built
  have mem := Field.mem_of_unexpected none given
  simp only [fieldNames, List.mem_cons, List.not_mem_nil, or_false] at mem
  obtain rfl | rfl | rfl | rfl | rfl | rfl := mem
  · simp only [assign, Field.reader_of_read mode given]
    rfl
  · simp only [assign, Field.reader_of_read dataPath given]
    rfl
  · simp only [assign, Field.reader_of_read schemaPath given]
    rfl
  · simp only [assign, Field.reader_of_read namedSchemasPath given]
    rfl
  · simp only [assign, Field.reader_of_read logLevel given]
    rfl
  · simp only [assign, Field.reader_of_read indent given]
    rfl

/-- The names of modes are in lower case, and without blanks. -/
lemma trim_lower_name (mode : Mode) :
    Text.trim (Text.lower mode.name.toList) = mode.name.toList := by
  cases mode <;> decide +kernel

/-- The names of levels are in upper case, and without blanks. -/
lemma trim_upper_name (level : Level) :
    Text.trim (Text.upper level.name.toList) = level.name.toList := by
  cases level <;> decide +kernel

/-- The name of a mode is read as the mode. -/
lemma readMode_name (mode : Mode) : readMode (.text mode.name) = .ok mode := by
  unfold readMode
  dsimp only
  rw [trim_lower_name, Text.ofList_toList]
  cases mode <;> rfl

/-- The name of a level is read as the level. -/
lemma readLevel_name (level : Level) : readLevel (.text level.name) = .ok level := by
  unfold readLevel
  dsimp only
  rw [trim_upper_name, Text.ofList_toList]
  cases level <;> rfl

/-- An optional text is read as it is told. -/
lemma readOptionalText_optionalText (text? : Option Text) :
    readOptionalText (Failure.optionalText text?) = .ok text? := by
  cases text? <;> rfl

/-- A natural number is read as the indentation that it is. -/
lemma ofValue_int (n : Nat) : Indent.ofValue (.int n) = .ok (some n) := by
  unfold Indent.ofValue
  dsimp only
  rw [Indent.lenient_integerOf.int]
  dsimp only
  rw [if_neg (by omega), Int.toNat_natCast]

/-- Options can be built again from what they tell of their fields. -/
lemma ofFields_toRecord : ofFields options.toRecord = .ok options := by
  have mode : Field.read options.toRecord "mode" (some .assert) readMode = .ok options.mode :=
    Field.read_of_reader rfl (readMode_name _)
  have dataPath : Field.read options.toRecord "data_path" none Field.text = .ok options.dataPath :=
    Field.read_of_reader rfl rfl
  have schemaPath :
      Field.read options.toRecord "schema_path" none Field.text = .ok options.schemaPath :=
    Field.read_of_reader rfl rfl
  have namedSchemasPath :
      Field.read options.toRecord "named_schemas_path" (some none) readOptionalText =
        .ok options.namedSchemasPath? :=
    Field.read_of_reader rfl (readOptionalText_optionalText _)
  have logLevel :
      Field.read options.toRecord "log_level" (some .warning) readLevel = .ok options.logLevel :=
    Field.read_of_reader rfl (readLevel_name _)
  have indent :
      Field.read options.toRecord "indent" (some (some 2)) Indent.ofValue = .ok options.indent? := by
    refine Field.read_of_reader rfl ?_
    cases options.indent? with
    | none => rfl
    | some n => exact ofValue_int n
  have none : Field.unexpected fieldNames options.toRecord = [] :=
    rfl
  rw [ofFields, mode, dataPath, schemaPath, namedSchemasPath, logLevel, indent, none]

/-- The value that a field has is accepted for it, and changes nothing. -/
lemma assign_current (current : Record.get? options.toRecord name = some v) :
    options.assign name v = .ok options :=
  assign_given ofFields_toRecord current

/-- A change that is accepted sets one field, and no more, or none at all. -/
lemma toRecord_assign (accepted : options.assign name v = .ok changed) :
    (∃ w, changed.toRecord = Record.set options.toRecord name w) ∨ changed = options := by
  obtain mem | ⟨_, same⟩ := assign_cases accepted
  · cases er : readField name v with
    | ok w =>
      obtain ⟨_, accepted', told⟩ := validates_assign.accepted options name v w er
      cases accepted.symm.trans accepted'
      exact .inl ⟨w, told⟩
    | error kind => cases accepted.symm.trans (validates_assign.refused _ _ _ _ mem er)
  · exact .inr same

/-- A change leaves all other fields alone. -/
lemma get?_assign (accepted : options.assign name v = .ok changed) (ne : other ≠ name) :
    Record.get? changed.toRecord other = Record.get? options.toRecord other := by
  obtain ⟨w, e⟩ | rfl := toRecord_assign accepted
  · rw [e, Record.get?_set_of_ne _ ne]
  · rfl

/-- What an attempt at a change comes to: it is refused and nothing changes, or the field that it names is
set. -/
lemma attempt_cases (options : Options) (name : Text) (v : Value) :
    (∃ issue, options.assign name v = .error issue ∧ options.attempt name v = options) ∨
      ∃ changed, options.assign name v = .ok changed ∧ options.attempt name v = changed := by
  unfold attempt
  cases options.assign name v with
  | ok changed => exact .inr ⟨changed, rfl, rfl⟩
  | error issue => exact .inl ⟨issue, rfl, rfl⟩

/-- An attempt at a change leaves all other fields alone. -/
lemma get?_attempt (ne : other ≠ name) :
    Record.get? (options.attempt name v).toRecord other = Record.get? options.toRecord other := by
  obtain ⟨issue, _, e⟩ | ⟨changed, accepted, e⟩ := attempt_cases options name v
  · rw [e]
  · rw [e, get?_assign accepted ne]

/-- The options after changes one after another, each of which may be refused. -/
def attemptAll (options : Options) : List (Text × Value) → Options
  | [] => options
  | (name, v) :: rest => (options.attempt name v).attemptAll rest

/-- A field that no change names keeps its value. -/
lemma get?_attemptAll {changes : List (Text × Value)} (free : name ∉ changes.map (·.1)) :
    Record.get? (options.attemptAll changes).toRecord name = Record.get? options.toRecord name := by
  induction changes generalizing options with
  | nil => rfl
  | cons change rest ih =>
    obtain ⟨ne, free⟩ := List.ne_and_not_mem_of_not_mem_cons free
    exact (ih free).trans (get?_attempt ne)

/-- What the fields may be, as they are told. -/
structure Allowed (fields : Record) : Prop where
  names : Record.keys fields = fieldNames.map .text
  mode : ∃ name ∈ (["assert", "contract"] : List Text), Record.get? fields "mode" = some (.text name)
  dataPath : ∃ path, Record.get? fields "data_path" = some (.text path)
  schemaPath : ∃ path, Record.get? fields "schema_path" = some (.text path)
  namedSchemasPath : Record.get? fields "named_schemas_path" = some .null ∨
    ∃ path, Record.get? fields "named_schemas_path" = some (.text path)
  logLevel : ∃ name ∈ (["DEBUG", "INFO", "WARNING", "ERROR", "CRITICAL"] : List Text),
    Record.get? fields "log_level" = some (.text name)
  indent : Record.get? fields "indent" = some .null ∨
    ∃ n : Int, 0 ≤ n ∧ Record.get? fields "indent" = some (.int n)

/-- What options tell of their fields is allowed. -/
lemma allowed_toRecord (options : Options) : Allowed options.toRecord where
  names := rfl
  mode := by
    refine ⟨_, ?_, rfl⟩
    cases options.mode <;> decide
  dataPath := ⟨_, rfl⟩
  schemaPath := ⟨_, rfl⟩
  namedSchemasPath := by
    cases e : options.namedSchemasPath? with
    | none => exact .inl (congrArg (fun text? => some (Failure.optionalText text?)) e)
    | some path => exact .inr ⟨path, congrArg (fun text? => some (Failure.optionalText text?)) e⟩
  logLevel := by
    refine ⟨_, ?_, rfl⟩
    cases options.logLevel <;> decide
  indent := by
    unfold toRecord
    cases options.indent? with
    | none => exact .inl rfl
    | some n => exact .inr ⟨n, Int.natCast_nonneg n, rfl⟩

/-- Options stay within what is allowed from the time they are built, whatever is assigned to them: a change
that is refused leaves every field as it is, another one touches no field but its own, or none for an attribute
beside the fields, and a field that is
assigned the value that it has, or the one that it was built from, stays as it is. -/
theorem stays_allowed (built : ofFields fields = .ok options) :
    (∀ name v, Record.get? fields name = some v → options.assign name v = .ok options) ∧
      ∀ changes, ∃ reached, options.attemptAll changes = reached ∧ Allowed reached.toRecord ∧
        (∀ name ∉ changes.map (·.1),
          Record.get? reached.toRecord name = Record.get? options.toRecord name) ∧
        (∀ name v,
          (∃ issue, reached.assign name v = .error issue ∧ reached.attempt name v = reached) ∨
            ∃ changed, reached.assign name v = .ok changed ∧ reached.attempt name v = changed ∧
              (name ∈ fieldNames ∨ isAttribute name = true ∧ changed = reached) ∧
              ∀ other, other ≠ name →
                Record.get? changed.toRecord other = Record.get? reached.toRecord other) ∧
        ∀ name v, Record.get? reached.toRecord name = some v →
          reached.assign name v = .ok reached := by
  refine ⟨fun _ _ => assign_given built, fun changes => ⟨_, rfl, allowed_toRecord _, ?_, ?_, ?_⟩⟩
  · intro name free
    exact get?_attemptAll free
  · intro name v
    obtain refused | ⟨changed, accepted, e⟩ := attempt_cases (options.attemptAll changes) name v
    · exact .inl refused
    · exact .inr ⟨changed, accepted, e, assign_cases accepted, fun _ => get?_assign accepted⟩
  · exact fun _ _ => assign_current

/-- Fields with a mode that is not written as it is told. -/
def spacedMode : Record :=
  [(.text "data_path", .text "d"), (.text "schema_path", .text "s"), (.text "mode", .text " Contract ")]

/-- The options of those fields. -/
def ofSpacedMode : Options :=
  ⟨.contract, "d", "s", none, .warning, some 2⟩

/-- Changes of which only the second and the last one are accepted. -/
def mixedChanges : List (Text × Value) :=
  [("mode", .text "bad"), ("indent", .text "007"), ("extra", .int 1), ("indent", .int (-1)),
    ("log_level", .text " info")]

/-- Options with some changes, some of which are refused. -/
theorem stays_allowed_spacedMode :
    ofFields spacedMode = .ok ofSpacedMode ∧
      ofSpacedMode.assign "mode" (.text " Contract ") = .ok ofSpacedMode ∧
      ofSpacedMode.attemptAll mixedChanges = ⟨.contract, "d", "s", none, .info, some 7⟩ ∧
      Allowed (ofSpacedMode.attemptAll mixedChanges).toRecord ∧
      (ofSpacedMode.attemptAll mixedChanges).assign "indent" (.int 7) =
        .ok (ofSpacedMode.attemptAll mixedChanges) := by
  have built : ofFields spacedMode = .ok ofSpacedMode := by
    cbv
  have changed : ofSpacedMode.attemptAll mixedChanges =
      ⟨.contract, "d", "s", none, .info, some 7⟩ := by
    decide +kernel
  obtain ⟨given, runs⟩ := stays_allowed built
  obtain ⟨reached, rfl, allowed, _, _, current⟩ := runs mixedChanges
  refine ⟨built, given "mode" _ rfl, changed, allowed, current "indent" _ ?_⟩
  rw [changed]
  rfl

end Checker.Options
end RecordSchema
