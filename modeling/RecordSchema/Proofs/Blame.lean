import RecordSchema.Proofs.Check
import RecordSchema.Proofs.Location
import RecordSchema.Proofs.Surface

/-!
# Who is blamed for an argument

A built-in rule raises nothing but what its argument is to blame for (`Rule.Misargued`,
`Rule.builtin_error_iff`). When that is what stops a check (`Misled`), the check refuses the schema only
if the rule is stated by the schema itself: below a property it reports invalid data (`misled_exits`).
-/

namespace RecordSchema

namespace Rule

/-- What a built-in rule raises for a value because of its argument. -/
inductive Misargued : Text → Value → Value → Mishap → Prop where
  /-- The length of a value is compared with what is no number. -/
  | length {rule operator v n bound} :
    (rule, operator) ∈ [("minLength", ">="), ("maxLength", "<=")] →
    v.length? = some n →
    bound.number? = none →
    Misargued rule v bound (.unordered operator "int" bound.typeName)
  /-- A number is compared with what is no number. -/
  | bound {rule operator v bound} :
    (rule, operator) ∈ [("min", ">="), ("max", "<=")] →
    v.isNumber = true →
    bound.number? = none →
    Misargued rule v bound (.unordered operator v.typeName bound.typeName)
  /-- Candidates are to be taken from what holds none. -/
  | candidates {v allowed} :
    allowed.items? = none →
    Misargued "enum" v allowed (.notIterable allowed.typeName)
  /-- A text is to match what is no text. -/
  | notText {s argument mishap} :
    (∀ source, argument ≠ .text source) →
    patternOf argument = .error (.mishap mishap) →
    Misargued "pattern" (.text s) argument mishap
  /-- A text is to match a pattern that cannot be read. -/
  | malformed {s source cause} :
    Pattern.ofText source.toList = .error cause →
    Misargued "pattern" (.text s) (.text source) (.badPattern cause)

/-- A lower bound is a mishap when it is no number, and only then. -/
lemma atLeast_error_iff {typeName x bound fault} :
    atLeast typeName x bound = .error fault ↔
      bound.number? = none ∧ fault = .mishap (.unordered ">=" typeName bound.typeName) := by
  rw [atLeast]
  cases bound.number? <;> simp [eq_comm]

/-- An upper bound is a mishap when it is no number, and only then. -/
lemma atMost_error_iff {typeName x bound fault} :
    atMost typeName x bound = .error fault ↔
      bound.number? = none ∧ fault = .mishap (.unordered "<=" typeName bound.typeName) := by
  rw [atMost]
  cases bound.number? <;> simp [eq_comm]

/-- A pattern that an argument does not state is missing for a mishap. -/
lemma patternOf_mishap {argument fault} (e : patternOf argument = .error fault) :
    ∃ mishap, fault = .mishap mishap := by
  obtain ⟨mishap, em, _⟩ | ⟨_, cause, _, _, em⟩ := patternOf_error e
  · exact ⟨mishap, em⟩
  · exact ⟨_, em⟩

/-- What a pattern is refused for is a mishap of the rule `pattern`. -/
lemma Misargued.of_patternOf {s argument mishap}
    (e : patternOf argument = .error (.mishap mishap)) :
    Misargued "pattern" (.text s) argument mishap := by
  cases argument with
  | text source =>
    rw [patternOf] at e
    cases ec : Pattern.ofText source.toList with
    | ok => rw [ec] at e; cases e
    | error cause =>
      rw [ec] at e
      cases e
      exact .malformed ec
  | _ =>
    refine .notText ?_ e
    intro source text
    cases text

/-- A built-in rule stops a run exactly because of its argument. -/
lemma builtin_error_iff {name holds v argument fault} (eh : builtin.get? name = some holds) :
    holds v argument = .error fault ↔
      ∃ mishap, fault = .mishap mishap ∧ Misargued name v argument mishap := by
  constructor
  · intro e
    -- The rules in the order of their registration, of which three take any argument.
    obtain ⟨rfl, rfl⟩ | ⟨rfl, rfl⟩ | ⟨rfl, rfl⟩ | ⟨rfl, rfl⟩ | ⟨rfl, rfl⟩ | ⟨rfl, rfl⟩ | ⟨rfl, rfl⟩ |
      ⟨rfl, rfl⟩ | ⟨rfl, rfl⟩ := builtin_cases eh
    · cases e
    · unfold minLength at e
      split at e
      · obtain ⟨none, rfl⟩ := atLeast_error_iff.1 e
        exact ⟨_, rfl, .length (by simp) ‹_› none⟩
      · cases e
    · unfold maxLength at e
      split at e
      · obtain ⟨none, rfl⟩ := atMost_error_iff.1 e
        exact ⟨_, rfl, .length (by simp) ‹_› none⟩
      · cases e
    · cases v <;> cases e
    · cases v with
      | int n | float x =>
        obtain ⟨none, rfl⟩ := atLeast_error_iff.1 e
        exact ⟨_, rfl, .bound (v := _) (by simp) rfl none⟩
      | _ => cases e
    · cases v with
      | int n | float x =>
        obtain ⟨none, rfl⟩ := atMost_error_iff.1 e
        exact ⟨_, rfl, .bound (v := _) (by simp) rfl none⟩
      | _ => cases e
    · obtain ⟨s, rfl, ep⟩ := pattern_error e
      obtain ⟨mishap, rfl⟩ := patternOf_mishap ep
      exact ⟨mishap, rfl, .of_patternOf ep⟩
    · unfold enum at e
      split at e
      · cases e
      · cases e
        exact ⟨_, rfl, .candidates ‹_›⟩
    · cases v <;> cases e
  · rintro ⟨mishap, rfl, misargued⟩
    cases misargued with
    | length named el none =>
      simp only [List.mem_cons, Prod.mk.injEq, List.not_mem_nil, or_false] at named
      obtain ⟨rfl, rfl⟩ | ⟨rfl, rfl⟩ := named
      · cases eh
        simp only [minLength, el]
        exact atLeast_error_iff.2 ⟨none, rfl⟩
      · cases eh
        simp only [maxLength, el]
        exact atMost_error_iff.2 ⟨none, rfl⟩
    | bound named number none =>
      simp only [List.mem_cons, Prod.mk.injEq, List.not_mem_nil, or_false] at named
      obtain ⟨rfl, rfl⟩ | ⟨rfl, rfl⟩ := named
      · cases eh
        cases v with
        | int n | float x => exact atLeast_error_iff.2 ⟨none, rfl⟩
        | _ => cases number
      · cases eh
        cases v with
        | int n | float x => exact atMost_error_iff.2 ⟨none, rfl⟩
        | _ => cases number
    | candidates none =>
      cases eh
      simp only [enum, none]
    | notText _ ep =>
      cases eh
      simp only [pattern, ep]
    | malformed ec =>
      cases eh
      simp only [pattern, patternOf, ec]

end Rule

namespace Checker

open Assertion

/-- What stops a check in the end is a rule that is misargued: it is the first rule that does not hold
of the value of a property, which the run gets to through some others. -/
inductive Misled (documents : Documents) : List Property → Mishap → Prop where
  | intro {table schema record chain p mid w before rule argument after mishap} :
    Table.ofValue documents.namedSchemas = .ok table →
    Schema.compile table.resolves documents.schema = .ok schema →
    documents.data.entries? = some record →
    Reaches .builtin table schema record chain p mid →
    Transforms .builtin p mid w →
    Clears .builtin table p w →
    p.rules = before ++ (rule, argument) :: after →
    (∀ rule ∈ before, Holds Rule.builtin w rule) →
    (∃ holds, Rule.builtin.get? rule = some holds) →
    Rule.Misargued rule w argument mishap →
    Misled documents chain mishap

variable {files : Files} {options : Options} {documents : Documents}

/-- What a misargued rule raises is the verdict, as it is seen from outside of the properties. -/
lemma Misled.verdict {chain mishap} (misled : Misled documents chain mishap) :
    verdict .assert documents = .error ((Fault.mishap mishap).beneath chain) := by
  obtain ⟨et, ec, en, reaches, t, clears, stated, hold, ⟨holds, eh⟩, misargued⟩ := misled
  have raised := (Rule.builtin_error_iff eh).2 ⟨_, rfl, misargued⟩
  have walked := reaches.walk_error en (.raised (.rule t clears stated hold eh raised))
  have compiled : (Source.document documents.schema).compile _ = .ok _ := ec
  have asserted := (sanitizeWithin_eq compiled).trans (walked.budgetFor builtin_keepsDepth)
  rw [Checker.verdict, et]
  exact bind_error_iff.2 (.inr ⟨_, rfl, bind_error_iff.2 (.inl asserted)⟩)

/-- A check refuses its input: it ends with exit code 2 and writes nothing. -/
def Refuses (files : Files) (options : Options) : Prop :=
  ∃ outcome, check files options = .ok outcome ∧ outcome.exitCode = 2 ∧ outcome.output = ""

/-- A check reports a failure: it ends with exit code 1 and writes the report of invalid data. -/
def Reports (files : Files) (options : Options) (failure : Failure) : Prop :=
  ∃ outcome, check files options = .ok outcome ∧ outcome.exitCode = 1 ∧
    outcome.output = Json.write options.indent? (Report.invalid failure).toValue ++ "\n"

/-- A check that reports a failure does not refuse its input. -/
lemma Reports.not_refuses {failure} (reports : Reports files options failure) :
    ¬Refuses files options := by
  rintro ⟨outcome, e, code, _⟩
  obtain ⟨outcome', e', code', _⟩ := reports
  cases e.symm.trans e'
  cases code.symm.trans code'

/-- A failure that is the verdict about its documents is what a check reports. -/
lemma reports_of_verdict {failure} (small : Report.checkIndent options.indent? = .ok ())
    (el : Documents.load files options = .ok documents)
    (ev : verdict options.mode documents = .error (.failure failure)) :
    Reports files options failure := by
  unfold Reports
  rw [check, el]
  dsimp only
  rw [judge_fst, ev]
  exact ⟨_, conclude_eq small, rfl, rfl⟩

/-- A mishap that blames the schema makes a check refuse its input when it is the verdict. -/
lemma refuses_of_verdict {mishap : Mishap} (el : Documents.load files options = .ok documents)
    (ev : verdict options.mode documents = .error (.mishap mishap))
    (blames : mishap.blamesSchema = true) : Refuses files options := by
  unfold Refuses
  rw [check, el]
  dsimp only
  rw [judge_fst, ev]
  exact ⟨_, if_pos blames, rfl, rfl⟩

/-- A misargued rule makes a check refuse its input exactly when it is stated at the top and what it
raises blames the schema. What it raises at the top without blaming the schema ends the check without
an outcome, and below other properties it is reported as a failure of the innermost of them. -/
theorem misled_exits {chain mishap} (asserts : options.mode = .assert)
    (small : Report.checkIndent options.indent? = .ok ())
    (el : Documents.load files options = .ok documents) (misled : Misled documents chain mishap) :
    (Refuses files options ↔ chain = [] ∧ mishap.blamesSchema = true) ∧
      (chain = [] → mishap.blamesSchema = false →
        check files options = .error (.mishap mishap)) ∧
      ∀ outer q, chain = outer ++ [q] → ∃ failure, Reports files options failure ∧
        failure.message = "Validation failed for '" ++ q.name ++ "': " ++ mishap.message ∧
        failure.rule? = none ∧ failure.value = .null ∧
        failure.property? = some (Text.intercalate "." (chain.map Property.name)) := by
  have ev := misled.verdict
  rw [← asserts] at ev
  have escapes : chain = [] → mishap.blamesSchema = false →
      check files options = .error (.mishap mishap) := by
    rintro rfl calm
    exact check_escapes el (verdict_escapes_iff.1 ⟨ev, calm⟩)
  have reported : ∀ outer q, chain = outer ++ [q] → ∃ failure, Reports files options failure ∧
      failure.message = "Validation failed for '" ++ q.name ++ "': " ++ mishap.message ∧
      failure.rule? = none ∧ failure.value = .null ∧
      failure.property? = some (Text.intercalate "." (chain.map Property.name)) := by
    rintro outer q rfl
    -- The innermost property makes a failure of the mishap, which the others only locate.
    have located : (Fault.mishap mishap).beneath (outer ++ [q]) =
        .violated (outer.map Property.name ++ [q.name]) (.interrupted q.name mishap.message) := by
      rw [Fault.beneath_append]
      exact Fault.beneath_violated
    rw [located] at ev
    exact ⟨_, reports_of_verdict small el ev, rfl, rfl, rfl, property?_beneath⟩
  refine ⟨⟨?_, ?_⟩, escapes, reported⟩
  · intro refuses
    rcases List.eq_nil_or_concat' chain with rfl | ⟨outer, q, rfl⟩
    · refine ⟨rfl, ?_⟩
      by_contra calm
      obtain ⟨outcome, e, _⟩ := refuses
      rw [escapes rfl (Bool.eq_false_iff.2 calm)] at e
      cases e
    · obtain ⟨failure, reports, _⟩ := reported outer q rfl
      exact (reports.not_refuses refuses).elim
  · rintro ⟨rfl, blames⟩
    exact refuses_of_verdict el ev blames

/-- A schema that compares the length of a text with another text. -/
def lengthOfText : Value :=
  .record false [(.text "b", .record false [(.text "minLength", .text "2")])]

/-- The property of that rule. -/
def comparesLength : Property :=
  ⟨"b", false, [], .plain, [("minLength", .text "2")]⟩

/-- A property with the schema as its own. -/
def holdsText : Property :=
  ⟨"a", false, [], .inline [comparesLength], []⟩

/-- Data with a text to compare. -/
def someText : Record :=
  [(.text "b", .text "abc")]

/-- The documents that compare the length below a property. -/
def lengthBelow : Documents where
  data := .record false [(.text "a", .record false someText)]
  schema := .record false [(.text "a", .record false [(.text "properties", lengthOfText)])]
  namedSchemas := .null

/-- The files of the documents that compare the length below a property. -/
def filesOfLength : Files :=
  dataAndSchema "\x7b\"a\": \x7b\"b\": \"abc\"\x7d\x7d"
    "\x7b\"a\": \x7b\"properties\": \x7b\"b\": \x7b\"minLength\": \"2\"\x7d\x7d\x7d\x7d"

/-- The files of the example hold its documents. -/
lemma load_filesOfLength : Documents.load filesOfLength onOneLine = .ok lengthBelow := by
  cbv

/-- The property that compares a length is reached at the top. -/
lemma reaches_comparesLength :
    Reaches .builtin ⟨[]⟩ [comparesLength] someText [] comparesLength someText :=
  @Reaches.here _ _ [] comparesLength [] someText someText ⟨0, rfl⟩

/-- In the example the bound of a length below a property is no number. -/
lemma misled_lengthBelow : Misled lengthBelow [holdsText] (.unordered ">=" "int" "str") := by
  have reaches : Reaches .builtin ⟨[]⟩ [holdsText] [(.text "a", .record false someText)] [holdsText]
      comparesLength someText :=
    @Reaches.nested _ _ [] holdsText [] _ _ _ _ _ _ _ _ ⟨0, rfl⟩ ⟨_, rfl, rfl⟩ (.inline rfl rfl) rfl
      reaches_comparesLength
  have misargued : Rule.Misargued "minLength" (.text "abc") (.text "2")
      (.unordered ">=" "int" "str") :=
    .length (by simp) rfl rfl
  exact @Misled.intro _ _ _ _ _ _ _ _ [] _ _ [] _ rfl rfl rfl reaches ⟨_, rfl, rfl⟩ ⟨0, _, rfl⟩ rfl
    nofun ⟨_, rfl⟩ misargued

/-- Below a property, a length that is compared with a text is reported as a failure of the data. -/
theorem misled_exits_lengthBelow :
    onOneLine.mode = .assert ∧ Report.checkIndent onOneLine.indent? = .ok () ∧
      Documents.load filesOfLength onOneLine = .ok lengthBelow ∧
      Misled lengthBelow [holdsText] (.unordered ">=" "int" "str") ∧
      ∃ failure, Reports filesOfLength onOneLine failure ∧
        failure.message = "Validation failed for 'a': " ++
          "'>=' not supported between instances of 'int' and 'str'" ∧
        failure.property? = some "a" := by
  obtain ⟨_, _, reported⟩ := misled_exits rfl rfl load_filesOfLength misled_lengthBelow
  obtain ⟨failure, reports, em, _, _, ep⟩ := reported [] holdsText rfl
  exact ⟨rfl, rfl, load_filesOfLength, misled_lengthBelow, failure, reports, em, ep⟩

/-- A check need not refuse its input though a misargued rule is what stops it. -/
theorem not_refuses_lengthBelow :
    onOneLine.mode = .assert ∧ Documents.load filesOfLength onOneLine = .ok lengthBelow ∧
      Misled lengthBelow [holdsText] (.unordered ">=" "int" "str") ∧
      ¬Refuses filesOfLength onOneLine := by
  refine ⟨rfl, load_filesOfLength, misled_lengthBelow, ?_⟩
  have ev : verdict .assert lengthBelow = .error (.violated ["a"]
      (.interrupted "a" (Mishap.unordered ">=" "int" "str").message)) :=
    misled_lengthBelow.verdict
  have reports : Reports filesOfLength onOneLine _ :=
    reports_of_verdict rfl load_filesOfLength ev
  exact reports.not_refuses

end Checker

end RecordSchema
