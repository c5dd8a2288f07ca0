import RecordSchema.Proofs.Outcome
import RecordSchema.Proofs.Row

/-!
# Names that a schema governs

A schema governs the names of its properties. A step reads and writes a record under one such name
only, so records that agree on the names take the same way through a row of properties
(`row_agree`), whatever else they hold and in whatever order. Assertions of such records fail alike,
or give records that agree again, each of them with the rest of its own input (`governed_outcome`).
-/

namespace RecordSchema

/-- The names of the properties of a schema, as it is handed to an assertion. -/
def Source.names : Source → List Text
  | .document (.record _ entries) => Schema.entryNames entries
  | .document _ => []
  | .compiled schema => schema.map Property.name

/-- Two records have the same under each of some names, or both have nothing there. -/
def Record.Agree (names : List Text) (r r' : Record) : Prop :=
  ∀ name ∈ names, Record.get? r name = Record.get? r' name

/-- A record is made of another one by changes under some names only: it has the same keys in the same
order, and the same entries under all other keys. -/
def Record.Within (names : List Text) (r result : Record) : Prop :=
  Record.keys result = Record.keys r ∧ Record.outside names result = Record.outside names r

variable {F : Functions} {T : Table}

/-- The properties of a schema have the names that the schema was handed over with. -/
lemma Source.names_eq {source : Source} {schema} (ec : source.compile T.resolves = .ok schema) :
    schema.map Property.name = source.names := by
  cases source with
  | compiled own =>
    cases ec
    rfl
  | document v =>
    obtain ⟨frozen, entries, rfl, all⟩ := Schema.compile_ok_iff.1 ec
    exact Schema.names_eq all

/-- Records that agree on names do so after one value is set in both. -/
lemma Record.Agree.set {names : List Text} {r r' : Record} (agree : Agree names r r')
    (name : Text) (v : Value) : Agree names (Record.set r name v) (Record.set r' name v) := by
  intro other mem
  by_cases same : other = name
  · rw [same, get?_set_self, get?_set_self]
  · rw [get?_set_of_ne r same, get?_set_of_ne r' same]
    exact agree other mem

namespace Assertion

variable {next : Descent} {names : List Text}

/-- A property fails alike on records that agree on its name, or makes records of them that still
agree. -/
lemma step_agree {record record' : Record} {p} (agree : Record.Agree names record record')
    (mem : p.name ∈ names) :
    Alike (Record.Agree names) (step (tableServices T) F next record p)
      (step (tableServices T) F next record' p) := by
  rw [step_eq, step_eq, ← agree p.name mem]
  cases Record.get? record p.name with
  | none =>
    dsimp only
    cases p.optional with
    | true => exact .ok agree
    | false => exact .error
  | some v =>
    dsimp only
    cases settle F T next p v with
    | error fault => exact .error
    | ok x => exact .ok (agree.set p.name x)

/-- Rows over records that agree on the names of their properties agree on the outcome. -/
lemma row_agree {properties} {record record' : Record} (agree : Record.Agree names record record')
    (inside : ∀ p ∈ properties, p.name ∈ names) :
    Alike (Record.Agree names) (List.foldlM (step (tableServices T) F next) record properties)
      (List.foldlM (step (tableServices T) F next) record' properties) := by
  induction properties generalizing record record' with
  | nil => exact .ok agree
  | cons p rest ih =>
    obtain ⟨first, others⟩ := List.forall_mem_cons.1 inside
    rw [List.foldlM_cons, List.foldlM_cons]
    apply (step_agree agree first).bind
    intro mid mid' agree
    exact ih agree others

/-- A row over properties with these names only changes what is under them. -/
lemma row_within {properties} {record last : Record}
    (e : List.foldlM (step (tableServices T) F next) record properties = .ok last)
    (inside : ∀ p ∈ properties, p.name ∈ names) : Record.Within names record last :=
  ⟨row_keys e, row_outside e inside⟩

/-- Two results agree on some names, and each is made of its own input by changes under them. -/
def Echoes (names : List Text) (record record' result result' : Record) : Prop :=
  Record.Agree names result result' ∧ Record.Within names record result ∧
    Record.Within names record' result'

/-- Within a budget, assertions of mappings that agree on the names of the schema fail alike or have
results that agree on them. -/
lemma sanitizeWithin_agree {budget source v v' record record'} (en : v.entries? = some record)
    (en' : v'.entries? = some record') (agree : Record.Agree source.names record record') :
    Alike (Echoes source.names record record') (sanitizeWithin budget F T source v)
      (sanitizeWithin budget F T source v') := by
  cases ec : source.compile T.resolves with
  | error fault =>
    rw [sanitizeWithin, sanitizeWithin, ec]
    exact .error
  | ok schema =>
    have inside : ∀ p ∈ schema, p.name ∈ source.names := by
      intro p mem
      rw [← Source.names_eq ec]
      exact List.mem_map_of_mem mem
    rw [sanitizeWithin_eq ec, sanitizeWithin_eq ec]
    cases budget with
    | zero => exact .error
    | succ budget =>
      rw [walk_succ, walk_succ, level_record en, level_record en']
      apply (row_agree agree inside).results.mono
      rintro result result' ⟨same, e, e'⟩
      exact ⟨same, row_within e inside, row_within e' inside⟩

/-- Mappings that agree on the names of a schema are asserted alike, whatever keys they have besides and
in whatever order. Within a budget, and so in outcome, assertions of both come to the same fault, or to
records that agree on the names again, each with the keys of its own input in their order and its own
entries under all other keys. -/
theorem governed_outcome {source v v' record record'} (en : v.entries? = some record)
    (en' : v'.entries? = some record') (agree : Record.Agree source.names record record') :
    (∀ budget, Alike (Echoes source.names record record') (sanitizeWithin budget F T source v)
      (sanitizeWithin budget F T source v')) ∧
    ((∃ result, Ends F T source v result) ↔ ∃ result', Ends F T source v' result') ∧
    ∀ result result', Ends F T source v result → Ends F T source v' result' →
      Alike (Echoes source.names record record') result result' := by
  have within : ∀ budget, Alike (Echoes source.names record record')
      (sanitizeWithin budget F T source v) (sanitizeWithin budget F T source v') :=
    fun _ => sanitizeWithin_agree en en' agree
  exact ⟨within, outcomes_alike within⟩

/-- A document for a name, which is trimmed, and a mark that may be absent. -/
def badge : Value :=
  .record false [
    (.text "name", .record false [(.text "transform", .list [.text "trim"]),
      (.text "type", .text "string")]),
    (.text "mark?", .record false [(.text "type", .text "number")])]

/-- A read-only record is asserted like a longer one with other keys in another order. -/
theorem governed_outcome_badge :
    let plain : Record := [(.text "name", .text " Ada ")]
    let longer : Record := [(.int 7, .null), (.text "name", .text " Ada "), (.text "rank", .int 1)]
    Record.Agree (Source.document badge).names plain longer ∧
      Alike (Echoes (Source.document badge).names plain longer)
        (sanitizeWithin 2 .builtin ⟨[]⟩ (.document badge) (.record true plain))
        (sanitizeWithin 2 .builtin ⟨[]⟩ (.document badge) (.record false longer)) ∧
      sanitizeWithin 2 .builtin ⟨[]⟩ (.document badge) (.record false longer) =
        .ok [(.int 7, .null), (.text "name", .text "Ada"), (.text "rank", .int 1)] := by
  intro plain longer
  have names : (Source.document badge).names = ["name", "mark"] := by
    cbv
  have agree : Record.Agree (Source.document badge).names plain longer := by
    rw [names]
    intro name mem
    rcases List.mem_cons.1 mem with rfl | mem
    · rfl
    · cases List.mem_singleton.1 mem
      rfl
  have alike : Alike (Echoes (Source.document badge).names plain longer)
      (sanitizeWithin 2 .builtin ⟨[]⟩ (.document badge) (.record true plain))
      (sanitizeWithin 2 .builtin ⟨[]⟩ (.document badge) (.record false longer)) :=
    (governed_outcome rfl rfl agree).1 2
  exact ⟨agree, alike, by cbv⟩

end Assertion

end RecordSchema
