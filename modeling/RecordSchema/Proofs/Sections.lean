import RecordSchema.Proofs.Depth
import RecordSchema.Proofs.Escape
import RecordSchema.Proofs.Governed
import RecordSchema.Proofs.Malformed

/-!
# Contracts as schemas

What a contract demands of the sections of a context can be written as one schema, with a property for
each section that has the document of the section as its inner document (`asDocument`). Verifying the
context and asserting it against this schema go through the sections in the same order and come to the
same at each of them (`Demanded.settles`, `Demanded.fails`), so both pass or both fail at the same
section, for faults that mirror each other (`verify_iff_sanitize`).
-/

namespace RecordSchema.Contract

open Assertion

/-- What a contract demands: its sections with their documents, in the order in which they are looked
at. -/
def demands (contract : Record) : List (Text × Value) :=
  sections.filterMap fun name => (present? contract name).map fun document => (name, document)

/-- A contract as one document, which has a rule set with an inner document for each section. -/
def asDocument (contract : Record) : Value :=
  .record false ((demands contract).map fun (name, document) =>
    (.text name, .record false [(.text "properties", document)]))

/-- The sections of a contract have well-formed documents, which cannot refer to named schemas. -/
def Sound (contract : Record) : Prop :=
  ∀ name document, present? contract name = some document → name ∈ sections →
    WellFormed (Table.contains ⟨[]⟩) document

/-- A section that a contract demands compiles to a property. -/
inductive Demanded (contract : Record) : Text × Value → Property → Prop where
  | intro {name document inner} :
    name ∈ sections →
    present? contract name = some document →
    Schema.compile (.total (Table.contains ⟨[]⟩)) document = .ok inner →
    Demanded contract (name, document) ⟨name, false, [], .inline inner, []⟩

/-- How the fault of asserting a context mirrors that of verifying it, by what the context holds in the
section: both miss a section that is absent; a section that is nothing is missing to one and no mapping
to the other; a section that is no mapping is none to both; and a fault inside a section is seen from
outside of it. -/
inductive Mirrors (name : Text) : Option Value → Fault → Fault → Prop where
  | absent :
    Mirrors name none (.violated [name] (.missingSection name)) (.violated [name] (.missing name))
  | null :
    Mirrors name (some .null) (.violated [name] (.missingSection name))
      (.violated [name] (.notObject name))
  | notMapping {v} :
    v.entries? = none →
    Mirrors name (some v) (.violated [] .notRecord) (.violated [name] (.notObject name))
  | inside {v record fault} :
    v.entries? = some record →
    Mirrors name (some v) fault (fault.within name)

/-- A failure says that a name is required. -/
def Requires (name : Text) (fault : Fault) : Prop :=
  ∃ failure, fault = .failure failure ∧ failure.property? = some name ∧
    failure.rule? = some "required"

variable {contract context : Record}

/-- A section that is absent is required, whichever way the context is looked at. -/
lemma Mirrors.requires {name fault fault'} (mirrors : Mirrors name none fault fault') :
    Requires name fault ∧ Requires name fault' := by
  cases mirrors
  exact ⟨⟨_, rfl, by simp [Failure.property?], rfl⟩, ⟨_, rfl, by simp [Failure.property?], rfl⟩⟩

/-- The fault inside a section that is a mapping is seen from outside of it. -/
lemma Mirrors.of_mapping {name v record fault fault'}
    (mirrors : Mirrors name (some v) fault fault') (en : v.entries? = some record) :
    fault' = fault.within name := by
  cases mirrors with
  | null => cases en
  | notMapping en' => cases en'.symm.trans en
  | inside => rfl

/-- A section that is present is found. -/
lemma present?_eq_some {entries : Record} {name v} (e : present? entries name = some v) :
    Record.get? entries name = some v := by
  unfold present? at e
  split at e
  · cases e
  · exact e

/-- A section that is not present is missing or nothing. -/
lemma present?_eq_none {entries : Record} {name} (e : present? entries name = none) :
    Record.get? entries name = none ∨ Record.get? entries name = some .null := by
  unfold present? at e
  split at e
  · exact .inr ‹_›
  · exact .inl e

/-- Presence only depends on what is under the name. -/
lemma present?_congr {entries entries' : Record} {name}
    (e : Record.get? entries name = Record.get? entries' name) :
    present? entries name = present? entries' name := by
  rw [present?, present?, e]

/-- No name of a section is marked as optional. -/
lemma splitKey_section {name} (mem : name ∈ sections) : splitKey name = (name, false) := by
  simp only [sections, List.mem_cons, List.not_mem_nil, or_false] at mem
  rcases mem with rfl | rfl | rfl <;> rfl

/-- What is demanded is a section of the contract with its document. -/
lemma mem_demands {name document} (mem : (name, document) ∈ demands contract) :
    name ∈ sections ∧ present? contract name = some document := by
  obtain ⟨_, listed, e⟩ := List.mem_filterMap.1 mem
  obtain ⟨_, ed, e⟩ := Option.map_eq_some_iff.1 e
  cases e
  exact ⟨listed, ed⟩

/-- A demand compiles to its property. -/
lemma Demanded.compiles {demand p} (d : Demanded contract demand p) :
    Schema.EntryCompiles (Table.contains ⟨[]⟩)
      (.text demand.1, .record false [(.text "properties", demand.2)]) p := by
  obtain @⟨name, document, inner, listed, ed, ec⟩ := d
  have stated : RuleSet.inner? [(.text "properties", document)] = some document := by
    obtain ⟨frozen, entries, rfl, _⟩ := Schema.compile_ok_iff.1 ec
    rfl
  have texts : RuleSet.KeysText [(.text "properties", document)] := by
    simp [RuleSet.KeysText]
  have names : RuleSet.NamesTransforms [(.text "properties", document)] := by
    intro v e
    cases e
  have c : Schema.CompilesTo (Table.contains ⟨[]⟩) name [(.text "properties", document)] _ :=
    .inline names texts rfl stated ec
  rw [splitKey_section listed] at c
  exact .intro c

/-- A sound contract compiles to the properties of its sections. -/
lemma asDocument_compile (sound : Sound contract) :
    ∃ schema, Schema.compile (.total (Table.contains ⟨[]⟩)) (asDocument contract) = .ok schema ∧
      List.Forall₂ (Demanded contract) (demands contract) schema := by
  have each : ∀ demand ∈ demands contract, ∃ p, Demanded contract demand p := by
    rintro ⟨name, document⟩ mem
    obtain ⟨listed, ed⟩ := mem_demands mem
    obtain ⟨inner, ec⟩ := (sound name document ed listed).compile
    exact ⟨_, .intro listed ed ec⟩
  obtain ⟨schema, all⟩ := exists_forall₂ each
  refine ⟨schema, Schema.compile_ok_iff.2 ⟨_, _, rfl, ?_⟩, all⟩
  rw [List.forall₂_map_left_iff]
  exact all.imp fun demand p d => d.compiles

section Budget

variable {budget : Nat} {demand : Text × Value} {p : Property}

/-- Below a property of a contract, a section is asserted as on its own. -/
lemma walk_eq_sanitize {document inner v}
    (ec : Schema.compile (.total (Table.contains ⟨[]⟩)) document = .ok inner)
    (deep : v.depth < budget) :
    walk (tableServices ⟨[]⟩) .builtin budget (some inner) v =
      sanitize .builtin ⟨[]⟩ (.document document) v := by
  have compiled : (Source.document document).compile (Table.resolves ⟨[]⟩) = .ok inner := ec
  rw [← sanitizeWithin_eq_sanitize builtin_keepsDepth deep, sanitizeWithin_eq compiled]

/-- A demanded property settles a value by asserting it against the document of its section. -/
lemma Demanded.settle_eq {name document v} (d : Demanded contract (name, document) p)
    (deep : v.depth < budget) :
    settle .builtin ⟨[]⟩ (walk (tableServices ⟨[]⟩) .builtin budget) p v =
      match v.entries? with
      | none => .error (.violated [name] (.notObject name))
      | some _ => enclose name (sanitize .builtin ⟨[]⟩ (.document document) v) := by
  obtain ⟨listed, ed, ec⟩ := d
  rw [settle, Transform.applyAll]
  change (descend (tableServices ⟨[]⟩) _ _ v >>= _) = _
  rw [descend_inline rfl, walk_eq_sanitize ec deep]
  cases v.entries? with
  | none => rfl
  | some entries =>
    dsimp only
    cases enclose name (sanitize .builtin ⟨[]⟩ (.document document) v) <;> rfl

variable (deep : Value.entriesDepth context < budget)

include deep

/-- The property of a section that is satisfied settles what the context holds there. -/
lemma Demanded.settles (d : Demanded contract demand p)
    (satisfied : Satisfied contract context demand.1) :
    ∃ new, Settles .builtin ⟨[]⟩ (walk (tableServices ⟨[]⟩) .builtin budget) p
      (Record.get? context p.name) new := by
  obtain ⟨name, document⟩ := demand
  have named : p.name = name := by cases d; rfl
  have demanded : present? contract name = some document := by cases d; assumption
  obtain ⟨v, record, ev, es⟩ := satisfied document demanded
  have held := present?_eq_some ev
  have settled := d.settle_eq (Nat.lt_of_le_of_lt (Value.depth_le_of_get? held) deep)
  obtain ⟨entries, en⟩ : ∃ entries, v.entries? = some entries := by
    cases v with
    | record frozen entries => exact ⟨entries, rfl⟩
    | _ =>
      obtain ⟨schema, _, ew⟩ := sanitizeWithin_ok_iff.1 es
      cases ew
  rw [en, es] at settled
  rw [named, held]
  exact ⟨_, .present settled⟩

/-- The property of a section that fails does so too, on every record that holds the same there. -/
lemma Demanded.fails {fault} (d : Demanded contract demand p)
    (fails : SectionFails contract context demand.1 fault) :
    ∃ fault', Mirrors demand.1 (Record.get? context demand.1) fault fault' ∧
      ∀ mid, Record.get? mid p.name = Record.get? context p.name →
        step (tableServices ⟨[]⟩) .builtin (walk (tableServices ⟨[]⟩) .builtin budget) mid p =
          .error fault' := by
  obtain ⟨name, document⟩ := demand
  have named : p.name = name := by cases d; rfl
  have required : p.optional = false := by cases d; rfl
  have demanded : present? contract name = some document := by cases d; assumption
  have held : ∀ {v}, Record.get? context name = some v → v.depth < budget :=
    fun eg => Nat.lt_of_le_of_lt (Value.depth_le_of_get? eg) deep
  rw [named]
  cases fails with
  | missing ed ev =>
    obtain eg | eg := present?_eq_none ev
    · rw [eg]
      refine ⟨_, .absent, ?_⟩
      intro mid same
      rw [step_eq, named, same]
      exact if_neg (by rw [required]; exact Bool.false_ne_true)
    · have settled := d.settle_eq (held eg)
      rw [eg]
      refine ⟨_, .null, ?_⟩
      intro mid same
      rw [step_eq, named, same]
      dsimp only
      rw [settled]
      rfl
  | @refused document' v fault ed ev es =>
    cases demanded.symm.trans ed
    have eg := present?_eq_some ev
    have settled := d.settle_eq (held eg)
    rw [es] at settled
    rw [eg]
    cases en : v.entries? with
    | none =>
      rw [en] at settled
      -- Whatever is no mapping is refused as such, since the document of the section compiles.
      obtain rfl : fault = .violated [] .notRecord := by
        obtain ⟨_, _, ec⟩ := d
        have compiled : (Source.document document).compile (Table.resolves ⟨[]⟩) = .ok _ := ec
        rw [sanitize, sanitizeWithin_eq compiled, budgetFor, headroom, walk_succ,
          level_notRecord en] at es
        cases es
        rfl
      refine ⟨_, .notMapping en, ?_⟩
      intro mid same
      rw [step_eq, named, same]
      dsimp only
      rw [settled]
      rfl
    | some record =>
      rw [en] at settled
      refine ⟨_, .inside en, ?_⟩
      intro mid same
      rw [step_eq, named, same]
      dsimp only
      rw [settled]
      rfl

end Budget

/-- A list that is related to a longer one pointwise comes apart where that does. -/
lemma forall₂_split {α β : Type} {R : α → β → Prop} {before x after ys}
    (all : List.Forall₂ R (before ++ x :: after) ys) :
    ∃ first y last, ys = first ++ y :: last ∧ List.Forall₂ R before first ∧ R x y := by
  induction before generalizing ys with
  | nil =>
    cases all with
    | cons rel rest => exact ⟨[], _, _, rfl, .nil, rel⟩
  | cons a before ih =>
    cases all with
    | cons rel rest =>
      obtain ⟨first, y, last, rfl, others, here⟩ := ih rest
      exact ⟨_ :: first, y, last, rfl, .cons rel others, here⟩

/-- The names of demands are sections, in order. -/
lemma demands_names (contract : Record) :
    ((demands contract).map Prod.fst).Sublist sections := by
  unfold demands
  generalize sections = names
  induction names with
  | nil => exact .slnil
  | cons name rest ih =>
    rw [List.filterMap_cons]
    cases present? contract name with
    | none => exact ih.cons name
    | some document => exact ih.cons_cons name

/-- The properties of a contract have the names of its sections. -/
lemma Demanded.names {demands schema} (all : List.Forall₂ (Demanded contract) demands schema) :
    schema.map Property.name = demands.map Prod.fst := by
  induction all with
  | nil => rfl
  | cons d _ ih =>
    cases d
    rw [List.map_cons, List.map_cons, ih]

/-- The names of demanded properties are distinct. -/
lemma Demanded.distinct {schema}
    (all : List.Forall₂ (Demanded contract) (demands contract) schema) :
    (schema.map Property.name).Nodup := by
  rw [Demanded.names all]
  exact (demands_names contract).nodup (by decide)

/-- A context that satisfies every section of a sound contract is accepted as a record. -/
lemma sanitize_of_satisfied {frozen} (sound : Sound contract)
    (satisfied : ∀ name ∈ sections, Satisfied contract context name) :
    ∃ result, sanitize .builtin ⟨[]⟩ (.document (asDocument contract)) (.record frozen context) =
      .ok result := by
  obtain ⟨schema, ec, all⟩ := asDocument_compile sound
  have compiled : (Source.document (asDocument contract)).compile (Table.resolves ⟨[]⟩) =
      .ok schema := ec
  have deep : Value.entriesDepth context < Value.entriesDepth context + 1 + 1 + 999 := by omega
  have each : ∀ p ∈ schema, ∃ new, Settles .builtin ⟨[]⟩
      (walk (tableServices ⟨[]⟩) .builtin (Value.entriesDepth context + 1 + 1 + 999)) p
      (Record.get? context p.name) new := by
    intro p mem
    obtain ⟨⟨name, document⟩, around, d⟩ := exists_left_of_mem all mem
    exact d.settles deep (satisfied name (mem_demands around).1)
  rw [sanitize, sanitizeWithin_eq compiled]
  exact row_exists (Demanded.distinct all) each

/-- Where verifying a context fails at a section, asserting it as a record fails at the property of the
section, those before it being settled. -/
lemma sanitize_of_fails {frozen before name after fault} (sound : Sound contract)
    (ordered : sections = before ++ name :: after)
    (satisfied : ∀ name ∈ before, Satisfied contract context name)
    (fails : SectionFails contract context name fault) :
    ∃ fault', Mirrors name (Record.get? context name) fault fault' ∧
      sanitize .builtin ⟨[]⟩ (.document (asDocument contract)) (.record frozen context) =
        .error fault' := by
  obtain ⟨schema, ec, all⟩ := asDocument_compile sound
  have compiled : (Source.document (asDocument contract)).compile (Table.resolves ⟨[]⟩) =
      .ok schema := ec
  obtain ⟨document, ed⟩ : ∃ document, present? contract name = some document := by
    cases fails with
    | missing ed => exact ⟨_, ed⟩
    | refused ed => exact ⟨_, ed⟩
  have distinct := Demanded.distinct all
  rw [demands, ordered, List.filterMap_append, List.filterMap_cons, ed] at all
  obtain ⟨first, p, last, rfl, around, d⟩ := forall₂_split all
  have deep : Value.entriesDepth context < Value.entriesDepth context + 1 + 1 + 999 := by omega
  obtain ⟨fault', mirrors, stops⟩ := d.fails deep fails
  refine ⟨fault', mirrors, ?_⟩
  rw [List.map_append, List.map_cons] at distinct
  -- The sections before it are satisfied, so the run comes as far as the one that fails.
  have each : ∀ q ∈ first, ∃ new, Settles .builtin ⟨[]⟩
      (walk (tableServices ⟨[]⟩) .builtin (Value.entriesDepth context + 1 + 1 + 999)) q
      (Record.get? context q.name) new := by
    intro q mem
    obtain ⟨demand, around, d⟩ := exists_left_of_mem around mem
    obtain ⟨other, listed, e⟩ := List.mem_filterMap.1 around
    obtain ⟨_, _, rfl⟩ := Option.map_eq_some_iff.1 e
    exact d.settles deep (satisfied other listed)
  obtain ⟨mid, em⟩ := row_exists (List.nodup_append.1 distinct).1 each
  have out : p.name ∉ first.map Property.name :=
    fun mem => (List.nodup_append.1 distinct).2.2 _ mem _ List.mem_cons_self rfl
  rw [sanitize, sanitizeWithin_eq compiled]
  exact foldlM_fails em (stops mid (row_get? em out))

/-- A sound contract does not end with the fault of a schema. -/
lemma Sound.ne_schema {name fault flaw} (sound : Sound contract) (listed : name ∈ sections)
    (fails : SectionFails contract context name fault) : fault ≠ .schema flaw := by
  rintro rfl
  cases fails with
  | refused ed _ es =>
    obtain ⟨inner, ec⟩ := (sound name _ ed listed).compile
    have compiled : (Source.document _).compile (Table.resolves ⟨[]⟩) = .ok inner := ec
    rw [sanitize, sanitizeWithin_eq compiled] at es
    exact walk_ne_schema builtin_sparesSchemas Table.all_nil es

/-- The fault of asserting a context is a failure below the name of the section that fails. -/
lemma Mirrors.located {name fault fault'} (sound : Sound contract) (listed : name ∈ sections)
    (fails : SectionFails contract context name fault)
    (mirrors : Mirrors name (Record.get? context name) fault fault') :
    ∃ path violation, fault' = .violated (name :: path) violation := by
  generalize Record.get? context name = held at mirrors
  cases mirrors with
  | absent => exact ⟨[], _, rfl⟩
  | null => exact ⟨[], _, rfl⟩
  | notMapping => exact ⟨[], _, rfl⟩
  | inside =>
    cases fault with
    | failure f => exact ⟨f.path, f.violation, rfl⟩
    | mishap m => exact ⟨[], _, rfl⟩
    | schema flaw => exact (sound.ne_schema listed fails rfl).elim
    | exhausted =>
      cases fails with
      | refused _ _ es => exact (sanitize_ne_exhausted es).elim

section Agree

variable {contract' context' : Record}

/-- Demands only depend on what is under the names of sections. -/
lemma demands_congr (agree : Record.Agree sections contract contract') :
    demands contract = demands contract' := by
  apply List.filterMap_congr
  intro name mem
  rw [present?_congr (agree name mem)]

/-- Contexts and contracts that agree on the sections are verified alike. -/
lemma verify_congr {v v' w w'} (ec : w.entries? = some contract) (er : v.entries? = some context)
    (ec' : w'.entries? = some contract') (er' : v'.entries? = some context')
    (contracts : Record.Agree sections contract contract')
    (contexts : Record.Agree sections context context') : verify v w = verify v' w' := by
  rw [verify_eq ec er, verify_eq ec' er']
  generalize sections = names at contracts contexts
  induction names with
  | nil => rfl
  | cons name rest ih =>
    have here : verifyNamed contract context name = verifyNamed contract' context' name := by
      unfold verifyNamed verifySection
      rw [present?_congr (contracts name List.mem_cons_self),
        present?_congr (contexts name List.mem_cons_self)]
    have later := ih (fun name mem => contracts name (List.mem_cons_of_mem _ mem))
      fun name mem => contexts name (List.mem_cons_of_mem _ mem)
    change (verifyNamed contract context name >>= fun _ => rest.forM _) =
      (verifyNamed contract' context' name >>= fun _ => rest.forM _)
    rw [here, later]

/-- Records that agree on the sections are asserted alike against what a contract demands of them. -/
lemma sanitize_agree {frozen frozen'} (sound : Sound contract)
    (agree : Record.Agree sections context context') :
    Alike (Echoes (Source.document (asDocument contract)).names context context')
      (sanitize .builtin ⟨[]⟩ (.document (asDocument contract)) (.record frozen context))
      (sanitize .builtin ⟨[]⟩ (.document (asDocument contract)) (.record frozen' context')) := by
  obtain ⟨schema, ec, all⟩ := asDocument_compile sound
  have compiled : (Source.document (asDocument contract)).compile (Table.resolves ⟨[]⟩) =
      .ok schema := ec
  have governed : Record.Agree (Source.document (asDocument contract)).names context context' := by
    intro name mem
    rw [← Source.names_eq compiled, Demanded.names all] at mem
    exact agree name ((demands_names contract).subset mem)
  have deep : (Value.record frozen context).depth <
      (Value.record frozen context).depth + (Value.record frozen' context').depth + 1 := by
    omega
  have deep' : (Value.record frozen' context').depth <
      (Value.record frozen context).depth + (Value.record frozen' context').depth + 1 := by
    omega
  rw [← sanitizeWithin_eq_sanitize builtin_keepsDepth deep,
    ← sanitizeWithin_eq_sanitize builtin_keepsDepth deep']
  exact sanitizeWithin_agree rfl rfl governed

end Agree

/-- A row of checks passes only when all of them do. -/
lemma forM_ok {α : Type} {f : α → Except Fault Unit} {xs : List α} (e : xs.forM f = .ok ()) :
    ∀ x ∈ xs, f x = .ok () := by
  induction xs with
  | nil => nofun
  | cons x rest ih =>
    obtain ⟨_, ex, e⟩ := bind_ok_iff.1 (show (f x >>= fun _ => rest.forM f) = _ from e)
    exact List.forall_mem_cons.2 ⟨ex, ih e⟩

/-- The entries of a value are those of a mapping. -/
lemma eq_record_of_entries? {v : Value} {entries} (e : v.entries? = some entries) :
    ∃ frozen, v = .record frozen entries := by
  cases v with
  | record frozen _ =>
    cases e
    exact ⟨frozen, rfl⟩
  | _ => cases e

/-- Where verifying a context fails, asserting it fails at the same section, the first that is not
satisfied. -/
lemma verify_mirrors {frozen w fault} (ec : w.entries? = some contract) (sound : Sound contract)
    (e : verify (.record frozen context) w = .error fault) :
    ∃ before name after fault', sections = before ++ name :: after ∧
      (∀ name ∈ before, Satisfied contract context name) ∧
      SectionFails contract context name fault ∧
      sanitize .builtin ⟨[]⟩ (.document (asDocument contract)) (.record frozen context) =
        .error fault' ∧
      Mirrors name (Record.get? context name) fault fault' ∧
      (∃ path violation, fault' = .violated (name :: path) violation) ∧
      (Record.get? context name = none → Requires name fault ∧ Requires name fault') := by
  cases verify_error_iff.1 e with
  | notContract en => cases en.symm.trans ec
  | notContext _ en => cases en
  | @ofSection _ _ before name after _ ec' er' ordered satisfied fails =>
    cases ec.symm.trans ec'
    cases er'
    have listed : name ∈ sections := by
      rw [ordered]
      exact List.mem_append_right before List.mem_cons_self
    obtain ⟨fault', mirrors, es⟩ := sanitize_of_fails sound ordered satisfied fails
    refine ⟨before, name, after, fault', ordered, satisfied, fails, es, mirrors,
      mirrors.located sound listed fails, ?_⟩
    intro absent
    rw [absent] at mirrors
    exact mirrors.requires

/-- Verifying a context against a sound contract comes to what asserting it against the contract as one
document comes to. Both pass, or both fail at the same section, the first that is not satisfied, for
faults that mirror each other. Neither depends on anything but what the context and the contract hold
under the names of the sections, whatever other keys they have and in whatever order. -/
theorem verify_iff_sanitize {v w} (er : v.entries? = some context) (ec : w.entries? = some contract)
    (sound : Sound contract) :
    (verify v w = .ok () ↔
      ∃ result, sanitize .builtin ⟨[]⟩ (.document (asDocument contract)) v = .ok result) ∧
    (∀ fault, verify v w = .error fault →
      ∃ before name after fault', sections = before ++ name :: after ∧
        (∀ name ∈ before, Satisfied contract context name) ∧
        SectionFails contract context name fault ∧
        sanitize .builtin ⟨[]⟩ (.document (asDocument contract)) v = .error fault' ∧
        Mirrors name (Record.get? context name) fault fault' ∧
        (∃ path violation, fault' = .violated (name :: path) violation) ∧
        (Record.get? context name = none → Requires name fault ∧ Requires name fault')) ∧
    ∀ v' w' context' contract', v'.entries? = some context' → w'.entries? = some contract' →
      Record.Agree sections context context' → Record.Agree sections contract contract' →
      verify v w = verify v' w' ∧ asDocument contract = asDocument contract' ∧
        Alike (Echoes (Source.document (asDocument contract)).names context context')
          (sanitize .builtin ⟨[]⟩ (.document (asDocument contract)) v)
          (sanitize .builtin ⟨[]⟩ (.document (asDocument contract')) v') := by
  obtain ⟨frozen, rfl⟩ := eq_record_of_entries? er
  refine ⟨⟨?_, ?_⟩, fun _ => verify_mirrors ec sound, ?_⟩
  · intro e
    apply sanitize_of_satisfied sound
    intro name mem
    rw [verify_eq ec rfl] at e
    exact verifyNamed_ok_iff.1 (forM_ok e name mem)
  · rintro ⟨result, es⟩
    cases e : verify (.record frozen context) w with
    | ok => rfl
    | error fault =>
      -- A fault of one way of asserting would have its mirror image in the other.
      obtain ⟨_, _, _, fault', _, _, _, es', _⟩ := verify_mirrors ec sound e
      cases es.symm.trans es'
  · intro v' w' context' contract' er' ec' contexts contracts
    obtain ⟨frozen', rfl⟩ := eq_record_of_entries? er'
    have same : asDocument contract = asDocument contract' := by
      rw [asDocument, asDocument, demands_congr contracts]
    refine ⟨verify_congr ec rfl ec' rfl contracts contexts, same, ?_⟩
    rw [← same]
    exact sanitize_agree sound contexts

/-- A contract with a note, whose sections are stated in another order than they are looked at. -/
def budgetContract : Record :=
  [(.text "services", .record false [(.text "log", .record false [(.text "isFunction", .bool true)])]),
    (.text "note", .int 1),
    (.text "state", .record false [
      (.text "limits", .record false [(.text "properties", .record false [
        (.text "max", .record false [(.text "type", .text "number")])])])]),
    (.text "data", .null)]

/-- A context without services, whose state has a limit that is no number. -/
def budgetContext : Record :=
  [(.text "data", .int 0),
    (.text "state", .record true [(.text "limits", .record false [(.text "max", .text "ten")])])]

/-- The contract of the example is sound. -/
lemma sound_budgetContract : Sound budgetContract := by
  intro name document ed listed
  simp only [sections, List.mem_cons, List.not_mem_nil, or_false] at listed
  rcases listed with rfl | rfl | rfl
  · cases ed
    exact wellFormed_iff.2 ⟨_, rfl⟩
  · cases ed
  · cases ed
    exact wellFormed_iff.2 ⟨_, rfl⟩

/-- The limit is refused in the state of the context, before the services are missed, and below the
state when the contract is one document. -/
theorem verify_iff_sanitize_budget :
    let fault : Fault := .violated ["limits", "max"] (.failedRule "type" "max" (.text "ten"))
    Sound budgetContract ∧
      verify (.record false budgetContext) (.record false budgetContract) = .error fault ∧
      sanitize .builtin ⟨[]⟩ (.document (asDocument budgetContract)) (.record false budgetContext) =
        .error (fault.within "state") ∧
      ¬∃ result, sanitize .builtin ⟨[]⟩ (.document (asDocument budgetContract))
        (.record false budgetContext) = .ok result := by
  intro fault
  have refused : verify (.record false budgetContext) (.record false budgetContract) =
      .error fault := by
    cbv
  obtain ⟨passes, failing, _⟩ := verify_iff_sanitize (v := .record false budgetContext)
    (w := .record false budgetContract) rfl rfl sound_budgetContract
  refine ⟨sound_budgetContract, refused, ?_, ?_⟩
  · obtain ⟨before, name, after, fault', ordered, satisfied, fails, es, mirrors, _⟩ :=
      failing fault refused
    cases before with
    | nil =>
      cases ordered
      have held : Record.get? budgetContext "state" =
          some (.record true [(.text "limits", .record false [(.text "max", .text "ten")])]) := rfl
      rw [held] at mirrors
      rw [es, mirrors.of_mapping rfl]
    | cons first before =>
      obtain ⟨rfl, _⟩ := List.cons.inj ordered
      -- The state cannot be satisfied, since it is what verifying the context fails at.
      obtain ⟨v, record, ev, accepted⟩ := satisfied "state" List.mem_cons_self _ rfl
      cases ev
      cbv at accepted
  · intro accepted
    cases (passes.2 accepted).symm.trans refused

end RecordSchema.Contract
