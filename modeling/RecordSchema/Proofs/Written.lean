import RecordSchema.Proofs.Vocabulary

/-!
# Schemas written as documents

A schema can be written back as a document (`Schema.toDocument`). Compiling keeps what a document says,
entry by entry and at every inline depth (`Keeps`, `Inlines`), so that what a document compiles to is
again what the document written from it compiles to (`compile_lossless`).
-/

namespace RecordSchema

/-- Rules as entries of a rule set. -/
def RuleSet.ofRules (rules : List (Text × Value)) : Record :=
  rules.map fun rule => (.text rule.1, rule.2)

/-- A rule set that starts with its transforms. -/
def RuleSet.withTransforms (transforms : List Text) (fields : Record) : Record :=
  (.text "transform", .list (transforms.map .text)) :: fields

mutual

/-- The rule set of a property: its transforms, what it descends into, and its rules. -/
def Property.fields : Property → Record
  | ⟨_, _, transforms, nesting, rules⟩ =>
    RuleSet.withTransforms transforms (nesting.fields ++ RuleSet.ofRules rules)

/-- What a rule set says of a way to descend. -/
def Nesting.fields : Nesting Property → Record
  | .plain => []
  | .reference target => [(.text "type", .text target)]
  | .inline properties => [(.text "properties", .record false (Schema.entries properties))]

/-- The entries of the document of a schema: a rule set for each property, under its key. -/
def Schema.entries : List Property → Record
  | [] => []
  | p :: rest => (.text p.key, .record false p.fields) :: Schema.entries rest

end

/-- The document of a schema. -/
def Schema.toDocument (schema : Schema) : Value :=
  .record false (entries schema)

/-- A key is that of an optional property exactly when it ends in the mark. -/
lemma splitKey_optional_iff {key} :
    (splitKey key).2 = true ↔ ∃ name : Text, key = name.push (.char optionalMark) := by
  constructor
  · intro optional
    have written : Property.key ⟨(splitKey key).1, (splitKey key).2, [], .plain, []⟩ = key :=
      key_splitKey
    rw [Property.key, if_pos optional] at written
    exact ⟨_, written.symm⟩
  · rintro ⟨name, rfl⟩
    simp [splitKey]

namespace RuleSet

variable {named : Text → Bool} {fields : Record}

/-- A rule set refers to what it names, if that is a name of the table. -/
lemma target?_eq_some_iff {target} :
    target? named fields = some target ↔
      Record.get? fields "type" = some (.text target) ∧ named target = true := by
  constructor
  · exact of_target?
  · rintro ⟨et, resolves⟩
    rw [target?, et]
    exact if_pos resolves

/-- What a rule set says of its transforms is a list or tuple of some names, or there are none and it
counts as false. -/
inductive KeepsTransforms (fields : Record) : List Text → Prop where
  | list {names} :
    Record.get? fields "transform" = some (.list (names.map .text)) →
    KeepsTransforms fields names
  | tuple {names} :
    Record.get? fields "transform" = some (.tuple (names.map .text)) →
    KeepsTransforms fields names
  | none :
    (∀ v, Record.get? fields "transform" = some v → v.truthy = false) →
    KeepsTransforms fields []

/-- The texts of names are the names. -/
lemma textItems_map (names : List Text) : Schema.textItems (names.map .text) = names := by
  induction names with
  | nil => rfl
  | cons name rest ih => exact congrArg (List.cons name) ih

/-- Names are read off a list of texts without loss. -/
lemma map_textItems {items} (texts : ∀ item ∈ items, ∃ name, item = Value.text name) :
    (Schema.textItems items).map .text = items := by
  induction items with
  | nil => rfl
  | cons item rest ih =>
    obtain ⟨⟨name, rfl⟩, others⟩ := List.forall_mem_cons.1 texts
    exact congrArg (List.cons _) (ih others)

/-- The transforms of a rule set are kept. -/
lemma NamesTransforms.keeps (names : NamesTransforms fields) :
    KeepsTransforms fields (transforms fields) := by
  cases eg : Record.get? fields "transform" with
  | none =>
    rw [transforms, eg]
    refine .none ?_
    rw [eg]
    nofun
  | some v =>
    by_cases t : v.truthy = true
    · obtain ⟨items, rfl | rfl, texts⟩ := names v eg t
      · rw [transforms, eg]
        exact .list (eg.trans (by rw [map_textItems texts]))
      · rw [transforms, eg]
        exact .tuple (eg.trans (by rw [map_textItems texts]))
    · have none : transforms fields = [] := by
        rw [transforms, eg]
        cases v with
        | list items => cases items with
          | nil => rfl
          | cons => exact (t rfl).elim
        | tuple items => cases items with
          | nil => rfl
          | cons => exact (t rfl).elim
        | _ => rfl
      rw [none]
      refine .none ?_
      intro w ew
      cases eg.symm.trans ew
      exact Bool.eq_false_iff.2 t

/-- A first field is a rule, unless its key is one of the two that are none. -/
lemma rulesOf_cons {name argument} :
    Schema.rulesOf ((.text name, argument) :: fields) =
      if Schema.isRuleKey (.text name) then (name, argument) :: Schema.rulesOf fields
      else Schema.rulesOf fields := by
  unfold Schema.rulesOf
  by_cases stated : Schema.isRuleKey (.text name) = true <;> simp [stated]

/-- The rules of a rule set are all its entries but two, in order. -/
lemma ofRules_rulesOf (texts : KeysText fields) :
    ofRules (Schema.rulesOf fields) = fields.filter fun field => Schema.isRuleKey field.1 := by
  induction fields with
  | nil => rfl
  | cons field rest ih =>
    obtain ⟨⟨name, et⟩, others⟩ := List.forall_mem_cons.1 texts
    obtain ⟨key, argument⟩ := field
    cases et
    rw [rulesOf_cons, List.filter_cons, ← ih others]
    split <;> rfl

/-- The rules of a rule set made of rules are the rules. -/
lemma rulesOf_ofRules {rules : List (Text × Value)}
    (free : ∀ rule ∈ rules, Schema.isRuleKey (.text rule.1) = true) :
    Schema.rulesOf (ofRules rules) = rules := by
  induction rules with
  | nil => rfl
  | cons rule rest ih =>
    obtain ⟨stated, others⟩ := List.forall_mem_cons.1 free
    change Schema.rulesOf ((.text rule.1, rule.2) :: ofRules rest) = _
    rw [rulesOf_cons, if_pos stated, ih others]

/-- What is stated as a rule is none of the two other keys. -/
lemma isRuleKey_of_mem {rule} (mem : rule ∈ Schema.rulesOf fields) :
    Schema.isRuleKey (.text rule.1) = true := by
  obtain ⟨_, transform, properties⟩ := Schema.mem_rulesOf_iff.1 mem
  simpa [Schema.isRuleKey, Value.isText] using ⟨transform, properties⟩

/-- The keys of rules are texts. -/
lemma keysText_ofRules {rules} : KeysText (ofRules rules) := by
  intro field mem
  obtain ⟨rule, _, rfl⟩ := List.mem_map.1 mem
  exact ⟨rule.1, rfl⟩

/-- A name that stands for a rule is looked up among the rules as in the whole rule set. -/
lemma get?_filter {name} (stated : Schema.isRuleKey (.text name) = true) :
    Record.get? (fields.filter fun field => Schema.isRuleKey field.1) name =
      Record.get? fields name := by
  rw [Record.get?, Record.get?, List.find?_filter]
  congr 2
  funext field
  obtain ⟨key, v⟩ := field
  cases key with
  | text other =>
    by_cases same : other = name
    · subst same
      simp [stated]
    · simp [Value.isText, same]
  | _ => simp [Value.isText]

variable {transforms : List Text}

/-- The transforms of a rule set that starts with them are found. -/
lemma transforms_withTransforms :
    RuleSet.transforms (withTransforms transforms fields) = transforms :=
  textItems_map transforms

/-- A rule set that starts with transforms names them. -/
lemma namesTransforms_withTransforms : NamesTransforms (withTransforms transforms fields) := by
  intro v ev _
  cases ev
  refine ⟨_, .inl rfl, ?_⟩
  intro item mem
  obtain ⟨name, _, rfl⟩ := List.mem_map.1 mem
  exact ⟨name, rfl⟩

/-- In front of other fields, transforms do not matter to what is under other names. -/
lemma get?_withTransforms {name} (ne : name ≠ "transform") :
    Record.get? (withTransforms transforms fields) name = Record.get? fields name := by
  apply Record.get?_cons_of_not
  simpa [Value.isText] using ne.symm

/-- In front of other fields, transforms do not matter to the reference. -/
lemma target?_withTransforms :
    target? named (withTransforms transforms fields) = target? named fields := by
  rw [target?, target?, get?_withTransforms (by decide)]

/-- In front of other fields, transforms do not matter to the inner document. -/
lemma inner?_withTransforms : inner? (withTransforms transforms fields) = inner? fields := by
  rw [inner?, inner?, get?_withTransforms (by decide)]

/-- In front of other fields, transforms do not matter to the rules. -/
lemma rulesOf_withTransforms :
    Schema.rulesOf (withTransforms transforms fields) = Schema.rulesOf fields :=
  rulesOf_cons

/-- One more key that is a text keeps all of them texts. -/
lemma keysText_cons {name argument} :
    KeysText ((.text name, argument) :: fields) ↔ KeysText fields := by
  simp [KeysText]

/-- Rules written down refer to the named schema that the rule set they are from does. -/
lemma target?_ofRules (texts : KeysText fields) :
    target? named (ofRules (Schema.rulesOf fields)) = target? named fields := by
  have kept : Record.get? (ofRules (Schema.rulesOf fields)) "type" = Record.get? fields "type" := by
    rw [ofRules_rulesOf texts]
    exact get?_filter rfl
  rw [target?, target?, kept]

/-- No rule stands for an inner document. -/
lemma inner?_ofRules : inner? (ofRules (Schema.rulesOf fields)) = none := by
  cases eg : Record.get? (ofRules (Schema.rulesOf fields)) "properties" with
  | none => rw [inner?, eg]
  | some v =>
    obtain ⟨⟨name, argument⟩, mem, e⟩ := List.mem_map.1 (Record.mem_of_get? eg)
    cases e
    exact ((Schema.mem_rulesOf_iff.1 mem).2.2 rfl).elim

/-- Of a rule set made of the rules of another, the rules are the same. -/
lemma rulesOf_ofRules_rulesOf :
    Schema.rulesOf (ofRules (Schema.rulesOf fields)) = Schema.rulesOf fields :=
  rulesOf_ofRules fun _ => isRuleKey_of_mem

end RuleSet

namespace Schema

variable {named : Text → Bool}

/-- A property keeps what an entry of a document says under a key. -/
structure Keeps (named : Text → Bool) (key : Text) (fields : Record) (p : Property) : Prop where
  key_eq : p.key = key
  optional_iff : p.optional = true ↔ ∃ name : Text, key = name.push (.char optionalMark)
  transforms : RuleSet.KeepsTransforms fields p.transforms
  /-- It refers to a named schema exactly when the entry has one as its `type`. -/
  reference_iff target : p.nesting = .reference target ↔
    Record.get? fields "type" = some (.text target) ∧ named target = true
  /-- It has an inner schema exactly when the entry does and the property refers to no other. -/
  inline_iff : (∃ inner, p.nesting = .inline inner) ↔
    (∀ target, p.nesting ≠ .reference target) ∧ ∃ document, RuleSet.inner? fields = some document
  rules_free : ∀ rule ∈ p.rules, rule.1 ≠ "transform" ∧ rule.1 ≠ "properties"
  rules_reference target : p.nesting = .reference target → p.rules = []
  /-- Its rules are the other entries of the rule set, in order. -/
  rules_eq : (∀ target, p.nesting ≠ .reference target) →
    RuleSet.ofRules p.rules = fields.filter fun field => isRuleKey field.1

/-- A property keeps what an entry says: the entry is a rule set under a text. -/
inductive EntryKept (named : Text → Bool) : Value × Value → Property → Prop where
  | intro {key frozen fields p} :
    Keeps named key fields p →
    EntryKept named (.text key, .record frozen fields) p

/-- A document and a schema inside of others: an entry and its property have both in them. -/
inductive Inlines : Value → Schema → Value → Schema → Prop where
  | here {document schema} :
    Inlines document schema document schema
  | inside {frozen entries schema key readOnly fields p document inner document' schema'} :
    ((.text key, .record readOnly fields), p) ∈ entries.zip schema →
    RuleSet.inner? fields = some document →
    p.nesting = .inline inner →
    Inlines document inner document' schema' →
    Inlines (.record frozen entries) schema document' schema'

/-- What a rule set compiles to keeps all that it says. -/
lemma CompilesTo.keeps {key fields p} (c : CompilesTo named key fields p) :
    Keeps named key fields p := by
  cases c with
  | @reference target names et =>
    -- A property that refers to a schema has no rules to keep.
    have found := RuleSet.of_target? et
    refine ⟨key_splitKey, splitKey_optional_iff, names.keeps, ?_, ?_, nofun, fun _ _ => rfl, ?_⟩
    · intro other
      constructor
      · intro e
        cases e
        exact found
      · rintro ⟨eo, _⟩
        cases found.1.symm.trans eo
        rfl
    · exact ⟨nofun, fun ⟨other, _⟩ => (other target rfl).elim⟩
    · exact fun other => (other target rfl).elim
  | @inline document properties names texts et ei ec =>
    refine ⟨key_splitKey, splitKey_optional_iff, names.keeps, ?_, ?_, ?_, nofun, ?_⟩
    · intro target
      rw [← RuleSet.target?_eq_some_iff, et]
      exact ⟨nofun, nofun⟩
    · exact ⟨fun _ => ⟨nofun, _, ei⟩, fun _ => ⟨_, rfl⟩⟩
    · exact fun rule mem => (mem_rulesOf_iff.1 mem).2
    · exact fun _ => RuleSet.ofRules_rulesOf texts
  | plain names texts et ei =>
    refine ⟨key_splitKey, splitKey_optional_iff, names.keeps, ?_, ?_, ?_, nofun, ?_⟩
    · intro target
      rw [← RuleSet.target?_eq_some_iff, et]
      exact ⟨nofun, nofun⟩
    · rw [ei]
      exact ⟨nofun, nofun⟩
    · exact fun rule mem => (mem_rulesOf_iff.1 mem).2
    · exact fun _ => RuleSet.ofRules_rulesOf texts

/-- The documents inside of one that compiles compile to the schemas inside of its schema. -/
lemma Inlines.compile {document schema document' schema'}
    (inlines : Inlines document schema document' schema')
    (ec : compile (.total named) document = .ok schema) :
    compile (.total named) document' = .ok schema' := by
  induction inlines with
  | here => exact ec
  | inside mem ei en _ ih =>
    obtain ⟨_, _, ed, all⟩ := compile_ok_iff.1 ec
    cases ed
    obtain ⟨c⟩ := (List.forall₂_iff_zip.1 all).2 mem
    cases c with
    | reference => cases en
    | inline _ _ _ ei' ec =>
      cases en
      cases ei.symm.trans ei'
      exact ih ec
    | plain => cases en

/-- What a property is written as compiles to it, when what its inner schema is written as does. -/
lemma CompilesTo.written {key fields p} (c : CompilesTo named key fields p)
    (inner : ∀ properties, p.nesting = .inline properties →
      compile (.total named) (toDocument properties) = .ok properties) :
    CompilesTo named key p.fields p := by
  -- Each case compiles what is written, and finds the transforms and rules that it started from.
  cases c with
  | @reference target _ et =>
    let written := RuleSet.withTransforms (RuleSet.transforms fields) [(.text "type", .text target)]
    have again : RuleSet.target? named written = some target :=
      RuleSet.target?_eq_some_iff.2 ⟨rfl, (RuleSet.of_target? et).2⟩
    have c : CompilesTo named key written _ :=
      .reference RuleSet.namesTransforms_withTransforms again
    rwa [RuleSet.transforms_withTransforms] at c
  | @inline document properties _ texts et ei ec =>
    let nested : Record :=
      (.text "properties", toDocument properties) :: RuleSet.ofRules (rulesOf fields)
    let written := RuleSet.withTransforms (RuleSet.transforms fields) nested
    have none : RuleSet.target? named written = none := by
      rw [RuleSet.target?_withTransforms, ← et, ← RuleSet.target?_ofRules texts]
      rfl
    have keys : RuleSet.KeysText written :=
      RuleSet.keysText_cons.2 (RuleSet.keysText_cons.2 RuleSet.keysText_ofRules)
    have c : CompilesTo named key written _ :=
      .inline RuleSet.namesTransforms_withTransforms keys none
        (RuleSet.inner?_withTransforms.trans rfl) (inner properties rfl)
    rwa [RuleSet.transforms_withTransforms, RuleSet.rulesOf_withTransforms, RuleSet.rulesOf_cons,
      if_neg (by decide), RuleSet.rulesOf_ofRules_rulesOf] at c
  | plain _ texts et ei =>
    let written := RuleSet.withTransforms (RuleSet.transforms fields)
      (RuleSet.ofRules (rulesOf fields))
    have none : RuleSet.target? named written = none := by
      rw [RuleSet.target?_withTransforms, RuleSet.target?_ofRules texts, et]
    have c : CompilesTo named key written _ :=
      .plain RuleSet.namesTransforms_withTransforms
        (RuleSet.keysText_cons.2 RuleSet.keysText_ofRules) none
        (RuleSet.inner?_withTransforms.trans RuleSet.inner?_ofRules)
    rwa [RuleSet.transforms_withTransforms, RuleSet.rulesOf_withTransforms,
      RuleSet.rulesOf_ofRules_rulesOf] at c

/-- What a rule set compiles to keeps its key. -/
lemma CompilesTo.key_eq {key fields p} (c : CompilesTo named key fields p) : p.key = key := by
  cases c <;> exact key_splitKey

/-- The document of a schema that one compiles to compiles to the schema again. -/
lemma compile_toDocument {document schema}
    (ec : compile (.total named) document = .ok schema) :
    compile (.total named) schema.toDocument = .ok schema := by
  obtain ⟨frozen, entries, rfl, all⟩ := compile_ok_iff.1 ec
  refine compile_ok_iff.2 ⟨false, _, rfl, ?_⟩
  have each : ∀ entry ∈ entries, ∀ p, EntryCompiles named entry p →
      EntryCompiles named (.text p.key, .record false p.fields) p := by
    rintro _ mem p ⟨c⟩
    rw [c.key_eq]
    refine ⟨c.written ?_⟩
    intro properties en
    cases c with
    | reference => cases en
    | inline _ _ _ ei inner =>
      cases en
      -- The recursion is on the inner document, which lies two levels down.
      have smaller := RuleSet.sizeOf_inner?_lt mem ei
      exact compile_toDocument inner
    | plain => cases en
  clear ec
  induction all with
  | nil => exact .nil
  | @cons entry p _ _ first _ ih =>
    obtain ⟨here, others⟩ := List.forall_mem_cons.1 each
    exact .cons (here p first) (ih others)
termination_by sizeOf document
decreasing_by
  subst_vars
  rw [Value.record.sizeOf_spec]
  omega

/-- Compiling loses nothing: at every inline depth the properties are one to one with the entries, in
their order, and keep what each says; and the document written from the schema compiles to an equal
schema against the same names. -/
theorem compile_lossless {V : Vocabulary} {document schema}
    (ec : compile V.resolves document = .ok schema) :
    (∀ document' schema', Inlines document schema document' schema' →
      ∃ frozen entries, document' = .record frozen entries ∧
        List.Forall₂ (EntryKept V.contains) entries schema') ∧
      compile V.resolves schema.toDocument = .ok schema := by
  rw [V.resolves_eq] at ec ⊢
  refine ⟨?_, compile_toDocument ec⟩
  intro document' schema' inlines
  obtain ⟨frozen, entries, rfl, all⟩ := compile_ok_iff.1 (inlines.compile ec)
  refine ⟨frozen, entries, rfl, all.imp ?_⟩
  rintro _ _ ⟨c⟩
  exact ⟨c.keeps⟩

/-- A document with a reference that has a rule of its own, and a property that has a `type` that does
not resolve next to an inner document. -/
def shelves : Value :=
  .record false [
    (.text "next?", .record false [(.text "minLength", .int 1), (.text "type", .text "shelf")]),
    (.text "size", .record false [
      (.text "type", .text "object"),
      (.text "properties", .record false [
        (.text "unit??", .record true [
          (.text "pattern", .text "cm"), (.text "transform", .tuple [.text "trim"])])])])]

/-- What the inner document of `shelves` compiles to. -/
def unitSchema : Schema :=
  [⟨"unit?", true, ["trim"], .plain, [("pattern", .text "cm")]⟩]

/-- The schema that the document compiles to. -/
def shelvesSchema : Schema :=
  [⟨"next", true, [], .reference "shelf", []⟩,
    ⟨"size", false, [], .inline unitSchema, [("type", .text "object")]⟩]

/-- The document of shelves keeps its inner document, and is not lost when it is written back. -/
theorem compile_lossless_shelves :
    compile (Vocabulary.tuple [.text "shelf"]).resolves shelves = .ok shelvesSchema ∧
      List.Forall₂ (EntryKept (Vocabulary.tuple [.text "shelf"]).contains)
        [(.text "unit??", .record true [
          (.text "pattern", .text "cm"), (.text "transform", .tuple [.text "trim"])])] unitSchema ∧
      compile (Vocabulary.tuple [.text "shelf"]).resolves shelvesSchema.toDocument =
        .ok shelvesSchema := by
  have compiles : compile (Vocabulary.tuple [.text "shelf"]).resolves shelves =
      .ok shelvesSchema := by
    rfl
  obtain ⟨kept, again⟩ := compile_lossless compiles
  refine ⟨compiles, ?_, again⟩
  obtain ⟨_, _, ed, all⟩ := kept _ unitSchema (.inside (List.mem_cons_of_mem _ List.mem_cons_self)
    rfl rfl .here)
  cases ed
  exact all

end Schema

end RecordSchema
