import RecordSchema.Proofs.Acceptance
import RecordSchema.Proofs.Easing

/-!
# Order of declarations

A document may declare the same in another order: its entries, the fields of a rule set, and both again
in inner documents (`Reordered`). It then compiles to the same properties in another order, with their
rules in another order (`Reordered.compile`). With distinct names neither order matters to what comes of
a value (`reordered_returns`): it only decides which of several failures is met first.
-/

namespace RecordSchema

mutual

/-- A document, and the same with its entries in another order, each of them perhaps reordered. -/
inductive Reordered : Value → Value → Prop where
  | intro {frozen entries mid entries'} :
    List.Forall₂ ReorderedEntry entries mid →
    mid.Perm entries' →
    Reordered (.record frozen entries) (.record frozen entries')

/-- An entry of a document, and the same with the fields of its rule set in another order. -/
inductive ReorderedEntry : Value × Value → Value × Value → Prop where
  | same {entry} :
    ReorderedEntry entry entry
  | fields {key frozen mid fields'} {fields : Mapping} :
    List.Forall₂ ReorderedField fields.entries mid →
    mid.Perm fields' →
    ReorderedEntry (key, fields.toValue frozen) (key, .record frozen fields')

/-- A field of a rule set, and the same with a reordered inner document. -/
inductive ReorderedField : Value × Value → Value × Value → Prop where
  | same {field} :
    ReorderedField field field
  | inner {document document'} :
    Reordered document document' →
    ReorderedField (.text "properties", document) (.text "properties", document')

end

/-- A document may have its entries in another order. -/
lemma Reordered.of_perm {frozen entries entries'} (perm : entries.Perm entries') :
    Reordered (.record frozen entries) (.record frozen entries') :=
  .intro (List.forall₂_same.2 fun _ _ => .same) perm

/-- A document is reordered to itself. -/
lemma Reordered.refl {frozen entries} :
    Reordered (.record frozen entries) (.record frozen entries) :=
  .of_perm (.refl entries)

/-- A document of a table under its name, and the same reordered. -/
inductive ReorderedDocument : Value × Value → Value × Value → Prop where
  | same {entry} :
    ReorderedDocument entry entry
  | document {name document document'} :
    Reordered document document' →
    ReorderedDocument (name, document) (name, document')

/-- A table, and the same with its names in another order, each document perhaps reordered. -/
inductive Table.Reordered : Table → Table → Prop where
  | intro {named : Mapping} {mid entries'} :
    List.Forall₂ ReorderedDocument named.entries mid →
    mid.Perm entries' →
    Table.Reordered ⟨named.entries⟩ ⟨entries'⟩

namespace Record

variable {R : Value × Value → Value × Value → Prop} {r mid r' : Record}

/-- Related entries under the same keys make up records with the same keys. -/
lemma keys_of_forall₂ (all : List.Forall₂ R r mid)
    (keys : ∀ entry entry', R entry entry' → entry'.1 = entry.1) :
    Record.keys mid = Record.keys r := by
  induction all with
  | nil => rfl
  | cons rel _ ih => exact congrArg₂ List.cons (keys _ _ rel) ih

/-- Records that are related entry by entry, under the same keys, have related values under each name,
or nothing there; and so they do when the entries of one of them are put in another order. -/
lemma get?_reordered (distinct : r.Distinct) (all : List.Forall₂ R r mid)
    (keys : ∀ entry entry', R entry entry' → entry'.1 = entry.1) (perm : mid.Perm r')
    (name : Text) :
    (Record.get? r name = none ∧ Record.get? r' name = none) ∨
      ∃ v v', Record.get? r name = some v ∧ Record.get? r' name = some v' ∧
        R (.text name, v) (.text name, v') := by
  have distinct' : mid.Distinct := by
    rwa [Distinct, keys_of_forall₂ all keys]
  rw [get?_perm distinct' perm]
  clear distinct distinct' perm
  induction all with
  | nil => exact .inl ⟨rfl, rfl⟩
  | @cons entry entry' _ _ rel _ ih =>
    obtain ⟨key, v⟩ := entry
    obtain ⟨key', v'⟩ := entry'
    cases keys _ _ rel
    by_cases named : key.isText name
    · cases Value.isText_iff.1 named
      exact .inr ⟨v, v', by simp [Record.get?, named], by simp [Record.get?, named], rel⟩
    · rwa [get?_cons_of_not named, get?_cons_of_not named]

end Record

/-- Two rule sets say the same, but for the order of their rules and within their inner documents. -/
structure RuleSet.Restates (fields fields' : Record) : Prop where
  others : ∀ name, name ≠ "properties" → Record.get? fields' name = Record.get? fields name
  inner : inner? fields' = inner? fields ∨ ∃ document document',
    inner? fields = some document ∧ inner? fields' = some document' ∧ Reordered document document'
  rules : (Schema.rulesOf fields).Perm (Schema.rulesOf fields')
  texts : KeysText fields → KeysText fields'

section RuleSet

variable {fields mid fields' : Record}

/-- A reordered field keeps its key. -/
lemma ReorderedField.keys (field field' : Value × Value) (r : ReorderedField field field') :
    field'.1 = field.1 := by
  cases r <;> rfl

/-- Reordering what lies within the fields of a rule set leaves its rules as they are. -/
lemma rulesOf_reordered (all : List.Forall₂ ReorderedField fields mid) :
    Schema.rulesOf mid = Schema.rulesOf fields := by
  induction all with
  | nil => rfl
  | cons r _ ih =>
    unfold Schema.rulesOf at ih ⊢
    rw [List.filterMap_cons, List.filterMap_cons, ih]
    cases r with
    | same => rfl
    | inner => rfl

/-- A reordered rule set says the same. -/
lemma RuleSet.Restates.of_reordered (distinct : fields.Distinct)
    (all : List.Forall₂ ReorderedField fields mid) (perm : mid.Perm fields') :
    RuleSet.Restates fields fields' where
  others name ne := by
    obtain ⟨en, en'⟩ | ⟨v, v', ev, ev', r⟩ :=
      Record.get?_reordered distinct all ReorderedField.keys perm name
    · rw [en, en']
    · cases r with
      | same => rw [ev, ev']
      | inner => exact (ne rfl).elim
  inner := by
    unfold inner?
    obtain ⟨en, en'⟩ | ⟨v, v', ev, ev', r⟩ :=
      Record.get?_reordered distinct all ReorderedField.keys perm "properties"
    · rw [en, en']
      exact .inl rfl
    · rw [ev, ev']
      cases r with
      | same => exact .inl rfl
      | inner r =>
        cases r with
        | intro all perm => exact .inr ⟨_, _, rfl, rfl, .intro all perm⟩
  rules := by
    rw [← rulesOf_reordered all]
    exact perm.filterMap _
  texts texts field' mem := by
    obtain ⟨field, mem, r⟩ := exists_left_of_mem all (perm.mem_iff.2 mem)
    rw [r.keys]
    exact texts field mem

end RuleSet

/-- A reordered entry has the same key, and says the same under it. -/
lemma ReorderedEntry.restates {key frozen fields entry'}
    (r : ReorderedEntry (.text key, .record frozen fields) entry') :
    ∃ fields', entry' = (.text key, .record frozen fields') ∧ RuleSet.Restates fields fields' := by
  cases r with
  | same => exact ⟨fields, rfl, fun _ _ => rfl, .inl rfl, .refl _, id⟩
  | @fields _ _ _ _ fields all perm => exact ⟨_, rfl, .of_reordered fields.distinct all perm⟩

mutual

/-- A schema with distinct names, and the same with its properties in another order, each of them
perhaps turned. -/
inductive Schema.Shuffled : Schema → Schema → Prop where
  | intro {schema mid schema' : Schema} :
    (schema.map Property.name).Nodup →
    List.Forall₂ Property.Turned schema mid →
    mid.Perm schema' →
    Schema.Shuffled schema schema'

/-- A property, and the same with its rules in another order and its inner schema shuffled. -/
inductive Property.Turned : Property → Property → Prop where
  | intro {p p' : Property} :
    p'.name = p.name →
    p'.optional = p.optional →
    p'.transforms = p.transforms →
    p.rules.Perm p'.rules →
    p.nesting.Related Schema.Shuffled p'.nesting →
    Property.Turned p p'

end

namespace Schema

variable {named : Text → Bool}

/-- A rule set that says the same as one that compiles compiles to the same property, but for the order
of its rules and within its inner schema. -/
lemma CompilesTo.turned {key fields fields' p} (restates : RuleSet.Restates fields fields')
    (c : CompilesTo named key fields p)
    (below : ∀ document document' properties, RuleSet.target? named fields = none →
      RuleSet.inner? fields = some document → Reordered document document' →
      compile (.total named) document = .ok properties →
      ∃ properties', compile (.total named) document' = .ok properties' ∧
        Shuffled properties properties') :
    ∃ p', CompilesTo named key fields' p' ∧ p.Turned p' := by
  -- Of the keys with a meaning of their own, only `properties` may hold something else.
  have target : RuleSet.target? named fields' = RuleSet.target? named fields := by
    rw [RuleSet.target?, RuleSet.target?, restates.others "type" (by decide)]
  have transform := restates.others "transform" (by decide)
  have transforms : RuleSet.transforms fields' = RuleSet.transforms fields := by
    rw [RuleSet.transforms, RuleSet.transforms, transform]
  have names : RuleSet.NamesTransforms fields → RuleSet.NamesTransforms fields' := by
    intro names
    rwa [RuleSet.NamesTransforms, transform]
  cases c with
  | reference sound et =>
    exact ⟨_, .reference (names sound) (target.trans et), .intro rfl rfl transforms .nil .reference⟩
  | @inline document properties sound texts et ei ec =>
    obtain ⟨document', ei', r⟩ : ∃ document', RuleSet.inner? fields' = some document' ∧
        Reordered document document' := by
      obtain same | ⟨_, document', ed, ei', r⟩ := restates.inner
      · obtain ⟨_, _, rfl, _⟩ := compile_ok_iff.1 ec
        exact ⟨_, same.trans ei, .refl⟩
      · cases ei.symm.trans ed
        exact ⟨document', ei', r⟩
    obtain ⟨properties', ec', shuffled⟩ := below _ _ _ et ei r ec
    exact ⟨_, .inline (names sound) (restates.texts texts) (target.trans et) ei' ec',
      .intro rfl rfl transforms restates.rules (.inline shuffled)⟩
  | plain sound texts et ei =>
    have ei' : RuleSet.inner? fields' = none := by
      obtain same | ⟨_, _, ed, _⟩ := restates.inner
      · exact same.trans ei
      · cases ei.symm.trans ed
    exact ⟨_, .plain (names sound) (restates.texts texts) (target.trans et) ei',
      .intro rfl rfl transforms restates.rules .plain⟩

end Schema

/-- A document with distinct names compiles to the same in another order when it is reordered. -/
lemma Reordered.compile {named document document' schema} (r : Reordered document document')
    (distinct : DistinctNames named document)
    (ec : Schema.compile (.total named) document = .ok schema) :
    ∃ schema', Schema.compile (.total named) document' = .ok schema' ∧
      Schema.Shuffled schema schema' := by
  obtain ⟨frozen, entries, rfl, all⟩ := Schema.compile_ok_iff.1 ec
  obtain ⟨nodup, inner⟩ := distinct
  obtain @⟨_, _, mid, entries', moved, perm⟩ := r
  have each : ∀ entry ∈ entries, ∀ p entry', Schema.EntryCompiles named entry p →
      ReorderedEntry entry entry' → ∃ p', p.Turned p' ∧ Schema.EntryCompiles named entry' p' := by
    rintro _ mem p entry' ⟨c⟩ moved
    obtain ⟨fields', rfl, restates⟩ := moved.restates
    obtain ⟨p', c', turned⟩ := c.turned restates <| by
      intro document document' properties et ei r ec
      -- The recursion is on the inner document, which lies two levels down.
      have smaller := RuleSet.sizeOf_inner?_lt mem ei
      exact r.compile (inner _ _ _ _ mem et ei) ec
    exact ⟨p', turned, .intro c'⟩
  obtain ⟨turned, shuffled, compiled⟩ := exists_shared (forall₂_across all moved each)
  obtain ⟨schema', compiled', perm'⟩ := List.perm_comp_forall₂ perm.symm compiled
  rw [← Schema.names_eq all] at nodup
  exact ⟨schema', Schema.compile_ok_iff.2 ⟨_, _, rfl, compiled'⟩, .intro nodup shuffled perm'.symm⟩
termination_by sizeOf document
decreasing_by
  subst_vars
  rw [Value.record.sizeOf_spec]
  omega

section Table

variable {T T' : Table}

/-- A reordered document keeps its name. -/
lemma ReorderedDocument.keys (entry entry' : Value × Value) (r : ReorderedDocument entry entry') :
    entry'.1 = entry.1 := by
  cases r <;> rfl

/-- Under a name a reordered table has the same document, perhaps reordered, or none if there was none. -/
lemma Table.Reordered.get? (tables : T.Reordered T') (name : Text) :
    (Record.get? T.entries name = none ∧ Record.get? T'.entries name = none) ∨
      ∃ document document', Record.get? T.entries name = some document ∧
        Record.get? T'.entries name = some document' ∧
        ReorderedDocument (.text name, document) (.text name, document') := by
  obtain @⟨named, _, _, all, perm⟩ := tables
  exact Record.get?_reordered named.distinct all ReorderedDocument.keys perm name

/-- A reordered table contains the same names. -/
lemma Table.Reordered.contains (tables : T.Reordered T') : T'.contains = T.contains := by
  funext name
  unfold Table.contains Record.contains
  obtain ⟨en, en'⟩ | ⟨_, _, ev, ev', _⟩ := tables.get? name
  · rw [en, en']
  · rw [ev, ev']
    rfl

/-- Under a name a reordered table has the same schema in another order. -/
lemma Table.Reordered.schema? {name schema} (tables : T.Reordered T')
    (distincts : T.All (DistinctNames T.contains)) (es : T.schema? name = .ok (some schema)) :
    ∃ schema', T'.schema? name = .ok (some schema') ∧ Schema.Shuffled schema schema' := by
  obtain ⟨_, en⟩ | ⟨document, _, eg, ec, es⟩ := Table.schema?_ok_iff.1 es
  · cases en
  · cases es
    obtain ⟨document', eg', r⟩ : ∃ document', Record.get? T'.entries name = some document' ∧
        RecordSchema.Reordered document document' := by
      obtain ⟨en, _⟩ | ⟨_, document', ed, eg', r⟩ := tables.get? name
      · cases en.symm.trans eg
      · cases eg.symm.trans ed
        cases r with
        | same =>
          obtain ⟨_, _, rfl, _⟩ := Schema.compile_ok_iff.1 ec
          exact ⟨_, eg', .refl⟩
        | document r => exact ⟨document', eg', r⟩
    obtain ⟨schema', ec', shuffled⟩ := r.compile (distincts _ _ eg) ec
    rw [← tables.contains] at ec'
    exact ⟨schema', Table.schema?_ok_iff.2 (.inr ⟨document', schema', eg', ec', rfl⟩), shuffled⟩

/-- What a reordered table gives for a name is the shuffled schema that the well-formed document of the
name compiles to. -/
lemma Table.Reordered.schema?_back {name schema'} (tables : T.Reordered T')
    (sound : T.All (WellFormed T.contains)) (distincts : T.All (DistinctNames T.contains))
    (es' : T'.schema? name = .ok (some schema')) :
    ∃ schema, T.schema? name = .ok (some schema) ∧ Schema.Shuffled schema schema' := by
  obtain ⟨_, en⟩ | ⟨_, _, ed', _, _⟩ := Table.schema?_ok_iff.1 es'
  · cases en
  · obtain ⟨_, en'⟩ | ⟨document, _, eg, _, _⟩ := tables.get? name
    · cases en'.symm.trans ed'
    · obtain ⟨schema, ec⟩ := (sound name document eg).compile
      have es : T.schema? name = .ok (some schema) :=
        Table.schema?_ok_iff.2 (.inr ⟨document, schema, eg, ec, rfl⟩)
      obtain ⟨other, eo, shuffled⟩ := tables.schema? distincts es
      cases es'.symm.trans eo
      exact ⟨schema, es, shuffled⟩

end Table

namespace Assertion

variable {F : Functions} {T T' : Table}

/-- A turned property is no harder. -/
lemma Eases.of_turned {p p' : Property} (turned : p.Turned p') : Eases Schema.Shuffled p p' := by
  obtain ⟨name, optional, transforms, rules, nesting⟩ := turned
  exact ⟨name, transforms, optional.trans, fun _ mem => rules.mem_iff.2 mem, nesting⟩

/-- A property is no harder than when it is turned. -/
lemma Eases.of_turned_back {p p' : Property} (turned : p.Turned p') :
    Eases (flip Schema.Shuffled) p' p := by
  obtain ⟨name, optional, transforms, rules, nesting⟩ := turned
  exact ⟨name.symm, transforms.symm, optional.symm.trans, fun _ mem => rules.mem_iff.1 mem,
    nesting.flip⟩

/-- Turned properties keep their names. -/
lemma names_of_turned {schema mid : Schema} (all : List.Forall₂ Property.Turned schema mid) :
    mid.map Property.name = schema.map Property.name := by
  induction all with
  | nil => rfl
  | cons turned _ ih =>
    obtain ⟨name⟩ := turned
    rw [List.map_cons, List.map_cons, name, ih]

/-- Shuffled schemas ease each other in both directions. -/
lemma Easing.of_reordered (tables : T.Reordered T') (distincts : T.All (DistinctNames T.contains)) :
    Easing T T' Schema.Shuffled where
  lookup es := tables.schema? distincts es
  row shuffled := by
    obtain @⟨_, mid, _, nodup, all, perm⟩ := shuffled
    rw [← names_of_turned all] at nodup
    exact ⟨mid, all.imp fun _ _ => Eases.of_turned, .inr ⟨nodup, perm⟩⟩

/-- Going back from a reordered table makes nothing harder. -/
lemma Easing.of_reordered_back (tables : T.Reordered T') (sound : T.All (WellFormed T.contains))
    (distincts : T.All (DistinctNames T.contains)) :
    Easing T' T (flip Schema.Shuffled) where
  lookup es' := tables.schema?_back sound distincts es'
  row shuffled := by
    obtain @⟨schema, mid, schema', nodup, all, perm⟩ := shuffled
    obtain ⟨mid', all', perm'⟩ := List.perm_comp_forall₂ perm.symm all.flip
    have nodup' : (mid'.map Property.name).Nodup := (perm'.map Property.name).nodup_iff.2 nodup
    exact ⟨mid', all'.imp fun _ _ => Eases.of_turned_back, .inr ⟨nodup', perm'⟩⟩

/-- The order of declarations only decides which failure is met first. With well-formed documents whose
names are distinct on every level, a record comes back exactly when it does with the entries of the
document, its inner documents, the table and the documents in it, and the fields of any rule set in
another order, and it is the same one. -/
theorem reordered_returns {document document'} (wf : WellFormed T.contains document)
    (sound : T.All (WellFormed T.contains)) (distinct : DistinctNames T.contains document)
    (distincts : T.All (DistinctNames T.contains)) (r : Reordered document document')
    (tables : T.Reordered T') (v : Value) :
    (∀ budget record, sanitizeWithin budget F T (.document document) v = .ok record ↔
      sanitizeWithin budget F T' (.document document') v = .ok record) ∧
    ∀ record, sanitize F T (.document document) v = .ok record ↔
      sanitize F T' (.document document') v = .ok record := by
  obtain ⟨schema, ec⟩ := wf.compile
  obtain ⟨schema', ec', shuffled⟩ := r.compile distinct ec
  rw [← tables.contains] at ec'
  have within : ∀ budget record, sanitizeWithin budget F T (.document document) v = .ok record ↔
      sanitizeWithin budget F T' (.document document') v = .ok record := by
    intro budget record
    constructor
    · exact (Easing.of_reordered tables distincts).sanitizeWithin ec ec' shuffled
    · exact (Easing.of_reordered_back tables sound distincts).sanitizeWithin ec' ec shuffled
  exact ⟨within, fun record => within (budgetFor v) record⟩

/-- The rules of an integer. -/
def integerRules : Mapping where
  entries := [(.text "type", .text "number"), (.text "isInteger", .bool true)]
  distinct := by simp [Record.Distinct, Record.keys]

/-- The entries of a document for nodes that have a tag, and may have a next node. -/
def taggedNode : Record :=
  [(.text "tag", .record false [(.text "type", .text "tag")]),
    (.text "next?", .record false [(.text "type", .text "node")])]

/-- The documents of such nodes and of tags, which have a count. -/
def tagDocuments : Mapping where
  entries := [
    (.text "tag", .record false [(.text "count", integerRules.toValue false)]),
    (.text "node", .record false taggedNode)]
  distinct := by simp [Record.Distinct, Record.keys]

/-- The table of those documents. -/
def tagTable : Table :=
  ⟨tagDocuments.entries⟩

/-- The same with everything the other way round. -/
def tagTableBack : Table :=
  ⟨[(.text "node", .record false taggedNode.reverse),
    (.text "tag", .record false [(.text "count", .record false integerRules.entries.reverse)])]⟩

/-- An inner document with two names. -/
def sides : Record :=
  [(.text "width", .record false [(.text "type", .text "number")]),
    (.text "label?", .record false [(.text "transform", .list [.text "trim"])])]

/-- The fields of the rule set of a box. -/
def boxFields : Mapping where
  entries := [(.text "type", .text "object"), (.text "properties", .record false sides)]
  distinct := by simp [Record.Distinct, Record.keys]

/-- A document for a box and a node. -/
def boxAndNode : Value :=
  .record false [
    (.text "box", boxFields.toValue false),
    (.text "head", .record false [(.text "type", .text "node")])]

/-- The same with everything the other way round. -/
def nodeAndBox : Value :=
  .record false [
    (.text "head", .record false [(.text "type", .text "node")]),
    (.text "box", .record false [
      (.text "properties", .record false sides.reverse), (.text "type", .text "object")])]

/-- The documents of the example are the same in another order. -/
lemma boxAndNode_reordered : Reordered boxAndNode nodeAndBox := by
  have box : ReorderedEntry (.text "box", boxFields.toValue false)
      (.text "box", .record false [
        (.text "properties", .record false sides.reverse), (.text "type", .text "object")]) :=
    .fields (.cons .same (.cons (.inner (.of_perm (.swap _ _ _))) .nil)) (.swap _ _ _)
  exact .intro (.cons box (.cons .same .nil)) (.swap _ _ _)

/-- The tables of the example are the same in another order. -/
lemma tagTable_reordered : tagTable.Reordered tagTableBack := by
  have count : ReorderedEntry (.text "count", integerRules.toValue false)
      (.text "count", .record false integerRules.entries.reverse) :=
    .fields (List.forall₂_same.2 fun _ _ => .same) (.swap _ _ _)
  have tag : Reordered (.record false [(.text "count", integerRules.toValue false)])
      (.record false [(.text "count", .record false integerRules.entries.reverse)]) :=
    .intro (.cons count .nil) (.refl _)
  exact .intro (.cons (.document tag) (.cons (.document (.of_perm (.swap _ _ _))) .nil))
    (.swap _ _ _)

/-- The names in the documents of the table are distinct. -/
lemma distinct_tagTable : tagTable.All (DistinctNames tagTable.contains) := by
  have tag : DistinctNames tagTable.contains
      (.record false [(.text "count", integerRules.toValue false)]) := by
    apply DistinctNames.of_flat (by decide)
    intro entry mem frozen fields e
    cases List.mem_singleton.1 mem
    cases e
    rfl
  have node : DistinctNames tagTable.contains (.record false taggedNode) := by
    apply DistinctNames.of_flat (by decide)
    intro entry mem frozen fields e
    simp only [taggedNode, List.mem_cons, List.not_mem_nil, or_false] at mem
    rcases mem with rfl | rfl <;> cases e <;> rfl
  exact Table.all_cons tag (Table.all_singleton node)

/-- The names in the document of the example are distinct. -/
lemma distinct_boxAndNode : DistinctNames tagTable.contains boxAndNode := by
  refine .intro (by decide) ?_
  intro key frozen fields document mem _ ei
  simp only [List.mem_cons, List.not_mem_nil, or_false, Prod.mk.injEq, Value.record.injEq] at mem
  rcases mem with ⟨_, _, rfl⟩ | ⟨_, _, rfl⟩
  · cases ei
    apply DistinctNames.of_flat (by decide)
    intro entry mem frozen fields e
    simp only [sides, List.mem_cons, List.not_mem_nil, or_false] at mem
    rcases mem with rfl | rfl <;> cases e <;> rfl
  · cases ei

/-- A box and a node come back the same from documents that are the other way round. -/
theorem reordered_returns_nodeAndBox :
    let data : Value := .record true [
      (.text "head", .record false [(.text "tag", .record false [(.text "count", .int 3)])]),
      (.text "box", .record false [(.text "label", .text " a "), (.text "width", .int 3)])]
    let result : Record := [
      (.text "head", .record false [(.text "tag", .record false [(.text "count", .int 3)])]),
      (.text "box", .record false [(.text "label", .text "a"), (.text "width", .int 3)])]
    WellFormed tagTable.contains boxAndNode ∧ tagTable.All (WellFormed tagTable.contains) ∧
      DistinctNames tagTable.contains boxAndNode ∧
      tagTable.All (DistinctNames tagTable.contains) ∧
      Reordered boxAndNode nodeAndBox ∧ tagTable.Reordered tagTableBack ∧
      sanitize .builtin tagTable (.document boxAndNode) data = .ok result ∧
      sanitize .builtin tagTableBack (.document nodeAndBox) data = .ok result := by
  intro data result
  have wf : WellFormed tagTable.contains boxAndNode := wellFormed_iff.2 ⟨_, rfl⟩
  have sound : tagTable.All (WellFormed tagTable.contains) :=
    Table.all_cons (wellFormed_iff.2 ⟨_, rfl⟩) (Table.all_singleton (wellFormed_iff.2 ⟨_, rfl⟩))
  have returned : sanitize .builtin tagTable (.document boxAndNode) data = .ok result := by
    cbv
  have again : sanitize .builtin tagTableBack (.document nodeAndBox) data = .ok result :=
    ((reordered_returns wf sound distinct_boxAndNode distinct_tagTable boxAndNode_reordered
      tagTable_reordered data).2 result).1 returned
  exact ⟨wf, sound, distinct_boxAndNode, distinct_tagTable, boxAndNode_reordered,
    tagTable_reordered, returned, again⟩

end Assertion

end RecordSchema
