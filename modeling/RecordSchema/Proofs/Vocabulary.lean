import RecordSchema.Proofs.Document

/-!
# Compiling against collections of names

Documents are compiled against the names of a table, or against those that a list, a tuple or a mapping
holds (`Vocabulary`). Whichever it is, the documents that compile are the well-formed ones, entry by
entry (`wellFormed_record_iff`), and any other is refused for a fault of its own, wherever in its inner
documents that lies. Rules of any name may be stated in a rule set (`AddsRule.wellFormed_iff`).
-/

namespace RecordSchema

/-- The collections that names are looked for in: a table, or a value that holds them. -/
inductive Vocabulary where
  | table (T : Table)
  | list (items : List Value)
  | tuple (items : List Value)
  | mapping (frozen : Bool) (entries : Record)

namespace Vocabulary

/-- What resolves against a collection. -/
def resolves : Vocabulary → Resolver
  | table T => T.resolves
  | list items => .ofValue (.list items)
  | tuple items => .ofValue (.tuple items)
  | mapping frozen entries => .ofValue (.record frozen entries)

/-- The members of a collection, those of a mapping being its keys. -/
def members : Vocabulary → List Value
  | table T => T.names
  | list items => items
  | tuple items => items
  | mapping _ entries => Record.keys entries

/-- Whether a name is among the members. -/
def contains (V : Vocabulary) (name : Text) : Bool :=
  V.members.any (·.isText name)

/-- A record contains the texts among its keys. -/
lemma any_keys {r : Record} {name} :
    (Record.keys r).any (·.isText name) = Record.contains r name := by
  rw [Record.contains, Record.get?, Option.isSome_map, Record.keys, List.any_map]
  exact List.isSome_find?.symm

/-- A name resolves exactly when it is among the members, and asking never fails. -/
lemma resolves_eq (V : Vocabulary) : V.resolves = .total V.contains := by
  funext name
  cases V with
  | table T => exact congrArg Except.ok any_keys.symm
  | list items => rfl
  | tuple items => rfl
  | mapping frozen entries => exact congrArg Except.ok any_keys.symm

end Vocabulary

variable {named : Text → Bool}

/-- An entry of a well-formed document: a rule set under a text, with transforms that are names, and
if it refers to no named schema with texts as keys and a well-formed inner document, if any. -/
inductive EntryWellFormed (named : Text → Bool) : Value × Value → Prop where
  | intro {key frozen fields} :
    RuleSet.NamesTransforms fields →
    (RuleSet.target? named fields = none → RuleSet.KeysText fields) →
    (∀ document, RuleSet.target? named fields = none → RuleSet.inner? fields = some document →
      WellFormed named document) →
    EntryWellFormed named (.text key, .record frozen fields)

/-- A mapping is a well-formed document when each of its entries is well formed. -/
lemma wellFormed_record_iff {frozen entries} :
    WellFormed named (.record frozen entries) ↔ ∀ entry ∈ entries, EntryWellFormed named entry := by
  constructor
  · rintro ⟨texts, names, keys, inner⟩ entry mem
    obtain ⟨key, frozen, fields, rfl⟩ := texts entry mem
    exact .intro (names _ _ _ mem) (keys _ _ _ mem) fun document => inner _ _ _ document mem
  · intro each
    refine .intro ?_ ?_ ?_ ?_
    · intro entry mem
      cases each entry mem
      exact ⟨_, _, _, rfl⟩
    · intro key frozen fields mem
      cases each _ mem
      assumption
    · intro key frozen fields mem
      cases each _ mem
      assumption
    · intro key frozen fields document mem
      cases each _ mem with
      | intro _ _ inner => exact inner document

/-- Swapping an entry for one that is as well-formed keeps what a document is. -/
lemma wellFormed_swap {frozen before entry entry' after}
    (e : EntryWellFormed named entry' ↔ EntryWellFormed named entry) :
    WellFormed named (.record frozen (before ++ entry' :: after)) ↔
      WellFormed named (.record frozen (before ++ entry :: after)) := by
  simp only [wellFormed_record_iff, List.mem_append, List.mem_cons, or_imp, forall_and, forall_eq, e]

/-- Rule sets with the same transforms and the same `type`, whose keys are texts and whose inner
documents are well formed alike, are well formed alike. -/
lemma entryWellFormed_congr {key frozen fields fields'}
    (transform : Record.get? fields' "transform" = Record.get? fields "transform")
    (type : Record.get? fields' "type" = Record.get? fields "type")
    (texts : RuleSet.KeysText fields' ↔ RuleSet.KeysText fields)
    (inner : (∀ document, RuleSet.inner? fields' = some document → WellFormed named document) ↔
      ∀ document, RuleSet.inner? fields = some document → WellFormed named document) :
    EntryWellFormed named (key, .record frozen fields') ↔
      EntryWellFormed named (key, .record frozen fields) := by
  have names : RuleSet.NamesTransforms fields' ↔ RuleSet.NamesTransforms fields := by
    rw [RuleSet.NamesTransforms, RuleSet.NamesTransforms, transform]
  have target : RuleSet.target? named fields' = RuleSet.target? named fields := by
    rw [RuleSet.target?, RuleSet.target?, type]
  constructor
  · rintro ⟨sound, keys, below⟩
    rw [target] at keys below
    refine .intro (names.1 sound) (fun et => texts.1 (keys et)) ?_
    exact fun document et => inner.1 (fun document => below document et) document
  · rintro ⟨sound, keys, below⟩
    rw [← target] at keys below
    refine .intro (names.2 sound) (fun et => texts.2 (keys et)) ?_
    exact fun document et => inner.2 (fun document => below document et) document

/-- The keys of a rule set that do not simply state a rule. -/
def RuleSet.reserved : List Text :=
  ["transform", "type", "properties"]

/-- A document, and the same with one more rule stated in a rule set that inner documents lead to. -/
inductive AddsRule (rule : Text) (argument : Value) : Value → Value → Prop where
  | here {frozen key readOnly} {before first last after : Record} :
    AddsRule rule argument
      (.record frozen (before ++ (.text key, .record readOnly (first ++ last)) :: after))
      (.record frozen (before ++
        (.text key, .record readOnly (first ++ (.text rule, argument) :: last)) :: after))
  | inside {frozen key readOnly document document'} {before fields after : Record} :
    Record.get? fields "properties" = some document →
    AddsRule rule argument document document' →
    AddsRule rule argument
      (.record frozen (before ++ (.text key, .record readOnly fields) :: after))
      (.record frozen (before ++
        (.text key, .record readOnly (Record.set fields "properties" document')) :: after))

/-- A rule that is put in does not matter to what is under other names. -/
lemma Record.get?_insert {first last : Record} {rule name argument} (ne : name ≠ rule) :
    Record.get? (first ++ (.text rule, argument) :: last) name =
      Record.get? (first ++ last) name := by
  have other : (Value.text rule).isText name = false := by
    simpa [Value.isText] using ne.symm
  simp [Record.get?, List.find?_append, other]

/-- A rule is put into a mapping, and gives a mapping. -/
lemma AddsRule.mappings {rule argument document document'}
    (adds : AddsRule rule argument document document') :
    (∃ frozen entries, document = .record frozen entries) ∧
      ∃ frozen entries, document' = .record frozen entries := by
  cases adds <;> exact ⟨⟨_, _, rfl⟩, _, _, rfl⟩

/-- A document is well formed whatever rules are stated in it. -/
lemma AddsRule.wellFormed_iff {rule argument document document'}
    (adds : AddsRule rule argument document document') (free : rule ∉ RuleSet.reserved) :
    WellFormed named document' ↔ WellFormed named document := by
  simp only [RuleSet.reserved, List.mem_cons, List.not_mem_nil, or_false, not_or] at free
  obtain ⟨transform, type, properties⟩ := free
  induction adds with
  | here =>
    apply wellFormed_swap
    apply entryWellFormed_congr
    · exact Record.get?_insert (Ne.symm transform)
    · exact Record.get?_insert (Ne.symm type)
    · simp [RuleSet.KeysText, or_imp, forall_and]
    · rw [RuleSet.inner?, RuleSet.inner?, Record.get?_insert (Ne.symm properties)]
  | @inside _ _ _ _ _ _ fields _ ed adds ih =>
    obtain ⟨⟨_, _, rfl⟩, _, _, rfl⟩ := adds.mappings
    apply wellFormed_swap
    apply entryWellFormed_congr
    · exact Record.get?_set_of_ne fields (by decide) _
    · exact Record.get?_set_of_ne fields (by decide) _
    · rw [← Schema.ruleIssues_eq_nil_iff, ← Schema.ruleIssues_eq_nil_iff,
        (RuleSet.rules_set_properties fields _).2]
    · rw [RuleSet.inner?_set_properties, RuleSet.inner?, ed]
      simp only [Option.some.injEq, forall_eq', ih]

namespace Schema

/-- Against any collection of names, a document compiles exactly when it is well formed, and it is
refused for a fault of its own in every other case. Rules never matter: one of any name, known or not,
may be stated in any rule set at any inline depth, or left out. -/
theorem compiles_iff_wellFormed (V : Vocabulary) (document : Value) :
    ((∃ schema, compile V.resolves document = .ok schema) ↔ WellFormed V.contains document) ∧
      (¬WellFormed V.contains document →
        ∃ flaw, compile V.resolves document = .error (.schema flaw)) ∧
      ∀ rule argument document', rule ∉ RuleSet.reserved →
        AddsRule rule argument document document' →
        ((∃ schema, compile V.resolves document' = .ok schema) ↔
          ∃ schema, compile V.resolves document = .ok schema) := by
  rw [V.resolves_eq]
  refine ⟨wellFormed_iff.symm, ?_, ?_⟩
  · intro malformed
    cases ec : compile (.total V.contains) document with
    | ok schema => exact (malformed (.of_compile ec)).elim
    | error fault =>
      obtain ⟨flaw, rfl⟩ := compile_error ec
      exact ⟨flaw, rfl⟩
  · intro rule argument document' free adds
    rw [← wellFormed_iff, ← wellFormed_iff]
    exact adds.wellFormed_iff free

/-- A document of boxes, whose inner document has the given rule set for sizes. -/
def boxes (size : Record) : Value :=
  .record false [
    (.text "next?", .record false [(.text "type", .text "box"), (.int 1, .null)]),
    (.text "shape", .record false [(.text "properties", .record true [
      (.text "size", .record false size)])])]

/-- Against a list that holds their name, boxes may have sizes with a rule that nobody knows, but none
with a transform that is no name. -/
theorem compiles_boxes :
    WellFormed (Vocabulary.list [.text "box"]).contains (boxes [(.text "type", .text "number")]) ∧
      ¬WellFormed (Vocabulary.list [.text "box"]).contains
        (boxes [(.text "transform", .tuple [.text "trim", .int 1])]) ∧
      (∃ flaw, compile (Vocabulary.list [.text "box"]).resolves
        (boxes [(.text "transform", .tuple [.text "trim", .int 1])]) = .error (.schema flaw)) ∧
      ("colour" : Text) ∉ RuleSet.reserved ∧
      AddsRule "colour" (.text "red") (boxes [(.text "type", .text "number")])
        (boxes [(.text "type", .text "number"), (.text "colour", .text "red")]) ∧
      ∃ schema, compile (Vocabulary.list [.text "box"]).resolves
        (boxes [(.text "type", .text "number"), (.text "colour", .text "red")]) = .ok schema := by
  obtain ⟨accepted, _, rules⟩ := compiles_iff_wellFormed (.list [.text "box"])
    (boxes [(.text "type", .text "number")])
  obtain ⟨refused, flawed, _⟩ := compiles_iff_wellFormed (.list [.text "box"])
    (boxes [(.text "transform", .tuple [.text "trim", .int 1])])
  have compiled : ∃ schema, compile (Vocabulary.list [.text "box"]).resolves
      (boxes [(.text "type", .text "number")]) = .ok schema := ⟨_, rfl⟩
  have malformed : ¬WellFormed (Vocabulary.list [.text "box"]).contains
      (boxes [(.text "transform", .tuple [.text "trim", .int 1])]) := by
    intro wf
    obtain ⟨schema, e⟩ := refused.2 wf
    cases e
  have free : ("colour" : Text) ∉ RuleSet.reserved := by
    decide
  have inner := @AddsRule.here "colour" (.text "red") true "size" false []
    [(.text "type", .text "number")] [] []
  have adds : AddsRule "colour" (.text "red") (boxes [(.text "type", .text "number")])
      (boxes [(.text "type", .text "number"), (.text "colour", .text "red")]) :=
    @AddsRule.inside _ _ false "shape" false _ _ [_] _ [] rfl inner
  exact ⟨accepted.1 compiled, malformed, flawed malformed, free, adds,
    (rules _ _ _ free adds).2 compiled⟩

end Schema

end RecordSchema
