import RecordSchema.Proofs.Acceptance
import RecordSchema.Proofs.Easing

/-!
# Relaxed schemas

A schema is relaxed by marking properties as optional and deleting rules, at any inline depth
(`Property.Relaxed`), and a table by doing so in what its documents compile to (`Table.Relaxed`). A
relaxed property eases the one that it was, so data that was accepted gives the same record as before
(`relaxed_returns`).
-/

namespace RecordSchema

/-- A property, and the same with rules deleted or marked as optional, perhaps in its inner schema. -/
inductive Property.Relaxed : Property → Property → Prop where
  | intro {p p' : Property} :
    p'.name = p.name →
    p'.transforms = p.transforms →
    (p.optional = true → p'.optional = true) →
    p'.rules.Sublist p.rules →
    p.nesting.Related (List.Forall₂ Relaxed) p'.nesting →
    Relaxed p p'

/-- A schema, and the same with its properties relaxed. -/
abbrev Schema.Relaxed : Schema → Schema → Prop :=
  List.Forall₂ Property.Relaxed

/-- A table, and one whose documents compile to relaxed schemas wherever those of the first compile. -/
def Table.Relaxed (T T' : Table) : Prop :=
  ∀ name schema, T.schema? name = .ok (some schema) →
    ∃ schema', T'.schema? name = .ok (some schema') ∧ Schema.Relaxed schema schema'

namespace Assertion

variable {F : Functions} {T T' : Table}

/-- A relaxed property is easier. -/
lemma Eases.of_relaxed {p p' : Property} (relaxed : p.Relaxed p') : Eases Schema.Relaxed p p' := by
  obtain ⟨name, transforms, optional, rules, nesting⟩ := relaxed
  exact ⟨name, transforms, optional, fun rule mem => rules.subset mem, nesting⟩

/-- A relaxed table makes nothing harder. -/
lemma Easing.of_relaxed (tables : T.Relaxed T') : Easing T T' Schema.Relaxed where
  lookup es := tables _ _ es
  row relaxed := ⟨_, relaxed.imp fun _ _ => Eases.of_relaxed, .inl rfl⟩

/-- Relaxing never breaks data that was accepted. When assertion against a schema gives a record, so
does assertion against the same schema with properties marked as optional and rules deleted, at any
inline depth and in any named schemas, and the record is the same. -/
theorem relaxed_returns {source source' schema schema'} (ec : source.compile T.resolves = .ok schema)
    (ec' : source'.compile T'.resolves = .ok schema') (relaxed : Schema.Relaxed schema schema')
    (tables : T.Relaxed T') (v : Value) :
    (∀ budget record, sanitizeWithin budget F T source v = .ok record →
      sanitizeWithin budget F T' source' v = .ok record) ∧
    ∀ record, sanitize F T source v = .ok record → sanitize F T' source' v = .ok record := by
  have easing : Easing T T' Schema.Relaxed := .of_relaxed tables
  have within : ∀ budget record, sanitizeWithin budget F T source v = .ok record →
      sanitizeWithin budget F T' source' v = .ok record :=
    fun _ _ e => easing.sanitizeWithin ec ec' relaxed e
  exact ⟨within, fun record => within (budgetFor v) record⟩

/-- The schema of a box with a node in it. -/
def boxed : Schema :=
  [⟨"box", false, [], .inline [⟨"node", false, [], .reference "node", []⟩],
    [("type", .text "object")]⟩]

/-- The same without its rule, the node being optional. -/
def looselyBoxed : Schema :=
  [⟨"box", false, [], .inline [⟨"node", true, [], .reference "node", []⟩], []⟩]

/-- The schema of nodes whose name may be anything, or missing. -/
def looselyNamed : Schema :=
  [⟨"name", true, ["trim"], .plain, []⟩, ⟨"next", true, [], .reference "node", []⟩]

/-- The table of such nodes. -/
def looselyLinked : Table :=
  ⟨[(.text "node", .record false [
    (.text "name?", .record false [(.text "transform", .list [.text "trim"])]),
    (.text "next?", .record false [(.text "type", .text "node")])])]⟩

/-- The table of the example is relaxed to the other one. -/
lemma linkedTable_relaxed : linkedTable.Relaxed looselyLinked := by
  intro name schema es
  obtain ⟨_, en⟩ | ⟨document, _, eg, ec, es⟩ := Table.schema?_ok_iff.1 es
  · cases en
  · have mem := Record.mem_of_get? eg
    simp only [linkedTable, List.mem_singleton, Prod.mk.injEq, Value.text.injEq] at mem
    obtain ⟨rfl, rfl⟩ := mem
    cases es
    cases ec
    refine ⟨looselyNamed, rfl, ?_⟩
    have named : Property.Relaxed ⟨"name", false, ["trim"], .plain, [("type", .text "string")]⟩
        ⟨"name", true, ["trim"], .plain, []⟩ := .intro rfl rfl (fun _ => rfl) (List.nil_sublist _) .plain
    have next : Property.Relaxed ⟨"next", true, [], .reference "node", []⟩
        ⟨"next", true, [], .reference "node", []⟩ := .intro rfl rfl id .slnil .reference
    exact .cons named (.cons next .nil)

/-- A box with two nodes in it comes back as it did when the box and the nodes are relaxed. -/
theorem relaxed_returns_looselyBoxed :
    let data : Value := .record false [(.text "box", .record false [(.text "node", linkedNodes)])]
    let result : Record := [(.text "box", .record false [(.text "node", .record false [
      (.text "next", .record false [(.text "name", .text "b")]), (.text "name", .text "a")])])]
    Schema.Relaxed boxed looselyBoxed ∧ linkedTable.Relaxed looselyLinked ∧
      sanitize .builtin linkedTable (.compiled boxed) data = .ok result ∧
      sanitize .builtin looselyLinked (.compiled looselyBoxed) data = .ok result := by
  intro data result
  have node : Property.Relaxed ⟨"node", false, [], .reference "node", []⟩
      ⟨"node", true, [], .reference "node", []⟩ := .intro rfl rfl (fun _ => rfl) .slnil .reference
  have box : Schema.Relaxed boxed looselyBoxed :=
    .cons (.intro rfl rfl id (List.nil_sublist _) (.inline (.cons node .nil))) .nil
  have returned : sanitize .builtin linkedTable (.compiled boxed) data = .ok result := by
    cbv
  have again : sanitize .builtin looselyLinked (.compiled looselyBoxed) data = .ok result :=
    (relaxed_returns rfl rfl box linkedTable_relaxed data).2 result returned
  exact ⟨box, linkedTable_relaxed, returned, again⟩

end Assertion

end RecordSchema
