import RecordSchema.Proofs.Document
import RecordSchema.Proofs.Reach

/-!
# Where failures are located

Schemas that a walk gets to are compiled in the table of the walk (`Compiled.of_reaches`), so a
reference always leads to a schema (`not_dangling`). With `walk_error` it follows that the failure of
a run that no function stops is located at the first property that fails (`failure_located`).
-/

namespace RecordSchema.Assertion

variable {F : Functions} {T : Table}

/-- A schema is what some document compiles to among the names of a table. -/
def Compiled (T : Table) (schema : Schema) : Prop :=
  ∃ document, Schema.compile (.total T.contains) document = .ok schema

/-- The properties of a compiled schema are compiled rule sets. -/
lemma Compiled.property {schema p} (c : Compiled T schema) (mem : p ∈ schema) :
    ∃ key fields, Schema.CompilesTo T.contains key fields p := by
  obtain ⟨document, ec⟩ := c
  obtain ⟨_, _, _, all⟩ := Schema.compile_ok_iff.1 ec
  obtain ⟨_, _, ⟨c⟩⟩ := exists_left_of_mem all mem
  exact ⟨_, _, c⟩

/-- A reference in a compiled schema is to a name of the table. -/
lemma Compiled.target {schema : Schema} {p target} (c : Compiled T schema) (mem : p ∈ schema)
    (en : p.nesting = .reference target) : T.contains target = true := by
  obtain ⟨key, fields, c⟩ := c.property mem
  cases c with
  | reference _ et =>
    cases en
    exact (RuleSet.of_target? et).2
  | inline => cases en
  | plain => cases en

/-- A property of a compiled schema descends into its value with a compiled schema. -/
lemma Compiled.descends {schema p v schema?} (c : Compiled T schema) (mem : p ∈ schema)
    (d : Descends T p v schema?) : ∃ inner, schema? = some inner ∧ Compiled T inner := by
  cases d with
  | reference en es =>
    obtain ⟨document, inner, _, ec, rfl⟩ := Table.schema?_of_contains (c.target mem en) es
    exact ⟨inner, rfl, document, ec⟩
  | inline en ew =>
    obtain ⟨key, fields, c⟩ := c.property mem
    cases c with
    | reference => cases en
    | inline _ _ _ _ ec =>
      cases en
      exact ⟨_, rfl, _, ec⟩
    | plain => cases en

/-- Whatever property a walk with a compiled schema gets to belongs to a compiled schema. -/
lemma Compiled.of_reaches {schema record chain p mid} (c : Compiled T schema)
    (r : Reaches F T schema record chain p mid) : ∃ own, Compiled T own ∧ p ∈ own := by
  induction r with
  | here => exact ⟨_, c, List.mem_append_right _ List.mem_cons_self⟩
  | nested _ _ d _ _ ih =>
    obtain ⟨inner, e, compiled⟩ := c.descends (List.mem_append_right _ List.mem_cons_self) d
    cases e
    exact ih compiled

/-- No property that a walk with a compiled schema gets to refers to nothing. -/
lemma not_dangling {schema record chain p mid w} (c : Compiled T schema)
    (r : Reaches F T schema record chain p mid) : ¬Descends T p w none := by
  intro d
  obtain ⟨own, compiled, mem⟩ := c.of_reaches r
  obtain ⟨inner, e, _⟩ := compiled.descends mem d
  cases e

/-- No function that is called while a value is asserted against a document stops the run. -/
def Undisturbed (F : Functions) (T : Table) (document v : Value) : Prop :=
  ∀ schema record chain p mid fault, Schema.compile T.resolves document = .ok schema →
    v.entries? = some record → Reaches F T schema record chain p mid → ¬Raises F T p mid fault

/-- Functions that never stop a run do not stop any. -/
lemma Undisturbed.of_total {document v}
    (transforms : ∀ name f, F.transforms.get? name = some f → ∀ v fault, f v ≠ .error fault)
    (rules : ∀ name holds, F.rules.get? name = some holds →
      ∀ v argument fault, holds v argument ≠ .error fault) :
    Undisturbed F T document v := by
  intro schema record chain p mid fault _ _ _ raises
  cases raises with
  | transform _ et =>
    obtain ⟨_, name, _, f, w, _, _, ef, raised⟩ := applyAll_error et
    exact transforms name f ef w fault raised
  | rule _ _ _ _ er eh => exact rules _ _ er _ _ _ eh

/-- What the first failing step of a property of a record blames: the rule that a failure tells and
the value that it shows. -/
inductive Blames (F : Functions) (T : Table) (p : Property) (record : Record) :
    Option Text → Value → Prop where
  | missing :
    Record.get? record p.name = none →
    p.optional = false →
    Blames F T p record (some "required") .null
  | notMapping {w} :
    Transforms F p record w →
    p.nesting ≠ .plain →
    w.entries? = none →
    Blames F T p record (some "type") .null
  | unknown {w before rule argument after} :
    Transforms F p record w →
    Clears F T p w →
    p.rules = before ++ (rule, argument) :: after →
    (∀ rule ∈ before, Holds F.rules w rule) →
    F.rules.get? rule = none →
    Blames F T p record (some "unknown") .null
  | refused {w before rule argument after holds} :
    Transforms F p record w →
    Clears F T p w →
    p.rules = before ++ (rule, argument) :: after →
    (∀ rule ∈ before, Holds F.rules w rule) →
    F.rules.get? rule = some holds →
    holds w argument = .ok false →
    Blames F T p record (some rule) w

/-- What descends is not plain. -/
lemma Descends.ne_plain {p : Property} {w schema?} (d : Descends T p w schema?) :
    p.nesting ≠ .plain := by
  cases d with
  | reference en => rw [en]; nofun
  | inline en => rw [en]; nofun

/-- A property that fails, though no function stops the run and its reference leads somewhere, fails
for a fault of a schema or with a violation of its own that is blamed on its first failing step. -/
lemma Fails.blames {p record fault} (fails : Fails F T p record fault)
    (calm : ¬Raises F T p record fault) (leads : ∀ w, ¬Descends T p w none) :
    (∃ flaw, fault = .schema flaw) ∨
      ∃ violation, fault = .violated [p.name] violation ∧
        Blames F T p record violation.rule? violation.value := by
  cases fails with
  | missing eg eo => exact .inr ⟨_, rfl, .missing eg eo⟩
  | raised raises => exact (calm raises).elim
  | lookup _ _ es => exact .inl (Table.schema?_error es)
  | dangling _ d _ => exact (leads _ d).elim
  | notRecord t d ew => exact .inr ⟨_, rfl, .notMapping t d.ne_plain ew⟩
  | notObject t er ew => exact .inr ⟨_, rfl, .notMapping t (by rw [er]; nofun) ew⟩
  | unknown t clears stated hold er => exact .inr ⟨_, rfl, .unknown t clears stated hold er⟩
  | refused t clears stated hold er eh => exact .inr ⟨_, rfl, .refused t clears stated hold er eh⟩

/-- The path of a failure below some properties, as one text. -/
lemma property?_beneath {chain : List Property} {p : Property} {violation} :
    Failure.property? ⟨chain.map Property.name ++ [p.name], violation⟩ =
      some (Text.intercalate "." ((chain ++ [p]).map Property.name)) := by
  rw [List.map_append, List.map_singleton]
  cases chain <;> rfl

/-- The failure of a run that no function stops tells nothing but that the data is no mapping, or it
is located at a property that the run gets to, by the names on the way, and blames the first failing
step of that property. -/
theorem failure_located {budget document v failure} (calm : Undisturbed F T document v)
    (e : sanitizeWithin budget F T (.document document) v = .error (.failure failure)) :
    (v.entries? = none ∧ failure.property? = none ∧ failure.rule? = some "type" ∧
      failure.value = .null) ∨
    ∃ schema record chain p mid, Schema.compile T.resolves document = .ok schema ∧
      v.entries? = some record ∧ Reaches F T schema record chain p mid ∧
      failure.property? = some (Text.intercalate "." ((chain ++ [p]).map Property.name)) ∧
      Blames F T p mid failure.rule? failure.value := by
  rcases bind_error_iff.1 e with ec | ⟨schema, ec, ew⟩
  · obtain ⟨flaw, ef⟩ := Schema.compile_error ec
    cases ef
  · obtain ⟨en, ef⟩ | ⟨record, chain, p, mid, inner, en, reaches, fails, ef⟩ :=
      walk_error ew nofun
    · cases ef
      exact .inl ⟨en, rfl, rfl, rfl⟩
    · have compiled : Compiled T schema := ⟨document, ec⟩
      obtain ⟨flaw, rfl⟩ | ⟨violation, rfl, blames⟩ :=
        fails.blames (calm _ _ _ _ _ _ ec en reaches) fun w => not_dangling compiled reaches
      · rw [Fault.beneath_schema] at ef
        cases ef
      · rw [Fault.beneath_violated] at ef
        cases ef
        exact .inr ⟨schema, record, chain, p, mid, ec, en, reaches, property?_beneath, blames⟩

/-- The functions of the rule `type` and the transform `trim`, which never stop a run. -/
def typeAndTrim : Functions :=
  ⟨.ofList [("type", Rule.type)], .ofList [("trim", Transform.trim)]⟩

/-- The table of a schema for nodes with a text. -/
def nodeTable : Table :=
  ⟨[(.text "node", .record false [(.text "id", .record false [(.text "type", .text "string")])])]⟩

/-- A document that wants a node inside of a record. -/
def nodeHolder : Value :=
  .record false [
    (.text "head", .record false [(.text "properties", .record false [
      (.text "node?", .record false [(.text "type", .text "node")])])])]

/-- A node whose text is a number. -/
def numberedNode : Value :=
  .record false [
    (.text "head", .record false [(.text "node", .record false [(.text "id", .int 7)])])]

/-- A node whose text is a number is blamed for its type, at the end of the names that lead to it. -/
theorem failure_located_numberedNode :
    Undisturbed typeAndTrim nodeTable nodeHolder numberedNode ∧
    sanitizeWithin 4 typeAndTrim nodeTable (.document nodeHolder) numberedNode =
      .error (.violated ["head", "node", "id"] (.failedRule "type" "id" (.int 7))) ∧
    ∃ schema record chain p mid, Schema.compile nodeTable.resolves nodeHolder = .ok schema ∧
      numberedNode.entries? = some record ∧ Reaches typeAndTrim nodeTable schema record chain p mid ∧
      some ("head.node.id" : Text) = some (Text.intercalate "." ((chain ++ [p]).map Property.name)) ∧
      Blames typeAndTrim nodeTable p mid (some "type") (.int 7) := by
  have calm : Undisturbed typeAndTrim nodeTable nodeHolder numberedNode := by
    apply Undisturbed.of_total
    · intro name f ef v fault e
      have found : List.lookup name [("trim", Transform.trim)] = some f := ef
      simp only [List.lookup] at found
      split at found <;> cases found
      cases v <;> cases e
    · intro name holds ef v argument fault e
      have found : List.lookup name [("type", Rule.type)] = some holds := ef
      simp only [List.lookup] at found
      split at found <;> cases found
      cases e
  have failed : sanitizeWithin 4 typeAndTrim nodeTable (.document nodeHolder) numberedNode =
      .error (.violated ["head", "node", "id"] (.failedRule "type" "id" (.int 7))) := by
    cbv
  refine ⟨calm, failed, ?_⟩
  obtain ⟨en, _⟩ | located := failure_located calm failed
  · cases en
  · exact located

end RecordSchema.Assertion
