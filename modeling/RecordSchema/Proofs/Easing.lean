import RecordSchema.Proofs.Budget
import RecordSchema.Proofs.Row

/-!
# Schemas that ask for less

A property eases another one when it does the same to a value and asks for no more: it may be optional
where the other is not, has no other rules, and descends into a related schema (`Eases`). When related
schemas do so property by property, perhaps in another order, and the named schemas of two tables are
related (`Easing`), every record that a walk gives is given by the related walk as well
(`Easing.walk`).
-/

namespace RecordSchema

/-- Two properties descend alike: not at all, into the same named schema, or into related inner ones. -/
inductive Nesting.Related (R : Schema → Schema → Prop) :
    Nesting Property → Nesting Property → Prop where
  | plain :
    Related R .plain .plain
  | reference {target} :
    Related R (.reference target) (.reference target)
  | inline {inner inner'} :
    R inner inner' →
    Related R (.inline inner) (.inline inner')

/-- Related ways to descend are related the other way round. -/
lemma Nesting.Related.flip {R : Schema → Schema → Prop} {nesting nesting' : Nesting Property}
    (related : nesting.Related R nesting') : nesting'.Related (flip R) nesting := by
  cases related with
  | plain => exact .plain
  | reference => exact .reference
  | inline rel => exact .inline rel

/-- Two schemas have the same properties in another order, which does not matter as their names are
distinct. -/
def Schema.Rearranges (schema schema' : Schema) : Prop :=
  schema = schema' ∨ (schema.map Property.name).Nodup ∧ schema.Perm schema'

namespace Assertion

/-- A property asks for no more than another one, and makes the same of what it accepts. -/
structure Eases (R : Schema → Schema → Prop) (p p' : Property) : Prop where
  name : p'.name = p.name
  transforms : p'.transforms = p.transforms
  optional : p.optional = true → p'.optional = true
  rules : ∀ rule ∈ p'.rules, rule ∈ p.rules
  nesting : p.nesting.Related R p'.nesting

/-- Whatever a schema is related to eases it, perhaps in another order, and whatever the first table
gives for a name is related to what the second one gives. -/
structure Easing (T T' : Table) (R : Schema → Schema → Prop) : Prop where
  lookup : ∀ {name schema}, T.schema? name = .ok (some schema) →
    ∃ schema', T'.schema? name = .ok (some schema') ∧ R schema schema'
  row : ∀ {schema schema'}, R schema schema' →
    ∃ mid, List.Forall₂ (Eases R) schema mid ∧ Schema.Rearranges mid schema'

variable {F : Functions} {T T' : Table} {R : Schema → Schema → Prop}

/-- Without a schema no walk gives a record. -/
lemma walk_none_ne_ok {budget v record} :
    walk (tableServices T) F budget none v ≠ .ok record := by
  intro e
  cases budget with
  | zero => cases e
  | succ budget =>
    rw [walk_succ] at e
    cases en : v.entries? with
    | none =>
      rw [level_notRecord en] at e
      cases e
    | some entries =>
      rw [level_noSchema en] at e
      cases e

/-- A way to assert nested values gives every record that another way gives with a related schema, and
that other way gives none without a schema. -/
structure Covers (R : Schema → Schema → Prop) (next next' : Descent) : Prop where
  some : ∀ {schema schema' v record}, R schema schema' → next (some schema) v = .ok record →
    next' (some schema') v = .ok record
  none : ∀ {v record}, next none v ≠ .ok record

variable {next next' : Descent} {p p' : Property}

/-- Where a property descends with a schema, one that eases it descends with a related schema. -/
lemma Eases.descends {w schema} (eases : Eases R p p') (easing : Easing T T' R)
    (d : Descends T p w (some schema)) :
    ∃ schema', Descends T' p' w (some schema') ∧ R schema schema' := by
  have nesting := eases.nesting
  generalize en' : p'.nesting = after at nesting
  cases d with
  | reference en es =>
    rw [en] at nesting
    cases nesting with
    | reference =>
      obtain ⟨schema', es', rel⟩ := easing.lookup es
      exact ⟨schema', .reference en' es', rel⟩
  | inline en ew =>
    rw [en] at nesting
    cases nesting with
    | inline rel => exact ⟨_, .inline en' ew, rel⟩

/-- What a property descends to comes back from an easier one too. -/
lemma Eases.descend {w x} (eases : Eases R p p') (easing : Easing T T' R)
    (covers : Covers R next next') (e : descend (tableServices T) next p w = .ok x) :
    descend (tableServices T') next' p' w = .ok x := by
  obtain ⟨en, rfl⟩ | ⟨schema?, record, d, er, rfl⟩ := descend_ok_iff.1 e
  · have nesting := eases.nesting
    rw [en] at nesting
    generalize en' : p'.nesting = after at nesting
    cases nesting with
    | plain => exact descend_plain en'
  · cases schema? with
    | none => exact (covers.none er).elim
    | some schema =>
      obtain ⟨schema', d', rel⟩ := eases.descends easing d
      exact descend_ok_iff.2 (.inr ⟨_, record, d', covers.some rel er, rfl⟩)

/-- Where a property makes a record of another one, one that eases it makes the same record. -/
lemma Eases.step {record last} (eases : Eases R p p') (easing : Easing T T' R)
    (covers : Covers R next next') (e : step (tableServices T) F next record p = .ok last) :
    step (tableServices T') F next' record p' = .ok last := by
  obtain ⟨en, eo, rfl⟩ | ⟨v, x, ev, es, rfl⟩ := step_ok_iff.1 e
  · rw [← eases.name] at en
    exact step_ok_iff.2 (.inl ⟨en, eases.optional eo, rfl⟩)
  · obtain ⟨w, et, ed, hold⟩ := settle_ok_iff.1 es
    have settled : settle F T' next' p' v = .ok x := by
      refine settle_ok_iff.2 ⟨w, ?_, eases.descend easing covers ed, ?_⟩
      · rw [eases.transforms, et]
      · exact fun rule mem => hold rule (eases.rules rule mem)
    rw [← eases.name] at ev ⊢
    exact step_ok_iff.2 (.inr ⟨v, x, ev, settled, rfl⟩)

/-- What a row of properties gives, easier ones give too. -/
lemma row_eases {properties properties' : Schema} {record last} (easing : Easing T T' R)
    (covers : Covers R next next') (all : List.Forall₂ (Eases R) properties properties')
    (e : List.foldlM (step (tableServices T) F next) record properties = .ok last) :
    List.foldlM (step (tableServices T') F next') record properties' = .ok last := by
  induction all generalizing record with
  | nil => exact e
  | cons eases _ ih =>
    rw [List.foldlM_cons, bind_ok_iff] at e ⊢
    obtain ⟨mid, ep, e⟩ := e
    exact ⟨mid, eases.step easing covers ep, ih e⟩

/-- Every record that a walk gives is given by the walk with a related schema and table. -/
lemma Easing.walk (easing : Easing T T' R) {budget} :
    Covers R (walk (tableServices T) F budget) (walk (tableServices T') F budget) := by
  induction budget with
  | zero => exact ⟨nofun, nofun⟩
  | succ budget covers =>
    refine ⟨?_, walk_none_ne_ok⟩
    intro schema schema' v last rel e
    rw [walk_succ] at e ⊢
    cases en : v.entries? with
    | none =>
      rw [level_notRecord en] at e
      cases e
    | some record =>
      rw [level_record en] at e ⊢
      obtain ⟨mid, all, rfl | ⟨distinct, perm⟩⟩ := easing.row rel
      · exact row_eases easing covers all e
      · exact row_perm perm distinct (row_eases easing covers all e)

/-- Asserting against a related schema, with a table of related schemas, gives the same records. -/
lemma Easing.sanitizeWithin (easing : Easing T T' R) {budget source source' schema schema' v record}
    (ec : source.compile T.resolves = .ok schema) (ec' : source'.compile T'.resolves = .ok schema')
    (rel : R schema schema') (e : sanitizeWithin budget F T source v = .ok record) :
    RecordSchema.sanitizeWithin budget F T' source' v = .ok record := by
  rw [sanitizeWithin_eq ec] at e
  rw [sanitizeWithin_eq ec']
  exact easing.walk.some rel e

end Assertion

end RecordSchema
