import RecordSchema.Proofs.Acceptance
import RecordSchema.Proofs.Outcome
import RecordSchema.Proofs.Vocabulary

/-!
# Unused names

A name is mentioned by a document where some rule set of it, at any inline depth, has the name as its
`type`, as a key, or among its transforms. Compiling asks about the names that are mentioned as a `type`
(`compile_congr`), and a compiled property mentions what its rule set does (`mentions_of_compile`), so
walks with functions and tables that differ in names nobody mentions are one and the same
(`walk_congr`). A table or a registry may thus be extended by unused names (`unused_outcome`).
-/

namespace RecordSchema

/-- A rule set of a document, at any inline depth. -/
inductive RuleSetIn : Value → Record → Prop where
  | here {frozen key readOnly} {entries fields : Record} :
    (key, .record readOnly fields) ∈ entries →
    RuleSetIn (.record frozen entries) fields
  | inside {frozen key readOnly document below} {entries fields : Record} :
    (key, .record readOnly fields) ∈ entries →
    RuleSet.inner? fields = some document →
    RuleSetIn document below →
    RuleSetIn (.record frozen entries) below

/-- A property of a schema, at any inline depth. -/
inductive PropertyIn : Schema → Property → Prop where
  | here {schema : Schema} {p} :
    p ∈ schema →
    PropertyIn schema p
  | inside {schema inner : Schema} {q p} :
    q ∈ schema →
    q.nesting = .inline inner →
    PropertyIn inner p →
    PropertyIn schema p

/-- What a name may be the name of. -/
inductive Role where
  | schema
  | rule
  | transform

/-- A rule set mentions a schema as its `type`, a rule as a key, and a transform in its list. -/
def RuleSet.Mentions (fields : Record) : Role → Text → Prop
  | .schema, name => Record.get? fields "type" = some (.text name)
  | .rule, name => .text name ∈ Record.keys fields
  | .transform, name => name ∈ RuleSet.transforms fields

/-- A property mentions the schema that it refers to, its rules and its transforms. -/
def Property.Mentions (p : Property) : Role → Text → Prop
  | .schema, name => p.nesting = .reference name
  | .rule, name => ∃ rule ∈ p.rules, rule.1 = name
  | .transform, name => name ∈ p.transforms

/-- A schema mentions a name when a rule set or property of it does, at any inline depth. -/
def Source.Mentions (role : Role) (name : Text) : Source → Prop
  | .document v => ∃ fields, RuleSetIn v fields ∧ RuleSet.Mentions fields role name
  | .compiled schema => ∃ p, PropertyIn schema p ∧ p.Mentions role name

/-- Neither a schema nor any document of the table mentions a name. -/
structure Unused (T : Table) (source : Source) (role : Role) (name : Text) : Prop where
  source : ¬source.Mentions role name
  table : T.All fun document => ¬(Source.document document).Mentions role name

namespace Schema

variable {named named' : Text → Bool}

/-- A rule set mentions what the property does that it compiles to. -/
lemma CompilesTo.mentions {key fields p role name} (c : CompilesTo named key fields p)
    (mentions : p.Mentions role name) : RuleSet.Mentions fields role name := by
  cases role with
  | schema =>
    cases c with
    | reference _ et =>
      cases mentions
      exact (RuleSet.of_target? et).1
    | inline => cases mentions
    | plain => cases mentions
  | transform =>
    have mem : name ∈ p.transforms := mentions
    rw [c.head.2.2] at mem
    exact mem
  | rule =>
    obtain ⟨⟨rule, argument⟩, mem, rfl⟩ := mentions
    have stated : (rule, argument) ∈ rulesOf fields := by
      cases c with
      | reference => cases mem
      | inline => exact mem
      | plain => exact mem
    exact List.mem_map_of_mem (mem_rulesOf_iff.1 stated).1

/-- A document mentions what the schema does that it compiles to. -/
lemma mentions_of_compile {document schema role name}
    (ec : compile (.total named) document = .ok schema)
    (mentions : (Source.compiled schema).Mentions role name) :
    (Source.document document).Mentions role name := by
  obtain ⟨p, inside, mentions⟩ := mentions
  induction inside generalizing document with
  | here mem =>
    obtain ⟨_, entries, rfl, all⟩ := compile_ok_iff.1 ec
    obtain ⟨_, around, ⟨c⟩⟩ := exists_left_of_mem all mem
    exact ⟨_, .here around, c.mentions mentions⟩
  | inside mem en _ ih =>
    obtain ⟨_, entries, rfl, all⟩ := compile_ok_iff.1 ec
    obtain ⟨_, around, ⟨c⟩⟩ := exists_left_of_mem all mem
    cases c with
    | reference => cases en
    | plain => cases en
    | inline _ _ _ ei ec =>
      cases en
      obtain ⟨fields, below, mentions⟩ := ih ec mentions
      exact ⟨fields, .inside around ei below, mentions⟩

/-- Entries compile to the same when each of them does. -/
lemma compileEntries_congr {resolves resolves' entries}
    (same : ∀ key v, (key, v) ∈ entries →
      compileRuleSet resolves' key v = compileRuleSet resolves key v) :
    compileEntries resolves' entries = compileEntries resolves entries := by
  induction entries with
  | nil => rfl
  | cons entry rest ih =>
    obtain ⟨key, v⟩ := entry
    rw [compileEntries, compileEntries, same key v List.mem_cons_self,
      ih fun key v mem => same key v (List.mem_cons_of_mem _ mem)]

/-- Documents compile alike against names that are the same for the `type` of every rule set. -/
lemma compile_congr {document}
    (same : ∀ fields, RuleSetIn document fields →
      RuleSet.target? named' fields = RuleSet.target? named fields) :
    compile (.total named') document = compile (.total named) document := by
  cases document with
  | record frozen entries =>
    apply compileEntries_congr
    intro key v mem
    cases v with
    | record readOnly fields =>
      cases key with
      | text key =>
        change ruleSet _ key fields (fun _ => compileInner _ fields) =
          ruleSet _ key fields fun _ => compileInner _ fields
        have here := same fields (.here mem)
        cases et : RuleSet.target? named fields with
        | some target => rw [ruleSet_reference et, ruleSet_reference (here.trans et)]
        | none =>
          rw [ruleSet_unresolved et, ruleSet_unresolved (here.trans et), compileInner_eq,
            compileInner_eq]
          cases ei : RuleSet.inner? fields with
          | none => rfl
          | some document =>
            have smaller := RuleSet.sizeOf_inner?_lt mem ei
            have inner : compile (.total named') document = compile (.total named) document :=
              compile_congr fun below inside => same below (.inside mem ei inside)
            dsimp only
            rw [inner]
      | _ => rfl
    | _ => cases key <;> rfl
  | _ => rfl
termination_by sizeOf document
decreasing_by
  subst_vars
  rw [Value.record.sizeOf_spec]
  omega

end Schema

namespace Assertion

/-- Two pairs of functions and a table are the same to a property: for its transforms, its rules and the
schema that it refers to. -/
structure SameTo (F F' : Functions) (T T' : Table) (p : Property) : Prop where
  transforms : ∀ name ∈ p.transforms, F'.transforms.get? name = F.transforms.get? name
  rules : ∀ rule ∈ p.rules, F'.rules.get? rule.1 = F.rules.get? rule.1
  schema : ∀ target, p.nesting = .reference target → T'.schema? target = T.schema? target

/-- Registries that agree on names apply them alike. -/
lemma applyAll_congr {transforms transforms' : Registry Transform} {names v}
    (same : ∀ name ∈ names, transforms'.get? name = transforms.get? name) :
    Transform.applyAll transforms' names v = Transform.applyAll transforms names v := by
  induction names generalizing v with
  | nil => rfl
  | cons name rest ih =>
    obtain ⟨first, others⟩ := List.forall_mem_cons.1 same
    rw [Transform.applyAll, Transform.applyAll, first]
    cases transforms.get? name with
    | none => exact ih others
    | some f =>
      dsimp only
      cases f v with
      | error fault => rfl
      | ok w => exact ih others

/-- Registries that agree on rules check them alike. -/
lemma checkRules_congr {rules rules' : Registry Rule} {name v stated}
    (same : ∀ rule ∈ stated, rules'.get? rule.1 = rules.get? rule.1) :
    checkRules (m := Except Fault) rules' name v stated = checkRules rules name v stated := by
  induction stated with
  | nil => rfl
  | cons rule rest ih =>
    obtain ⟨rule, argument⟩ := rule
    obtain ⟨first, others⟩ := List.forall_mem_cons.1 same
    rw [checkRules_cons, checkRules_cons, first, ih others]

section Congr

variable {F F' : Functions} {T T' : Table} {next next' : Descent} {p : Property}
  (same : SameTo F F' T T' p)
  (below : ∀ v schema?, Descends T p v schema? → next' schema? v = next schema? v)

include same below

/-- Descending is the same where assertions with the schemas of the property are. -/
lemma SameTo.descend {v} :
    descend (tableServices T') next' p v = descend (tableServices T) next p v := by
  cases en : p.nesting with
  | plain => rw [descend_plain en, descend_plain en]
  | reference target =>
    rw [descend_reference en, descend_reference en, same.schema target en]
    cases es : T.schema? target with
    | error fault => rfl
    | ok schema? =>
      dsimp only
      rw [below v schema? (.reference en es)]
  | inline properties =>
    rw [descend_inline en, descend_inline en]
    cases ev : v.entries? with
    | none => rfl
    | some entries =>
      dsimp only
      rw [below v _ (.inline en ev)]

/-- A property for which nothing differs settles the same. -/
lemma SameTo.settle {v} : settle F' T' next' p v = settle F T next p v := by
  have checked : ∀ w, checkRules (m := Except Fault) F'.rules p.name w p.rules =
      checkRules F.rules p.name w p.rules := fun w => checkRules_congr same.rules
  unfold Assertion.settle
  simp only [applyAll_congr same.transforms, same.descend below, checked]

/-- A step for which nothing differs is the same. -/
lemma SameTo.step {record} :
    step (tableServices T') F' next' record p = step (tableServices T) F next record p := by
  rw [step_eq, step_eq]
  simp only [same.settle below]

end Congr

/-- Folds are the same when each of their steps is. -/
lemma foldlM_congr {α β : Type} {f g : β → α → Except Fault β} {xs : List α} {start}
    (same : ∀ x ∈ xs, ∀ mid, f mid x = g mid x) : xs.foldlM f start = xs.foldlM g start := by
  induction xs generalizing start with
  | nil => rfl
  | cons x rest ih =>
    obtain ⟨first, others⟩ := List.forall_mem_cons.1 same
    rw [List.foldlM_cons, List.foldlM_cons, first start]
    exact congrArg (g start x >>= ·) (funext fun mid => ih others)

section Walk

variable {F F' : Functions} {T T' : Table} {role : Role} {name : Text}

/-- A walk is the same with functions and a table that differ only in a name that neither the schema nor
the documents of the table mention. -/
lemma walk_congr (same : ∀ p : Property, ¬p.Mentions role name → SameTo F F' T T' p)
    (free : T.All fun document => ¬(Source.document document).Mentions role name)
    {budget schema? v}
    (unused : ∀ schema, schema? = some schema → ¬(Source.compiled schema).Mentions role name) :
    walk (tableServices T') F' budget schema? v = walk (tableServices T) F budget schema? v := by
  induction budget generalizing schema? v with
  | zero => rfl
  | succ budget ih =>
    rw [walk_succ, walk_succ]
    cases en : v.entries? with
    | none => rw [level_notRecord en, level_notRecord en]
    | some record =>
      cases schema? with
      | none => rw [level_noSchema en, level_noSchema en]
      | some schema =>
        rw [level_record en, level_record en]
        apply foldlM_congr
        intro p mem mid
        have spared : ¬p.Mentions role name :=
          fun mentions => unused schema rfl ⟨p, .here mem, mentions⟩
        apply (same p spared).step
        intro w schema? d
        apply ih
        -- The schema below is looked up in the table, or one of the inner schemas of this one.
        rintro inner rfl
        cases d with
        | reference _ es =>
          obtain ⟨_, e⟩ | ⟨document, _, eg, ec, e⟩ := Table.schema?_ok_iff.1 es
          · cases e
          · cases e
            exact fun mentions => free _ document eg (Schema.mentions_of_compile ec mentions)
        | inline en =>
          rintro ⟨q, inside, mentions⟩
          exact unused schema rfl ⟨q, .inside mem en inside, mentions⟩

/-- Assertions against a schema come to the same with both pairs of functions and a table: within every
budget, in the end, and within the budget that they set themselves. -/
def Coincide (F F' : Functions) (T T' : Table) (source : Source) : Prop :=
  ∀ v, (∀ budget, sanitizeWithin budget F' T' source v = sanitizeWithin budget F T source v) ∧
    (∀ result, Ends F' T' source v result ↔ Ends F T source v result) ∧
    sanitize F' T' source v = sanitize F T source v

/-- Assertions coincide where the schema compiles alike and what differs is mentioned nowhere. -/
lemma coincide_of_unused {source} (unused : Unused T source role name)
    (compiles : source.compile T'.resolves = source.compile T.resolves)
    (same : ∀ p : Property, ¬p.Mentions role name → SameTo F F' T T' p) :
    Coincide F F' T T' source := by
  have within : ∀ budget v,
      sanitizeWithin budget F' T' source v = sanitizeWithin budget F T source v := by
    intro budget v
    cases ec : source.compile T.resolves with
    | error fault => rw [sanitizeWithin, sanitizeWithin, compiles, ec]; rfl
    | ok schema =>
      rw [sanitizeWithin_eq ec, sanitizeWithin_eq (compiles.trans ec)]
      apply walk_congr same unused.table
      rintro _ ⟨rfl⟩ mentions
      apply unused.source
      cases source with
      | document v => exact Schema.mentions_of_compile ec mentions
      | compiled own =>
        cases ec
        exact mentions
  intro v
  refine ⟨fun budget => within budget v, ?_, within _ v⟩
  intro result
  rw [Ends, Ends, funext fun budget => within budget v]

end Walk

end Assertion

namespace Table

variable {T T' : Table} {name : Text}

/-- A table is another one with an entry put in somewhere. -/
def Extends (T T' : Table) (name : Text) (body : Value) : Prop :=
  ∃ before after, T.entries = before ++ after ∧ T'.entries = before ++ (.text name, body) :: after

/-- An extended table has the same documents under other names. -/
lemma Extends.get? {body other} (extends_ : Extends T T' name body) (ne : other ≠ name) :
    Record.get? T'.entries other = Record.get? T.entries other := by
  obtain ⟨before, after, e, e'⟩ := extends_
  rw [e, e', Record.get?_insert ne]

/-- A rule set that does not mention the new name refers to what it referred to before. -/
lemma Extends.target? {body fields} (extends_ : Extends T T' name body)
    (spared : ¬RuleSet.Mentions fields .schema name) :
    RuleSet.target? T'.contains fields = RuleSet.target? T.contains fields := by
  unfold RuleSet.target?
  cases et : Record.get? fields "type" with
  | none => rfl
  | some v =>
    cases v with
    | text other =>
      have ne : other ≠ name := by
        rintro rfl
        exact spared et
      have known : T'.contains other = T.contains other :=
        congrArg Option.isSome (extends_.get? ne)
      dsimp only
      rw [known]
    | _ => rfl

/-- A document that does not mention the new name compiles as before. -/
lemma Extends.compile {body document} (extends_ : Extends T T' name body)
    (spared : ¬(Source.document document).Mentions .schema name) :
    Schema.compile T'.resolves document = Schema.compile T.resolves document := by
  apply Schema.compile_congr
  intro fields inside
  exact extends_.target? fun mentions => spared ⟨fields, inside, mentions⟩

/-- An extended table has the same schemas under other names, if nothing mentions the new one. -/
lemma Extends.schema? {body target} (extends_ : Extends T T' name body) (ne : target ≠ name)
    (free : T.All fun document => ¬(Source.document document).Mentions .schema name) :
    T'.schema? target = T.schema? target := by
  rw [Table.schema?, Table.schema?, extends_.get? ne]
  cases eg : Record.get? T.entries target with
  | none => rfl
  | some document =>
    dsimp only
    rw [extends_.compile (free target document eg)]

end Table

namespace Assertion

variable {F : Functions} {T : Table}

/-- Names that are not used do not matter. Assertions against a schema come to the same for all data when
the table has one more entry, well formed or not, under a name that no rule set has as its `type`; when a
rule is registered under a name that is no key of a rule set; and when a transform is registered under a
name that no list of transforms has, the rule sets being those of the schema and of the documents of the
table, at any inline depth. -/
theorem unused_outcome (source : Source) (name : Text) :
    (Unused T source .schema name → ∀ T' body, T.Extends T' name body →
      Coincide F F T T' source) ∧
    (Unused T source .rule name → ∀ rule,
      Coincide F { F with rules := F.rules.put name rule } T T source) ∧
    (Unused T source .transform name → ∀ f,
      Coincide F { F with transforms := F.transforms.put name f } T T source) := by
  refine ⟨?_, ?_, ?_⟩
  · intro unused T' body extends_
    refine coincide_of_unused unused ?_ ?_
    · cases source with
      | document v => exact extends_.compile unused.source
      | compiled schema => rfl
    · intro p spared
      refine ⟨fun _ _ => rfl, fun _ _ => rfl, ?_⟩
      intro target en
      apply extends_.schema? _ unused.table
      rintro rfl
      exact spared en
  · intro unused rule
    refine coincide_of_unused unused rfl ?_
    intro p spared
    refine ⟨fun _ _ => rfl, ?_, fun _ _ => rfl⟩
    intro stated mem
    apply Registry.get?_put_of_ne
    exact fun same => spared ⟨stated, mem, same⟩
  · intro unused f
    refine coincide_of_unused unused rfl ?_
    intro p spared
    refine ⟨?_, fun _ _ => rfl, fun _ _ => rfl⟩
    intro other mem
    apply Registry.get?_put_of_ne
    rintro rfl
    exact spared mem

/-- The rule sets of linked nodes are those of their names and of their next nodes. -/
lemma ruleSetIn_linked {fields} (inside : RuleSetIn linked fields) :
    fields = [(.text "transform", .list [.text "trim"]), (.text "type", .text "string")] ∨
      fields = [(.text "type", .text "node")] := by
  generalize e : linked = document at inside
  cases inside with
  | here mem =>
    cases e
    simp only [List.mem_cons, List.not_mem_nil, or_false, Prod.mk.injEq, Value.record.injEq] at mem
    exact mem.imp (fun first => first.2.2) fun second => second.2.2
  | inside mem ei =>
    cases e
    simp only [List.mem_cons, List.not_mem_nil, or_false, Prod.mk.injEq, Value.record.injEq] at mem
    rcases mem with ⟨_, _, rfl⟩ | ⟨_, _, rfl⟩ <;> cases ei

/-- A name that neither rule set of linked nodes mentions is not used among them. -/
lemma unused_linked {role name}
    (first : ¬RuleSet.Mentions
      [(.text "transform", .list [.text "trim"]), (.text "type", .text "string")] role name)
    (second : ¬RuleSet.Mentions [(.text "type", .text "node")] role name) :
    Unused linkedTable (.document linked) role name := by
  have free : ¬(Source.document linked).Mentions role name := by
    rintro ⟨fields, inside, mentions⟩
    rcases ruleSetIn_linked inside with rfl | rfl
    · exact first mentions
    · exact second mentions
  exact ⟨free, Table.all_singleton free⟩

/-- The names of linked nodes are trimmed beside an entry that is no schema, with a rule that refuses
everything, and with a transform that loses everything. -/
theorem unused_outcome_linkedNodes :
    let crowded : Table := ⟨(.text "edge", .int 7) :: linkedTable.entries⟩
    let strict : Functions :=
      { Functions.builtin with rules := Rule.builtin.put "colour" fun _ _ => .ok false }
    let lossy : Functions :=
      { Functions.builtin with transforms := Transform.builtin.put "clear" fun _ => .ok .null }
    let trimmed : Record :=
      [(.text "next", .record false [(.text "name", .text "b")]), (.text "name", .text "a")]
    Unused linkedTable (.document linked) .schema "edge" ∧
      Unused linkedTable (.document linked) .rule "colour" ∧
      Unused linkedTable (.document linked) .transform "clear" ∧
      linkedTable.Extends crowded "edge" (.int 7) ∧
      sanitizeWithin 3 .builtin crowded (.document linked) linkedNodes = .ok trimmed ∧
      sanitizeWithin 3 strict linkedTable (.document linked) linkedNodes = .ok trimmed ∧
      sanitizeWithin 3 lossy linkedTable (.document linked) linkedNodes = .ok trimmed := by
  intro crowded strict lossy trimmed
  have noType : Unused linkedTable (.document linked) .schema "edge" :=
    unused_linked (by simp [RuleSet.Mentions, Record.get?, Value.isText])
      (by simp [RuleSet.Mentions, Record.get?, Value.isText])
  have noKey : Unused linkedTable (.document linked) .rule "colour" :=
    unused_linked (by simp [RuleSet.Mentions, Record.keys]) (by simp [RuleSet.Mentions, Record.keys])
  have noTransform : Unused linkedTable (.document linked) .transform "clear" :=
    unused_linked (by change ("clear" : Text) ∉ (["trim"] : List Text); decide) (by change ("clear" : Text) ∉ ([] : List Text); decide)
  have extends_ : linkedTable.Extends crowded "edge" (.int 7) := ⟨[], _, rfl, rfl⟩
  have before : sanitizeWithin 3 .builtin linkedTable (.document linked) linkedNodes =
      .ok trimmed := by
    cbv
  obtain ⟨tables, _, _⟩ := unused_outcome (F := .builtin) (T := linkedTable) (.document linked) "edge"
  obtain ⟨_, rules, _⟩ := unused_outcome (F := .builtin) (T := linkedTable) (.document linked) "colour"
  obtain ⟨_, _, transforms⟩ :=
    unused_outcome (F := .builtin) (T := linkedTable) (.document linked) "clear"
  refine ⟨noType, noKey, noTransform, extends_, ?_, ?_, ?_⟩
  · exact ((tables noType _ _ extends_ linkedNodes).1 3).trans before
  · exact ((rules noKey _ linkedNodes).1 3).trans before
  · exact ((transforms noTransform _ linkedNodes).1 3).trans before

end Assertion

end RecordSchema
