import RecordSchema.Proofs.Budget

/-!
# Where a walk gets to

A walk goes through the properties of a schema in order and descends into some of their values.
`Reaches` says which property of which nested record it gets to and what the properties before it
have made of that record, `Fails` what can then go wrong at the property. `walk_error` says that
whatever ends a walk goes wrong at one property that the walk gets to, and is seen from the outside
through every property that was descended into on the way; `Reaches.walk_error` says that whatever
goes wrong there ends the walk.
-/

namespace RecordSchema

/-- A fault seen from outside of some properties, the outermost of which comes first. -/
def Fault.beneath (chain : List Property) (fault : Fault) : Fault :=
  chain.foldr (fun q fault => fault.within q.name) fault

/-- A failure is located under every property on the way. -/
lemma Fault.beneath_violated {chain path violation} :
    (Fault.violated path violation).beneath chain =
      .violated (chain.map Property.name ++ path) violation := by
  induction chain with
  | nil => rfl
  | cons q rest ih =>
    change ((Fault.violated path violation).beneath rest).within q.name = _
    rw [ih]
    rfl

/-- A fault of a schema is the same outside of all properties. -/
lemma Fault.beneath_schema {chain flaw} :
    (Fault.schema flaw).beneath chain = .schema flaw := by
  induction chain with
  | nil => rfl
  | cons q rest ih =>
    change ((Fault.schema flaw).beneath rest).within q.name = _
    rw [ih]
    rfl

/-- What shows outside of a property as no lack of a budget was none. -/
lemma Fault.within_ne_exhausted {fault : Fault} {name} (ne : fault.within name ≠ .exhausted) :
    fault ≠ .exhausted := by
  rintro rfl
  exact ne rfl

namespace Assertion

/-- A row of properties makes one record of another, with some budget below. -/
def Passes (F : Functions) (T : Table) (properties : Schema) (record mid : Record) : Prop :=
  ∃ budget, List.foldlM (step (tableServices T) F (walk (tableServices T) F budget)) record
    properties = .ok mid

/-- The transforms of a property make a value of what a record has under its name. -/
def Transforms (F : Functions) (p : Property) (record : Record) (w : Value) : Prop :=
  ∃ v, Record.get? record p.name = some v ∧ Transform.applyAll F.transforms p.transforms v = .ok w

/-- Descending into the transformed value of a property goes well, with some budget. -/
def Clears (F : Functions) (T : Table) (p : Property) (w : Value) : Prop :=
  ∃ budget x, descend (tableServices T) (walk (tableServices T) F budget) p w = .ok x

/-- Asserting a record against a schema gets to a property, through a chain of properties that are
descended into, when the properties before it have made a record of the one it belongs to. -/
inductive Reaches (F : Functions) (T : Table) :
    Schema → Record → List Property → Property → Record → Prop where
  | here {before p after record mid} :
    Passes F T before record mid →
    Reaches F T (before ++ p :: after) record [] p mid
  | nested {before q after record mid w inner entries chain p last} :
    Passes F T before record mid →
    Transforms F q mid w →
    Descends T q w (some inner) →
    w.entries? = some entries →
    Reaches F T inner entries chain p last →
    Reaches F T (before ++ q :: after) record (q :: chain) p last

/-- A function that is called for a property of a record stops the run. -/
inductive Raises (F : Functions) (T : Table) (p : Property) (record : Record) : Fault → Prop where
  | transform {v fault} :
    Record.get? record p.name = some v →
    Transform.applyAll F.transforms p.transforms v = .error fault →
    Raises F T p record fault
  | rule {w before rule argument after holds fault} :
    Transforms F p record w →
    Clears F T p w →
    p.rules = before ++ (rule, argument) :: after →
    (∀ rule ∈ before, Holds F.rules w rule) →
    F.rules.get? rule = some holds →
    holds w argument = .error fault →
    Raises F T p record fault

/-- What can go wrong at a property of a record: its name is missing, a function stops the run, its
schema is malformed or not there, its transformed value is no mapping, or the first of its rules
that does not hold is unknown or refuses the value. -/
inductive Fails (F : Functions) (T : Table) (p : Property) (record : Record) : Fault → Prop where
  | missing :
    Record.get? record p.name = none →
    p.optional = false →
    Fails F T p record (.violated [p.name] (.missing p.name))
  | raised {fault} :
    Raises F T p record fault →
    Fails F T p record fault
  | lookup {w target fault} :
    Transforms F p record w →
    p.nesting = .reference target →
    T.schema? target = .error fault →
    Fails F T p record fault
  | dangling {w entries} :
    Transforms F p record w →
    Descends T p w none →
    w.entries? = some entries →
    Fails F T p record ((Fault.mishap .noSchema).within p.name)
  | notRecord {w schema?} :
    Transforms F p record w →
    Descends T p w schema? →
    w.entries? = none →
    Fails F T p record (.violated [p.name] .notRecord)
  | notObject {w properties} :
    Transforms F p record w →
    p.nesting = .inline properties →
    w.entries? = none →
    Fails F T p record (.violated [p.name] (.notObject p.name))
  | unknown {w before rule argument after} :
    Transforms F p record w →
    Clears F T p w →
    p.rules = before ++ (rule, argument) :: after →
    (∀ rule ∈ before, Holds F.rules w rule) →
    F.rules.get? rule = none →
    Fails F T p record (.violated [p.name] (.unknownRule rule))
  | refused {w before rule argument after holds} :
    Transforms F p record w →
    Clears F T p w →
    p.rules = before ++ (rule, argument) :: after →
    (∀ rule ∈ before, Holds F.rules w rule) →
    F.rules.get? rule = some holds →
    holds w argument = .ok false →
    Fails F T p record (.violated [p.name] (.failedRule rule p.name w))

variable {F : Functions} {T : Table}

/-- A rule that fails on the transformed value of a property makes the property fail. -/
lemma Fails.of_rule {p record w before rule after fault} (t : Transforms F p record w)
    (clears : Clears F T p w) (stated : p.rules = before ++ rule :: after)
    (hold : ∀ rule ∈ before, Holds F.rules w rule) (fails : RuleFails F.rules p.name w rule fault) :
    Fails F T p record fault := by
  cases fails with
  | unknown er => exact .unknown t clears stated hold er
  | refused er eh => exact .refused t clears stated hold er eh
  | raised er eh => exact .raised (.rule t clears stated hold er eh)

/-- A walk without a schema fails for want of a mapping or of the schema. -/
lemma walk_none {budget v fault}
    (e : walk (tableServices T) F budget none v = .error fault) (ne : fault ≠ .exhausted) :
    (v.entries? = none ∧ fault = .violated [] .notRecord) ∨
      ∃ entries, v.entries? = some entries ∧ fault = .mishap .noSchema := by
  cases budget with
  | zero =>
    cases e
    exact (ne rfl).elim
  | succ budget =>
    rw [walk_succ] at e
    cases en : v.entries? with
    | none =>
      rw [level_notRecord en] at e
      cases e
      exact .inl ⟨rfl, rfl⟩
    | some entries =>
      rw [level_noSchema en] at e
      cases e
      exact .inr ⟨entries, rfl, rfl⟩

/-- Whatever ends a walk, other than its budget, goes wrong at one property that the walk gets to,
unless the value is no mapping to begin with. -/
lemma walk_error {budget schema v fault}
    (e : walk (tableServices T) F budget (some schema) v = .error fault)
    (ne : fault ≠ .exhausted) :
    (v.entries? = none ∧ fault = .violated [] .notRecord) ∨
      ∃ record chain p mid inner, v.entries? = some record ∧ Reaches F T schema record chain p mid ∧
        Fails F T p mid inner ∧ fault = inner.beneath chain := by
  induction budget generalizing schema v fault with
  | zero =>
    cases e
    exact (ne rfl).elim
  | succ budget ih =>
    rw [walk_succ] at e
    cases en : v.entries? with
    | none =>
      rw [level_notRecord en] at e
      cases e
      exact .inl ⟨rfl, rfl⟩
    | some record =>
      rw [level_record en] at e
      right
      -- The first property that fails is the one, or the one that leads on to it.
      obtain ⟨before, p, after, mid, rfl, em, ep⟩ := foldlM_error e
      have passes : Passes F T before record mid := ⟨budget, em⟩
      have here : ∀ {inner}, Fails F T p mid inner → inner = fault →
          ∃ record' chain q last inner, some record = some record' ∧
            Reaches F T (before ++ p :: after) record' chain q last ∧ Fails F T q last inner ∧
            fault = inner.beneath chain := by
        rintro inner fails rfl
        exact ⟨record, [], p, mid, inner, rfl, .here passes, fails, rfl⟩
      obtain ⟨eg, eo, rfl⟩ | ⟨u, eg, es⟩ := step_error_iff.1 ep
      · exact here (.missing eg eo) rfl
      · cases settle_error_iff.1 es with
        | transform et => exact here (.raised (.transform eg et)) rfl
        | @rule w x _ _ _ _ et ed stated hold fails =>
          exact here (.of_rule ⟨u, eg, et⟩ ⟨budget, x, ed⟩ stated hold fails) rfl
        | @descent w _ et fails =>
          have t : Transforms F p mid w := ⟨u, eg, et⟩
          cases fails with
          | lookup er es => exact here (.lookup t er es) rfl
          | notObject er ew => exact here (.notObject t er ew) rfl
          | @nested schema? fault d ei =>
            have ne := Fault.within_ne_exhausted ne
            cases schema? with
            | none =>
              obtain ⟨ew, rfl⟩ | ⟨entries, ew, rfl⟩ := walk_none ei ne
              · exact here (.notRecord t d ew) rfl
              · exact here (.dangling t d ew) rfl
            | some inner =>
              obtain ⟨ew, rfl⟩ | ⟨entries, chain, q, last, deep, ew, reaches, fails, rfl⟩ := ih ei ne
              · exact here (.notRecord t d ew) rfl
              · exact ⟨record, p :: chain, q, last, deep, rfl, .nested passes t d ew reaches, fails,
                  rfl⟩

/-- A computation that depends on a budget gives a result whenever the budget is large enough. -/
def Eventually {α : Type} (x : Nat → Except Fault α) (result : Except Fault α) : Prop :=
  ∃ budget, ∀ budget' ≥ budget, x budget' = result

/-- A property fails when settling its value does, whatever the transforms made it of. -/
lemma Transforms.step_error {p record w fault} (t : Transforms F p record w) (enough : Nat)
    (fails : ∀ budget ≥ enough, ∀ v, Transform.applyAll F.transforms p.transforms v = .ok w →
      SettlingFails F T (walk (tableServices T) F budget) p v fault) :
    Eventually (fun budget => step (tableServices T) F (walk (tableServices T) F budget) record p)
      (.error fault) := by
  obtain ⟨v, eg, et⟩ := t
  refine ⟨enough, ?_⟩
  intro budget le
  exact step_error_iff.2 (.inr ⟨v, eg, settle_error_iff.2 (fails budget le v et)⟩)

/-- A property fails when one of its rules does, those before it holding. -/
lemma RuleFails.step_error {p record w before rule after fault} (t : Transforms F p record w)
    (clears : Clears F T p w) (stated : p.rules = before ++ rule :: after)
    (hold : ∀ rule ∈ before, Holds F.rules w rule) (fails : RuleFails F.rules p.name w rule fault) :
    Eventually (fun budget => step (tableServices T) F (walk (tableServices T) F budget) record p)
      (.error fault) := by
  obtain ⟨enough, x, ed⟩ := clears
  apply t.step_error enough
  intro budget le v et
  exact .rule et (descend_mono le ed) stated hold fails

/-- What goes wrong at a property makes processing it fail. -/
lemma Fails.step_error {p record fault} (fails : Fails F T p record fault) :
    Eventually (fun budget => step (tableServices T) F (walk (tableServices T) F budget) record p)
      (.error fault) := by
  cases fails with
  | missing eg eo => exact ⟨0, fun _ _ => step_error_iff.2 (.inl ⟨eg, eo, rfl⟩)⟩
  | raised raises =>
    cases raises with
    | transform eg et =>
      refine ⟨0, fun _ _ => step_error_iff.2 (.inr ⟨_, eg, ?_⟩)⟩
      exact settle_error_iff.2 (.transform et)
    | rule t clears stated hold er eh =>
      exact RuleFails.step_error t clears stated hold (.raised er eh)
  | lookup t er es =>
    apply t.step_error 0
    intro _ _ v et
    exact .descent et (.lookup er es)
  | dangling t d ew =>
    apply t.step_error 1
    intro budget le v et
    -- Without any budget the walk below would be exhausted before it misses the schema.
    obtain ⟨budget, rfl⟩ := Nat.exists_eq_succ_of_ne_zero (Nat.ne_of_gt le)
    exact .descent et (.nested d (level_noSchema ew))
  | notRecord t d ew =>
    apply t.step_error 1
    intro budget le v et
    obtain ⟨budget, rfl⟩ := Nat.exists_eq_succ_of_ne_zero (Nat.ne_of_gt le)
    have nested : DescentFails T (walk (tableServices T) F (budget + 1)) p _
        ((Fault.violated [] .notRecord).within p.name) := .nested d (level_notRecord ew)
    exact .descent et nested
  | notObject t er ew =>
    apply t.step_error 0
    intro _ _ v et
    exact .descent et (.notObject er ew)
  | unknown t clears stated hold er => exact RuleFails.step_error t clears stated hold (.unknown er)
  | refused t clears stated hold er eh =>
    exact RuleFails.step_error t clears stated hold (.refused er eh)

/-- A walk fails at a property once the properties before it have made a record of the data. -/
lemma Passes.walk_error {before p after record mid v fault} (passes : Passes F T before record mid)
    (en : v.entries? = some record)
    (fails : Eventually
      (fun budget => step (tableServices T) F (walk (tableServices T) F budget) mid p)
      (.error fault)) :
    Eventually (fun budget => walk (tableServices T) F budget (some (before ++ p :: after)) v)
      (.error fault) := by
  obtain ⟨enough, em⟩ := passes
  obtain ⟨enough', ep⟩ := fails
  refine ⟨max enough enough' + 1, ?_⟩
  intro budget le
  cases budget with
  | zero => omega
  | succ budget =>
    have row : List.foldlM (step (tableServices T) F (walk (tableServices T) F budget)) record
        before = .ok mid := foldlM_step_mono (by omega) em
    have fails : step (tableServices T) F (walk (tableServices T) F budget) mid p = .error fault :=
      ep budget (by omega)
    change level F T (walk (tableServices T) F budget) (some (before ++ p :: after)) v = _
    rw [level_record en]
    exact foldlM_fails row fails

/-- What goes wrong at a property that a walk gets to ends the walk. -/
lemma Reaches.walk_error {schema record chain p mid v fault}
    (reaches : Reaches F T schema record chain p mid) (en : v.entries? = some record)
    (fails : Fails F T p mid fault) :
    Eventually (fun budget => walk (tableServices T) F budget (some schema) v)
      (.error (fault.beneath chain)) := by
  induction reaches generalizing v with
  | here passes => exact passes.walk_error en fails.step_error
  | nested passes t d ew _ ih =>
    apply passes.walk_error en
    obtain ⟨enough, nested⟩ := ih ew fails
    obtain ⟨u, eg, et⟩ := t
    refine ⟨enough, ?_⟩
    intro budget le
    refine step_error_iff.2 (.inr ⟨u, eg, ?_⟩)
    exact settle_error_iff.2 (.descent et (.nested d (nested budget le)))

end Assertion

end RecordSchema
