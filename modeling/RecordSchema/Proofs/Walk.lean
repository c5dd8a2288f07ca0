import RecordSchema.Assertion
import RecordSchema.Proofs.Document

/-!
# The walk over a table

The walk with schemas looked up in a table, taken apart: `checkRules_ok_iff` and
`checkRules_error_iff` for the rules of a property, `descend_ok_iff` and `descend_error_iff` for what
takes the place of its value, `settle_ok_iff` and `settle_error_iff` for all that happens to the
value, `step_ok_iff` and `step_error_iff` for the record, `foldlM_error` for a row of properties.
-/

namespace RecordSchema.Assertion

variable {α β : Type} {F : Functions} {T : Table}

/-- A computation and its continuation give a result exactly when both do. -/
lemma bind_ok_iff {x : Except Fault α} {f : α → Except Fault β} {b} :
    (x >>= f) = .ok b ↔ ∃ a, x = .ok a ∧ f a = .ok b := by
  cases x <;> simp [bind, Except.bind]

/-- What stops a computation stops its first part, or else what follows. -/
lemma bind_error_iff {x : Except Fault α} {f : α → Except Fault β} {fault} :
    (x >>= f) = .error fault ↔ x = .error fault ∨ ∃ a, x = .ok a ∧ f a = .error fault := by
  cases x <;> simp [bind, Except.bind]

/-- A fold that fails does so at one item, which the items before it lead to. -/
lemma foldlM_error {f : β → α → Except Fault β} {xs : List α} {start fault}
    (e : xs.foldlM f start = .error fault) :
    ∃ before x after mid, xs = before ++ x :: after ∧ before.foldlM f start = .ok mid ∧
      f mid x = .error fault := by
  induction xs generalizing start with
  | nil => cases e
  | cons x rest ih =>
    rw [List.foldlM_cons, bind_error_iff] at e
    rcases e with e | ⟨mid, em, e⟩
    · exact ⟨[], x, rest, start, rfl, rfl, e⟩
    · obtain ⟨before, y, after, last, rfl, el, ey⟩ := ih e
      refine ⟨x :: before, y, after, last, rfl, ?_, ey⟩
      rw [List.foldlM_cons, em]
      exact el

/-- A fold fails where one item does that the items before it lead to. -/
lemma foldlM_fails {f : β → α → Except Fault β} {before x after start mid fault}
    (em : List.foldlM f start before = .ok mid) (ex : f mid x = .error fault) :
    List.foldlM f start (before ++ x :: after) = .error fault := by
  rw [List.foldlM_append]
  refine bind_error_iff.2 (.inr ⟨mid, em, ?_⟩)
  rw [List.foldlM_cons]
  exact bind_error_iff.2 (.inl ex)

/-- What every step of a fold keeps holds of its result. -/
lemma foldlM_invariant {f : β → α → Except Fault β} {xs : List α} {start last} (P : β → Prop)
    (e : xs.foldlM f start = .ok last) (first : P start)
    (keep : ∀ x ∈ xs, ∀ mid next, P mid → f mid x = .ok next → P next) : P last := by
  induction xs generalizing start with
  | nil =>
    cases e
    exact first
  | cons x rest ih =>
    rw [List.foldlM_cons, bind_ok_iff] at e
    obtain ⟨mid, em, e⟩ := e
    apply ih e (keep x List.mem_cons_self _ _ first em)
    intro y mem
    exact keep y (List.mem_cons_of_mem _ mem)

/-- Lifting a result changes nothing. -/
@[simp] lemma lift_eq (x : Except Fault α) : lift (m := Except Fault) x = x := by
  cases x <;> rfl

/-- The walk applies transforms as the registry does. -/
lemma transform_eq {transforms names v} :
    transform (tableServices T) transforms names v = Transform.applyAll transforms names v := by
  induction names generalizing v with
  | nil => rfl
  | cons name rest ih =>
    rw [transform, Transform.applyAll]
    cases transforms.get? name with
    | none => exact ih
    | some f =>
      dsimp only
      rw [lift_eq]
      cases f v with
      | error fault => rfl
      | ok w => exact ih

/-- Transforms are applied one row after another. -/
lemma applyAll_append {transforms before after v} :
    Transform.applyAll transforms (before ++ after) v =
      Transform.applyAll transforms before v >>= Transform.applyAll transforms after := by
  induction before generalizing v with
  | nil => rfl
  | cons name rest ih =>
    rw [List.cons_append, Transform.applyAll, Transform.applyAll]
    cases transforms.get? name with
    | none => exact ih
    | some f =>
      dsimp only
      cases f v with
      | error fault => rfl
      | ok w => exact ih

/-- The first of some transforms is passed over or gives a value, from which the others go on. -/
lemma applyAll_cons_ok {transforms name rest v w}
    (e : Transform.applyAll transforms (name :: rest) v = .ok w) :
    (transforms.get? name = none ∧ Transform.applyAll transforms rest v = .ok w) ∨
      ∃ f u, transforms.get? name = some f ∧ f v = .ok u ∧
        Transform.applyAll transforms rest u = .ok w := by
  rw [Transform.applyAll] at e
  cases ef : transforms.get? name with
  | none =>
    rw [ef] at e
    exact .inl ⟨rfl, e⟩
  | some f =>
    rw [ef] at e
    dsimp only at e
    cases eu : f v with
    | error fault =>
      rw [eu] at e
      cases e
    | ok u =>
      rw [eu] at e
      exact .inr ⟨f, u, rfl, eu, e⟩

/-- Transforms that fail do so at one that is registered, which those before it lead to. -/
lemma applyAll_error {transforms names v fault}
    (e : Transform.applyAll transforms names v = .error fault) :
    ∃ before name after f w, names = before ++ name :: after ∧
      Transform.applyAll transforms before v = .ok w ∧ transforms.get? name = some f ∧
      f w = .error fault := by
  induction names generalizing v with
  | nil => cases e
  | cons name rest ih =>
    rw [Transform.applyAll] at e
    cases ef : transforms.get? name with
    | none =>
      rw [ef] at e
      obtain ⟨before, other, after, f, w, rfl, ew, found, raises⟩ := ih e
      refine ⟨name :: before, other, after, f, w, rfl, ?_, found, raises⟩
      rw [Transform.applyAll, ef]
      exact ew
    | some f =>
      rw [ef] at e
      dsimp only at e
      cases eu : f v with
      | error other =>
        rw [eu] at e
        cases e
        exact ⟨[], name, rest, f, v, rfl, rfl, ef, eu⟩
      | ok u =>
        rw [eu] at e
        obtain ⟨before, other, after, g, w, rfl, ew, found, raises⟩ := ih e
        refine ⟨name :: before, other, after, g, w, rfl, ?_, found, raises⟩
        rw [Transform.applyAll, ef]
        dsimp only
        rw [eu]
        exact ew

/-- A rule is registered and holds of a value. -/
def Holds (rules : Registry Rule) (v : Value) (rule : Text × Value) : Prop :=
  ∃ holds, rules.get? rule.1 = some holds ∧ holds v rule.2 = .ok true

/-- How a rule fails on the value of a property. -/
inductive RuleFails (rules : Registry Rule) (name : Text) (v : Value) :
    Text × Value → Fault → Prop where
  | unknown {rule argument} :
    rules.get? rule = none →
    RuleFails rules name v (rule, argument) (.violated [name] (.unknownRule rule))
  | refused {rule argument holds} :
    rules.get? rule = some holds →
    holds v argument = .ok false →
    RuleFails rules name v (rule, argument) (.violated [name] (.failedRule rule name v))
  | raised {rule argument holds fault} :
    rules.get? rule = some holds →
    holds v argument = .error fault →
    RuleFails rules name v (rule, argument) fault

/-- Checking a rule and then others, by what the first one says. -/
lemma checkRules_cons {rules : Registry Rule} {name v rule argument rest} :
    checkRules (m := Except Fault) rules name v ((rule, argument) :: rest) =
      match rules.get? rule with
      | none => .error (.violated [name] (.unknownRule rule))
      | some holds =>
        match holds v argument with
        | .error fault => .error fault
        | .ok true => checkRules rules name v rest
        | .ok false => .error (.violated [name] (.failedRule rule name v)) := by
  rw [checkRules]
  cases rules.get? rule with
  | none => rfl
  | some holds =>
    dsimp only
    rw [lift_eq]
    cases holds v argument with
    | error fault => rfl
    | ok b => cases b <;> rfl

/-- The rules of a property are passed exactly when all of them hold. -/
lemma checkRules_ok_iff {rules : Registry Rule} {name v stated} :
    checkRules (m := Except Fault) rules name v stated = .ok () ↔
      ∀ rule ∈ stated, Holds rules v rule := by
  induction stated with
  | nil => exact ⟨fun _ _ mem => (List.not_mem_nil mem).elim, fun _ => rfl⟩
  | cons rule rest ih =>
    obtain ⟨rule, argument⟩ := rule
    rw [checkRules_cons, List.forall_mem_cons, ← ih]
    unfold Holds
    cases er : rules.get? rule with
    | none => simp
    | some holds =>
      cases eh : holds v argument with
      | error fault => simp [eh]
      | ok b => cases b <;> simp [eh]

/-- The rules of a property fail at the first one that does not hold. -/
lemma checkRules_error_iff {rules : Registry Rule} {name v stated fault} :
    checkRules (m := Except Fault) rules name v stated = .error fault ↔
      ∃ before rule after, stated = before ++ rule :: after ∧
        (∀ rule ∈ before, Holds rules v rule) ∧ RuleFails rules name v rule fault := by
  induction stated with
  | nil =>
    constructor
    · nofun
    · rintro ⟨before, rule, after, e, _⟩
      cases before <;> cases e
  | cons rule rest ih =>
    obtain ⟨rule, argument⟩ := rule
    rw [checkRules_cons]
    constructor
    · intro e
      cases er : rules.get? rule with
      | none =>
        rw [er] at e
        cases e
        exact ⟨[], _, rest, rfl, nofun, .unknown er⟩
      | some holds =>
        rw [er] at e
        dsimp only at e
        cases eh : holds v argument with
        | error other =>
          rw [eh] at e
          cases e
          exact ⟨[], _, rest, rfl, nofun, .raised er eh⟩
        | ok b =>
          rw [eh] at e
          cases b with
          | false =>
            cases e
            exact ⟨[], _, rest, rfl, nofun, .refused er eh⟩
          | true =>
            obtain ⟨before, first, after, rfl, hold, fails⟩ := ih.1 e
            refine ⟨(rule, argument) :: before, first, after, rfl, ?_, fails⟩
            exact List.forall_mem_cons.2 ⟨⟨holds, er, eh⟩, hold⟩
    · rintro ⟨before, first, after, e, hold, fails⟩
      cases before with
      | nil =>
        cases e
        cases fails with
        | unknown er => rw [er]
        | refused er eh => rw [er]; dsimp only; rw [eh]
        | raised er eh => rw [er]; dsimp only; rw [eh]
      | cons other before =>
        cases e
        obtain ⟨⟨holds, er, eh⟩, hold⟩ := List.forall_mem_cons.1 hold
        rw [er]
        dsimp only at eh ⊢
        rw [eh]
        exact ih.2 ⟨before, first, after, rfl, hold, fails⟩

/-- A way to assert the values that properties descend into. -/
abbrev Descent := Option Schema → Value → Except Fault Record

/-- The record of a nested assertion as a value, or its fault seen from outside of the property. -/
def enclose (name : Text) : Except Fault Record → Except Fault Value
  | .ok record => .ok (.record false record)
  | .error fault => .error (fault.within name)

/-- What is below a name is enclosed in it. -/
lemma below_eq {name : Text} {x : Except Fault Record} :
    (do return Value.record false (← below name x)) = enclose name x := by
  cases x <;> rfl

/-- A plain property descends to nothing. -/
lemma descend_plain {next : Descent} {p : Property} {v} (e : p.nesting = .plain) :
    descend (tableServices T) next p v = .ok v := by
  rw [descend, e]
  rfl

/-- A reference looks its schema up and encloses what comes of it. -/
lemma descend_reference {next : Descent} {p : Property} {v target}
    (e : p.nesting = .reference target) :
    descend (tableServices T) next p v =
      match T.schema? target with
      | .error fault => .error fault
      | .ok schema? => enclose p.name (next schema? v) := by
  rw [descend, e]
  change (T.schema? target >>= fun schema? => do
    return Value.record false (← below p.name (next schema? v))) = _
  cases T.schema? target with
  | error fault => rfl
  | ok schema? => exact below_eq

/-- A property with an inner schema descends to mappings only. -/
lemma descend_inline {next : Descent} {p : Property} {v properties}
    (e : p.nesting = .inline properties) :
    descend (tableServices T) next p v =
      match v.entries? with
      | none => .error (.violated [p.name] (.notObject p.name))
      | some _ => enclose p.name (next (some properties) v) := by
  rw [descend, e]
  cases v.entries? with
  | none => rfl
  | some entries => exact below_eq

/-- A property descends into its value with a schema: the one it refers to, or its own when the
value is a mapping. -/
inductive Descends (T : Table) (p : Property) (v : Value) : Option Schema → Prop where
  | reference {target schema?} :
    p.nesting = .reference target →
    T.schema? target = .ok schema? →
    Descends T p v schema?
  | inline {properties entries} :
    p.nesting = .inline properties →
    v.entries? = some entries →
    Descends T p v (some properties)

/-- How descending into the value of a property fails. -/
inductive DescentFails (T : Table) (next : Descent) (p : Property) (v : Value) : Fault → Prop where
  | lookup {target fault} :
    p.nesting = .reference target →
    T.schema? target = .error fault →
    DescentFails T next p v fault
  | notObject {properties} :
    p.nesting = .inline properties →
    v.entries? = none →
    DescentFails T next p v (.violated [p.name] (.notObject p.name))
  | nested {schema? fault} :
    Descends T p v schema? →
    next schema? v = .error fault →
    DescentFails T next p v (fault.within p.name)

/-- A property that descends into its value encloses what comes of it. -/
lemma descend_eq_enclose {next : Descent} {p : Property} {v schema?} (d : Descends T p v schema?) :
    descend (tableServices T) next p v = enclose p.name (next schema? v) := by
  cases d with
  | reference en es => rw [descend_reference en, es]
  | inline en ev => rw [descend_inline en, ev]

/-- What takes the place of a value is the value itself, or the record of the nested assertion. -/
lemma descend_ok_iff {next : Descent} {p : Property} {v x} :
    descend (tableServices T) next p v = .ok x ↔
      (p.nesting = .plain ∧ x = v) ∨
      ∃ schema? record, Descends T p v schema? ∧ next schema? v = .ok record ∧
        x = .record false record := by
  have enclosed : ∀ {schema?}, enclose p.name (next schema? v) = .ok x →
      ∃ record, next schema? v = .ok record ∧ x = .record false record := by
    intro schema? e
    cases en : next schema? v with
    | error fault =>
      rw [en] at e
      cases e
    | ok record =>
      rw [en] at e
      cases e
      exact ⟨record, rfl, rfl⟩
  constructor
  · intro e
    cases en : p.nesting with
    | plain =>
      rw [descend_plain en] at e
      cases e
      exact .inl ⟨rfl, rfl⟩
    | reference target =>
      rw [descend_reference en] at e
      cases es : T.schema? target with
      | error fault =>
        rw [es] at e
        cases e
      | ok schema? =>
        rw [es] at e
        obtain ⟨record, er, ex⟩ := enclosed e
        exact .inr ⟨_, _, .reference en es, er, ex⟩
    | inline properties =>
      rw [descend_inline en] at e
      cases ev : v.entries? with
      | none =>
        rw [ev] at e
        cases e
      | some entries =>
        rw [ev] at e
        obtain ⟨record, er, ex⟩ := enclosed e
        exact .inr ⟨_, _, .inline en ev, er, ex⟩
  · rintro (⟨en, rfl⟩ | ⟨schema?, record, d, er, rfl⟩)
    · exact descend_plain en
    · rw [descend_eq_enclose d, er]
      rfl

/-- Descending fails exactly in the ways of `DescentFails`. -/
lemma descend_error_iff {next : Descent} {p : Property} {v fault} :
    descend (tableServices T) next p v = .error fault ↔ DescentFails T next p v fault := by
  -- What a nested walk fails with is seen from outside, with the name in front of its path.
  have enclosed : ∀ {schema?}, enclose p.name (next schema? v) = .error fault →
      ∃ inner, next schema? v = .error inner ∧ fault = inner.within p.name := by
    intro schema? e
    cases en : next schema? v with
    | error inner =>
      rw [en] at e
      cases e
      exact ⟨inner, rfl, rfl⟩
    | ok record =>
      rw [en] at e
      cases e
  constructor
  · intro e
    cases en : p.nesting with
    | plain =>
      rw [descend_plain en] at e
      cases e
    | reference target =>
      rw [descend_reference en] at e
      cases es : T.schema? target with
      | error other =>
        rw [es] at e
        cases e
        exact .lookup en es
      | ok schema? =>
        rw [es] at e
        obtain ⟨inner, ei, rfl⟩ := enclosed e
        exact .nested (.reference en es) ei
    | inline properties =>
      rw [descend_inline en] at e
      cases ev : v.entries? with
      | none =>
        rw [ev] at e
        cases e
        exact .notObject en ev
      | some entries =>
        rw [ev] at e
        obtain ⟨inner, ei, rfl⟩ := enclosed e
        exact .nested (.inline en ev) ei
  · intro f
    cases f with
    | lookup en es => rw [descend_reference en, es]
    | notObject en ev => rw [descend_inline en, ev]
    | nested d ei =>
      rw [descend_eq_enclose d, ei]
      rfl

/-- What takes the place of the value of a property: it is transformed and descended into, and
its rules see what the transforms made of it. -/
def settle (F : Functions) (T : Table) (next : Descent) (p : Property) (v : Value) :
    Except Fault Value := do
  let w ← Transform.applyAll F.transforms p.transforms v
  let x ← descend (tableServices T) next p w
  checkRules F.rules p.name w p.rules
  return x

/-- A property is processed by settling the value under its name, if there is one. -/
lemma step_eq {next : Descent} {record p} :
    step (tableServices T) F next record p =
      match Record.get? record p.name with
      | none => if p.optional then .ok record else .error (.violated [p.name] (.missing p.name))
      | some v => (settle F T next p v).map (Record.set record p.name) := by
  rw [step]
  cases Record.get? record p.name with
  | none =>
    dsimp only
    split <;> rfl
  | some v =>
    dsimp only
    rw [transform_eq, settle]
    cases Transform.applyAll F.transforms p.transforms v with
    | error fault => rfl
    | ok w =>
      -- The continuations differ in where the record is put together, so each outcome is compared.
      change (descend (tableServices T) next p w >>= _) =
        Except.map _ (descend (tableServices T) next p w >>= _)
      cases descend (tableServices T) next p w with
      | error fault => rfl
      | ok x =>
        change (checkRules F.rules p.name w p.rules >>= _) =
          Except.map _ (checkRules F.rules p.name w p.rules >>= _)
        cases checkRules (m := Except Fault) F.rules p.name w p.rules <;> rfl

/-- Settling a value gives a result exactly when its transforms do, descending does, and all rules
hold. -/
lemma settle_ok_iff {next : Descent} {p v x} :
    settle F T next p v = .ok x ↔
      ∃ w, Transform.applyAll F.transforms p.transforms v = .ok w ∧
        descend (tableServices T) next p w = .ok x ∧ ∀ rule ∈ p.rules, Holds F.rules w rule := by
  rw [settle, bind_ok_iff]
  apply exists_congr
  intro w
  rw [bind_ok_iff, and_congr_right_iff]
  intro _
  constructor
  · rintro ⟨y, ed, e⟩
    rw [bind_ok_iff] at e
    obtain ⟨_, er, e⟩ := e
    cases e
    exact ⟨ed, checkRules_ok_iff.1 er⟩
  · rintro ⟨ed, hold⟩
    refine ⟨x, ed, ?_⟩
    rw [checkRules_ok_iff.2 hold]
    rfl

/-- How settling the value of a property fails. -/
inductive SettlingFails (F : Functions) (T : Table) (next : Descent) (p : Property) (v : Value) :
    Fault → Prop where
  | transform {fault} :
    Transform.applyAll F.transforms p.transforms v = .error fault →
    SettlingFails F T next p v fault
  | descent {w fault} :
    Transform.applyAll F.transforms p.transforms v = .ok w →
    DescentFails T next p w fault →
    SettlingFails F T next p v fault
  | rule {w x before rule after fault} :
    Transform.applyAll F.transforms p.transforms v = .ok w →
    descend (tableServices T) next p w = .ok x →
    p.rules = before ++ rule :: after →
    (∀ rule ∈ before, Holds F.rules w rule) →
    RuleFails F.rules p.name w rule fault →
    SettlingFails F T next p v fault

/-- Settling a value fails exactly in the ways of `SettlingFails`. -/
lemma settle_error_iff {next : Descent} {p v fault} :
    settle F T next p v = .error fault ↔ SettlingFails F T next p v fault := by
  rw [settle]
  constructor
  · intro e
    rcases bind_error_iff.1 e with et | ⟨w, et, e⟩
    · exact .transform et
    · rcases bind_error_iff.1 e with ed | ⟨x, ed, e⟩
      · exact .descent et (descend_error_iff.1 ed)
      · rcases bind_error_iff.1 e with er | ⟨_, _, e⟩
        · obtain ⟨before, rule, after, stated, hold, fails⟩ := checkRules_error_iff.1 er
          exact .rule et ed stated hold fails
        · cases e
  · intro f
    cases f with
    | transform et => exact bind_error_iff.2 (.inl et)
    | @descent w _ et fails =>
      refine bind_error_iff.2 (.inr ⟨w, et, ?_⟩)
      exact bind_error_iff.2 (.inl (descend_error_iff.2 fails))
    | @rule w x _ _ _ _ et ed stated hold fails =>
      refine bind_error_iff.2 (.inr ⟨w, et, ?_⟩)
      refine bind_error_iff.2 (.inr ⟨x, ed, ?_⟩)
      refine bind_error_iff.2 (.inl ?_)
      exact checkRules_error_iff.2 ⟨_, _, _, stated, hold, fails⟩

/-- A property makes one record of another exactly when it settles the value under its name, which
is put back there. -/
lemma step_ok_iff {next : Descent} {record p last} :
    step (tableServices T) F next record p = .ok last ↔
      (Record.get? record p.name = none ∧ p.optional = true ∧ last = record) ∨
      ∃ v x, Record.get? record p.name = some v ∧ settle F T next p v = .ok x ∧
        last = Record.set record p.name x := by
  rw [step_eq]
  cases eg : Record.get? record p.name with
  | none =>
    dsimp only
    constructor
    · intro e
      split at e
      · cases e
        exact .inl ⟨rfl, ‹_›, rfl⟩
      · cases e
    · rintro (⟨_, eo, rfl⟩ | ⟨v, x, ev, _⟩)
      · rw [if_pos eo]
      · cases ev
  | some v =>
    dsimp only
    constructor
    · intro e
      cases es : settle F T next p v with
      | error fault =>
        rw [es] at e
        cases e
      | ok x =>
        rw [es] at e
        cases e
        exact .inr ⟨v, x, rfl, es, rfl⟩
    · rintro (⟨en, _⟩ | ⟨_, x, ev, es, rfl⟩)
      · cases en
      · cases ev
        rw [es]
        rfl

/-- A property fails on a record when its name is missing or its value is not settled. -/
lemma step_error_iff {next : Descent} {record p fault} :
    step (tableServices T) F next record p = .error fault ↔
      (Record.get? record p.name = none ∧ p.optional = false ∧
        fault = .violated [p.name] (.missing p.name)) ∨
      ∃ v, Record.get? record p.name = some v ∧ settle F T next p v = .error fault := by
  rw [step_eq]
  cases eg : Record.get? record p.name with
  | none =>
    dsimp only
    constructor
    · intro e
      split at e
      · cases e
      · cases e
        exact .inl ⟨rfl, Bool.eq_false_iff.2 ‹_›, rfl⟩
    · rintro (⟨_, eo, rfl⟩ | ⟨v, ev, _⟩)
      · rw [eo]
        rfl
      · cases ev
  | some v =>
    dsimp only
    constructor
    · intro e
      cases es : settle F T next p v with
      | error other =>
        rw [es] at e
        cases e
        exact .inr ⟨v, rfl, es⟩
      | ok x =>
        rw [es] at e
        cases e
    · rintro (⟨en, _⟩ | ⟨_, ev, es⟩)
      · cases en
      · cases ev
        rw [es]
        rfl

/-- One level of a walk, with a way to assert what lies below it. -/
def level (F : Functions) (T : Table) (next : Descent) (schema? : Option Schema) (v : Value) :
    Except Fault Record :=
  match v.entries?, schema? with
  | none, _ => .error (.violated [] .notRecord)
  | some _, none => .error (.mishap .noSchema)
  | some record, some schema => schema.foldlM (step (tableServices T) F next) record

/-- A level fails for a value that is no mapping. -/
lemma level_notRecord {next : Descent} {schema? v} (en : v.entries? = none) :
    level F T next schema? v = .error (.violated [] .notRecord) := by
  cases v with
  | record => cases en
  | _ => rfl

/-- A mapping without a schema is a mishap. -/
lemma level_noSchema {next : Descent} {v record} (en : v.entries? = some record) :
    level F T next none v = .error (.mishap .noSchema) := by
  cases v with
  | record => rfl
  | _ => cases en

/-- A mapping goes through its properties one after another. -/
lemma level_record {next : Descent} {schema v record} (en : v.entries? = some record) :
    level F T next (some schema) v =
      schema.foldlM (step (tableServices T) F next) record := by
  cases v with
  | record =>
    cases en
    rfl
  | _ => cases en

/-- Asserting against a schema that compiles is a walk with what it compiles to. -/
lemma sanitizeWithin_eq {budget source schema v} (ec : source.compile T.resolves = .ok schema) :
    sanitizeWithin budget F T source v = walk (tableServices T) F budget (some schema) v := by
  rw [sanitizeWithin, ec]
  rfl

/-- A record comes back when the source compiles and the walk gives it. -/
lemma sanitizeWithin_ok_iff {budget source v record} :
    sanitizeWithin budget F T source v = .ok record ↔
      ∃ schema, source.compile T.resolves = .ok schema ∧
        walk (tableServices T) F budget (some schema) v = .ok record :=
  bind_ok_iff

/-- With one more in its budget, a walk is a level over walks. -/
lemma walk_succ {budget schema? v} :
    walk (tableServices T) F (budget + 1) schema? v =
      level F T (walk (tableServices T) F budget) schema? v :=
  rfl

end RecordSchema.Assertion
