import RecordSchema.Proofs.Walk

/-!
# Budgets of walks

A greater budget only turns exhaustion into a result (`walk_approximates`), so a result that is
reached stays (`walk_mono`). Where no transform deepens a value (`KeepsDepth`) a walk gives records
no deeper than the data (`walk_depth_le`), so a budget beyond the depth of the data is as good as
any greater one (`walk_stable`), and unless a function says so itself it is never used up
(`walk_ne_exhausted`).
-/

namespace RecordSchema.Assertion

variable {α β : Type} {F : Functions} {T : Table}

/-- The first computation gives what the second one gives, unless its budget is used up. -/
def Approximates (x y : Except Fault α) : Prop :=
  x = .error .exhausted ∨ x = y

/-- Approximate computations with approximate continuations are approximate. -/
lemma Approximates.bind {x y : Except Fault α} {f g : α → Except Fault β}
    (first : Approximates x y) (rest : ∀ a, Approximates (f a) (g a)) :
    Approximates (x >>= f) (y >>= g) := by
  rcases first with rfl | rfl
  · exact .inl rfl
  · cases x with
    | error fault => exact .inr rfl
    | ok a => exact rest a

/-- Approximation is kept by what is made of the results. -/
lemma Approximates.map {x y : Except Fault α} {f : α → β} (a : Approximates x y) :
    Approximates (x.map f) (y.map f) := by
  rcases a with rfl | rfl
  · exact .inl rfl
  · exact .inr rfl

/-- Approximation is kept when results are enclosed. -/
lemma Approximates.enclose {x y : Except Fault Record} {name} (a : Approximates x y) :
    Approximates (enclose name x) (enclose name y) := by
  rcases a with rfl | rfl
  · exact .inl rfl
  · exact .inr rfl

/-- Folds with approximate steps are approximate. -/
lemma Approximates.foldlM {f g : β → α → Except Fault β} {xs : List α} {start}
    (steps : ∀ b a, Approximates (f b a) (g b a)) :
    Approximates (xs.foldlM f start) (xs.foldlM g start) := by
  induction xs generalizing start with
  | nil => exact .inr rfl
  | cons x rest ih =>
    rw [List.foldlM_cons, List.foldlM_cons]
    exact (steps start x).bind fun _ => ih

section Monotone

variable {next next' : Descent} (below : ∀ schema? v, Approximates (next schema? v) (next' schema? v))

include below

/-- Descending is as approximate as the assertions below. -/
lemma descend_approximates {p : Property} {v} :
    Approximates (descend (tableServices T) next p v) (descend (tableServices T) next' p v) := by
  cases e : p.nesting with
  | plain =>
    rw [descend_plain e, descend_plain e]
    exact .inr rfl
  | reference target =>
    rw [descend_reference e, descend_reference e]
    cases T.schema? target with
    | error fault => exact .inr rfl
    | ok schema? => exact (below schema? v).enclose
  | inline properties =>
    rw [descend_inline e, descend_inline e]
    cases v.entries? with
    | none => exact .inr rfl
    | some entries => exact (below (some properties) v).enclose

/-- Settling a property is approximated when the walks below it are. -/
lemma settle_approximates {p : Property} {v} :
    Approximates (settle F T next p v) (settle F T next' p v) := by
  apply Approximates.bind (.inr rfl)
  intro w
  apply Approximates.bind (descend_approximates below)
  intro x
  exact .inr rfl

/-- A step is approximated when the walks below it are. -/
lemma step_approximates {record p} :
    Approximates (step (tableServices T) F next record p)
      (step (tableServices T) F next' record p) := by
  rw [step_eq, step_eq]
  split
  · exact .inr rfl
  · exact (settle_approximates below).map

/-- A level is as approximate as the assertions below it. -/
lemma level_approximates {schema? v} :
    Approximates (level F T next schema? v) (level F T next' schema? v) := by
  unfold level
  split
  · exact .inr rfl
  · exact .inr rfl
  · exact .foldlM fun record p => step_approximates below

end Monotone

/-- A walk gives what the walks of greater budgets give, unless its budget is used up. -/
lemma walk_approximates {budget schema? v} (more : Nat) :
    Approximates (walk (tableServices T) F budget schema? v)
      (walk (tableServices T) F (budget + more) schema? v) := by
  induction budget generalizing schema? v with
  | zero => exact .inl rfl
  | succ budget ih =>
    rw [Nat.succ_add, walk_succ, walk_succ]
    exact level_approximates fun schema? v => ih

/-- What a walk reaches, walks of greater budgets reach too. -/
lemma walk_mono {budget budget' schema? v x} (le : budget ≤ budget')
    (e : walk (tableServices T) F budget schema? v = x) (ne : x ≠ .error .exhausted) :
    walk (tableServices T) F budget' schema? v = x := by
  obtain ⟨more, rfl⟩ := Nat.exists_eq_add_of_le le
  have a : Approximates (walk (tableServices T) F budget schema? v)
      (walk (tableServices T) F (budget + more) schema? v) := walk_approximates more
  rcases a with spent | same
  · exact (ne (e.symm.trans spent)).elim
  · exact same.symm.trans e

/-- What descending into a value reaches, it also reaches with greater budgets below. -/
lemma descend_mono {budget budget' p v x} (le : budget ≤ budget')
    (e : descend (tableServices T) (walk (tableServices T) F budget) p v = .ok x) :
    descend (tableServices T) (walk (tableServices T) F budget') p v = .ok x := by
  obtain ⟨more, rfl⟩ := Nat.exists_eq_add_of_le le
  have a : Approximates (descend (tableServices T) (walk (tableServices T) F budget) p v)
      (descend (tableServices T) (walk (tableServices T) F (budget + more)) p v) :=
    descend_approximates fun schema? v => walk_approximates more
  rcases a with spent | same
  · rw [e] at spent
    cases spent
  · exact same.symm.trans e

/-- A greater budget settles what a smaller one does. -/
lemma settle_mono {budget budget' p v x} (le : budget ≤ budget')
    (e : settle F T (walk (tableServices T) F budget) p v = .ok x) :
    settle F T (walk (tableServices T) F budget') p v = .ok x := by
  obtain ⟨w, et, ed, hold⟩ := settle_ok_iff.1 e
  exact settle_ok_iff.2 ⟨w, et, descend_mono le ed, hold⟩

/-- A row of properties makes of a record what it makes with greater budgets below, unless its budget
is used up. -/
lemma row_approximates {budget budget' properties record} (le : budget ≤ budget') :
    Approximates
      (List.foldlM (step (tableServices T) F (walk (tableServices T) F budget)) record properties)
      (List.foldlM (step (tableServices T) F (walk (tableServices T) F budget')) record
        properties) := by
  obtain ⟨more, rfl⟩ := Nat.exists_eq_add_of_le le
  exact .foldlM fun record p => step_approximates fun schema? v => walk_approximates more

/-- What a row of properties makes of a record, it also makes with greater budgets below. -/
lemma foldlM_step_mono {budget budget' properties record last} (le : budget ≤ budget')
    (e : List.foldlM (step (tableServices T) F (walk (tableServices T) F budget)) record
      properties = .ok last) :
    List.foldlM (step (tableServices T) F (walk (tableServices T) F budget')) record properties =
      .ok last := by
  rcases row_approximates le with spent | same
  · rw [e] at spent
    cases spent
  · exact same.symm.trans e

/-- No transform gives a value of greater depth than its argument. -/
def KeepsDepth (transforms : Registry Transform) : Prop :=
  ∀ name f v w, transforms.get? name = some f → f v = .ok w → w.depth ≤ v.depth

/-- No function stops a run by claiming that its budget is used up. -/
structure NeverExhausts (F : Functions) : Prop where
  transforms : ∀ name f v, F.transforms.get? name = some f → f v ≠ .error .exhausted
  rules : ∀ name holds v argument, F.rules.get? name = some holds →
    holds v argument ≠ .error .exhausted

/-- A row of transforms that keep depth keeps depth. -/
lemma applyAll_depth_le {transforms names v w} (keeps : KeepsDepth transforms)
    (e : Transform.applyAll transforms names v = .ok w) : w.depth ≤ v.depth := by
  induction names generalizing v with
  | nil =>
    cases e
    exact Nat.le_refl _
  | cons name rest ih =>
    obtain ⟨_, e⟩ | ⟨f, u, ef, eu, e⟩ := applyAll_cons_ok e
    · exact ih e
    · exact Nat.le_trans (ih e) (keeps _ _ _ _ ef eu)

/-- A way to assert that gives records no deeper than their values. -/
def Shallow (next : Descent) : Prop :=
  ∀ schema? v record, next schema? v = .ok record → (Value.record false record).depth ≤ v.depth

section Depth

variable (keeps : KeepsDepth F.transforms) {next : Descent} (shallow : Shallow next)

include keeps shallow

/-- Settling a value does not deepen it. -/
lemma settle_depth_le {p : Property} {v x} (e : settle F T next p v = .ok x) :
    x.depth ≤ v.depth := by
  obtain ⟨w, et, ed, _⟩ := settle_ok_iff.1 e
  have le := applyAll_depth_le keeps et
  obtain ⟨_, rfl⟩ | ⟨schema?, record, _, er, rfl⟩ := descend_ok_iff.1 ed
  · exact le
  · exact Nat.le_trans (shallow _ _ _ er) le

/-- A step does not deepen the entries of a record. -/
lemma step_entriesDepth_le {record p last}
    (e : step (tableServices T) F next record p = .ok last) :
    Value.entriesDepth last ≤ Value.entriesDepth record := by
  obtain ⟨_, _, rfl⟩ | ⟨v, x, ev, es, rfl⟩ := step_ok_iff.1 e
  · exact Nat.le_refl _
  · have settled := settle_depth_le keeps shallow es
    have found := Value.depth_le_of_get? ev
    have set := Value.entriesDepth_set_le record p.name x
    omega

/-- A row of properties does not deepen a record. -/
lemma foldlM_entriesDepth_le {properties record last}
    (e : List.foldlM (step (tableServices T) F next) record properties = .ok last) :
    Value.entriesDepth last ≤ Value.entriesDepth record := by
  apply foldlM_invariant (fun r => Value.entriesDepth r ≤ Value.entriesDepth record) e
    (Nat.le_refl _)
  intro p _ mid last le es
  exact Nat.le_trans (step_entriesDepth_le keeps shallow es) le

/-- A level does not deepen a value, if the walks below it do not. -/
lemma level_depth_le : Shallow (level F T next) := by
  intro schema? v record e
  cases v with
  | record frozen entries =>
    cases schema? with
    | none => cases e
    | some schema =>
      have kept := foldlM_entriesDepth_le keeps shallow e
      simpa [Value.depth] using kept
  | _ => cases e

end Depth

/-- A walk gives a record no deeper than the data. -/
lemma walk_depth_le (keeps : KeepsDepth F.transforms) {budget} :
    Shallow (walk (tableServices T) F budget) := by
  induction budget with
  | zero => nofun
  | succ budget ih => exact level_depth_le keeps ih

section Stable

variable (keeps : KeepsDepth F.transforms) {next next' : Descent} (shallow : Shallow next)

include keeps in
/-- Settling a value asks only about values no deeper than it. -/
lemma settle_congr {p : Property} {v depth} (le : v.depth ≤ depth)
    (same : ∀ schema? w, w.depth ≤ depth → next schema? w = next' schema? w) :
    settle F T next p v = settle F T next' p v := by
  unfold settle
  cases et : Transform.applyAll F.transforms p.transforms v with
  | error fault => rfl
  | ok w =>
    have below : ∀ schema?, next schema? w = next' schema? w := fun schema? =>
      same schema? w (Nat.le_trans (applyAll_depth_le keeps et) le)
    have descent : descend (tableServices T) next p w = descend (tableServices T) next' p w := by
      cases en : p.nesting with
      | plain => rw [descend_plain en, descend_plain en]
      | reference target => simp only [descend_reference en, below]
      | inline properties => simp only [descend_inline en, below]
    change (descend (tableServices T) next p w >>= _) = (descend (tableServices T) next' p w >>= _)
    rw [descent]

include keeps shallow in
/-- A row of properties asks only about values no deeper than the entries of the record. -/
lemma foldlM_step_congr {properties record depth} (le : Value.entriesDepth record ≤ depth)
    (same : ∀ schema? w, w.depth ≤ depth → next schema? w = next' schema? w) :
    List.foldlM (step (tableServices T) F next) record properties =
      List.foldlM (step (tableServices T) F next') record properties := by
  induction properties generalizing record with
  | nil => rfl
  | cons p rest ih =>
    have first : step (tableServices T) F next record p =
        step (tableServices T) F next' record p := by
      rw [step_eq, step_eq]
      cases ev : Record.get? record p.name with
      | none => rfl
      | some v =>
        dsimp only
        rw [settle_congr keeps (Nat.le_trans (Value.depth_le_of_get? ev) le) same]
    rw [List.foldlM_cons, List.foldlM_cons, ← first]
    cases es : step (tableServices T) F next record p with
    | error fault => rfl
    | ok mid => exact ih (Nat.le_trans (step_entriesDepth_le keeps shallow es) le)

end Stable

/-- A budget beyond the depth of the data is as good as any greater one. -/
lemma walk_stable (keeps : KeepsDepth F.transforms) {budget schema? v} (deep : v.depth < budget)
    (more : Nat) :
    walk (tableServices T) F budget schema? v =
      walk (tableServices T) F (budget + more) schema? v := by
  induction budget generalizing schema? v with
  | zero => exact absurd deep (Nat.not_lt_zero _)
  | succ budget ih =>
    rw [Nat.succ_add, walk_succ, walk_succ]
    cases v with
    | record frozen entries =>
      cases schema? with
      | none => rfl
      | some schema =>
        -- What lies below a mapping is less deep, also after the properties before have changed it.
        have within : Value.entriesDepth entries < budget := by
          simpa [Value.depth] using deep
        exact foldlM_step_congr keeps (walk_depth_le keeps) (Nat.le_refl _)
          fun schema? w le => ih (Nat.lt_of_le_of_lt le within)
    | _ => rfl

/-- The budget that an assertion sets itself is beyond the depth of the data. -/
lemma depth_lt_budgetFor {v : Value} : v.depth < budgetFor v := by
  unfold budgetFor
  omega

/-- Settling a value is exhausted only when an assertion that the property descends into is. -/
lemma settle_exhausted {next : Descent} {p v} (never : NeverExhausts F)
    (e : settle F T next p v = .error .exhausted) :
    ∃ w schema?, Transform.applyAll F.transforms p.transforms v = .ok w ∧
      Descends T p w schema? ∧ next schema? w = .error .exhausted := by
  cases settle_error_iff.1 e with
  | transform et =>
    obtain ⟨_, name, _, f, w, _, _, ef, raises⟩ := applyAll_error et
    exact (never.transforms name f w ef raises).elim
  | @descent w _ et fails =>
    -- Only a nested walk runs out of its budget.
    generalize ex : Fault.exhausted = fault at fails
    cases fails with
    | lookup en es =>
      obtain ⟨flaw, rfl⟩ := Table.schema?_error es
      cases ex
    | notObject en ev => cases ex
    | @nested schema? inner d ei =>
      cases inner with
      | exhausted => exact ⟨w, schema?, et, d, ei⟩
      | _ => cases ex
  | @rule w _ _ rule _ _ et ed stated hold fails =>
    generalize ex : Fault.exhausted = fault at fails
    cases fails with
    | unknown er => cases ex
    | refused er eh => cases ex
    | raised er eh =>
      cases ex
      exact (never.rules _ _ _ _ er eh).elim

/-- A budget beyond the depth of the data is never used up, unless a function says so itself. -/
lemma walk_ne_exhausted (keeps : KeepsDepth F.transforms) (never : NeverExhausts F)
    {budget schema? v} (deep : v.depth < budget) :
    walk (tableServices T) F budget schema? v ≠ .error .exhausted := by
  induction budget generalizing schema? v with
  | zero => exact absurd deep (Nat.not_lt_zero _)
  | succ budget ih =>
    intro e
    rw [walk_succ] at e
    cases v with
    | record frozen entries =>
      cases schema? with
      | none => cases e
      | some schema =>
        have within : Value.entriesDepth entries < budget := by
          simpa [Value.depth] using deep
        -- The property that exhausts the budget meets a record no deeper than the data.
        obtain ⟨before, p, after, mid, _, em, ep⟩ := foldlM_error e
        have kept := foldlM_entriesDepth_le keeps (walk_depth_le keeps) em
        obtain ⟨_, _, ex⟩ | ⟨w, ew, es⟩ := step_error_iff.1 ep
        · cases ex
        · obtain ⟨u, schema?, et, _, eu⟩ := settle_exhausted never es
          have le := applyAll_depth_le keeps et
          have found := Value.depth_le_of_get? ew
          exact ih (by omega) eu
    | _ => cases e

end RecordSchema.Assertion
