import RecordSchema.Proofs.Walk

/-!
# Computations with a state

The walk is written over any monad of runs. `Follows` says that a computation with a state gives what
a plain one gives as long as an invariant of the state holds, and keeps the invariant. It is enough to
know this of the look-ups and notes of a walk to have it of the whole walk (`follows_walk`), and only
of the look-ups that the walk comes to: those of references in the schemas it goes down with.
-/

namespace RecordSchema.Assertion

variable {σ α β : Type} {Inv : σ → Prop}

/-- A computation with a state gives what a plain one gives, and keeps an invariant of the state. -/
def Follows (Inv : σ → Prop) (x : ExceptT Fault (StateM σ) α) (y : Except Fault α) : Prop :=
  ∀ s, Inv s → (x.run.run s).1 = y ∧ Inv (x.run.run s).2

/-- A computation with a state goes on with what the first part leaves. -/
lemma run_bind {s : σ} {x : ExceptT Fault (StateM σ) α} {f : α → ExceptT Fault (StateM σ) β} :
    (x >>= f).run.run s =
      match x.run.run s with
      | (.ok a, later) => (f a).run.run later
      | (.error fault, later) => (.error fault, later) := by
  change ExceptT.bindCont f (x.run.run s).1 (x.run.run s).2 = _
  rcases x.run.run s with ⟨_ | _, _⟩ <;> rfl

/-- A fault is handled with the state that it leaves. -/
lemma run_tryCatch {s : σ} {x : ExceptT Fault (StateM σ) α}
    {handler : Fault → ExceptT Fault (StateM σ) α} :
    (tryCatch x handler).run.run s =
      match x.run.run s with
      | (.ok a, later) => (.ok a, later)
      | (.error fault, later) => (handler fault).run.run later := by
  change (ExceptT.tryCatch x handler).run.run s = _
  simp only [ExceptT.tryCatch, ExceptT.mk, ExceptT.run, StateT.run_bind]
  generalize StateT.run x s = later
  rcases later with ⟨_ | _, _⟩ <;> rfl

/-- A result leaves the state alone. -/
lemma run_lift {s : σ} (x : Except Fault α) :
    (lift x : ExceptT Fault (StateM σ) α).run.run s = (x, s) := by
  cases x <;> rfl

/-- Giving a result follows giving it. -/
lemma follows_pure (a : α) : Follows Inv (pure a) (pure a) :=
  fun _ inv => ⟨rfl, inv⟩

/-- A fault follows itself. -/
lemma follows_throw (fault : Fault) : Follows (α := α) Inv (throw fault) (throw fault) :=
  fun _ inv => ⟨rfl, inv⟩

/-- A result follows itself. -/
lemma follows_lift (x : Except Fault α) : Follows Inv (lift x) (lift x) := by
  intro s inv
  rw [run_lift, lift_eq]
  exact ⟨rfl, inv⟩

/-- A computation with a continuation follows a plain one when both parts do, the continuation for
what the plain computation gives. -/
lemma Follows.bind {x : ExceptT Fault (StateM σ) α} {y f} {g : α → Except Fault β}
    (first : Follows Inv x y) (rest : ∀ a, y = .ok a → Follows Inv (f a) (g a)) :
    Follows Inv (x >>= f) (y >>= g) := by
  intro s inv
  have here := first s inv
  rw [run_bind]
  generalize x.run.run s = result at here ⊢
  obtain ⟨e, inv⟩ := here
  obtain ⟨z, later⟩ := result
  cases e
  cases z with
  | error fault => exact ⟨rfl, inv⟩
  | ok a => exact rest a rfl later inv

/-- What is handled follows what is handled alike. -/
lemma Follows.tryCatch {x : ExceptT Fault (StateM σ) α} {y handler}
    {handler' : Fault → Except Fault α} (first : Follows Inv x y)
    (rest : ∀ fault, Follows Inv (handler fault) (handler' fault)) :
    Follows Inv (tryCatch x handler) (tryCatch y handler') := by
  intro s inv
  have here := first s inv
  rw [run_tryCatch]
  generalize x.run.run s = result at here ⊢
  obtain ⟨e, inv⟩ := here
  obtain ⟨z, later⟩ := result
  cases e
  cases z with
  | error fault => exact rest fault later inv
  | ok a => exact ⟨rfl, inv⟩

/-- A fold follows another one when each of its steps does. -/
lemma Follows.foldlM {f : β → α → ExceptT Fault (StateM σ) β} {g : β → α → Except Fault β}
    {xs : List α} {start}
    (steps : ∀ a ∈ xs, ∀ b, Follows Inv (f b a) (g b a)) :
    Follows Inv (xs.foldlM f start) (xs.foldlM g start) := by
  induction xs generalizing start with
  | nil => exact follows_pure start
  | cons x rest ih =>
    rw [List.foldlM_cons, List.foldlM_cons]
    apply (steps x List.mem_cons_self start).bind
    intro b _
    exact ih fun a mem => steps a (List.mem_cons_of_mem _ mem)

/-- A loop follows another one when each of its rounds does. -/
lemma Follows.forM {f : α → ExceptT Fault (StateM σ) Unit} {g : α → Except Fault Unit}
    {xs : List α}
    (each : ∀ a, Follows Inv (f a) (g a)) : Follows Inv (xs.forM f) (xs.forM g) := by
  induction xs with
  | nil => exact follows_pure ()
  | cons x rest ih => exact (each x).bind fun _ _ => ih

section Walk

variable {F : Functions} {T : Table} {services : Services (ExceptT Fault (StateM σ))}

/-- Applying transforms follows the same with a bare table. -/
lemma follows_transform {transforms names v}
    (notes : ∀ name, Follows Inv (services.noteSkipped name) (pure ())) :
    Follows Inv (transform services transforms names v)
      (transform (tableServices T) transforms names v) := by
  induction names generalizing v with
  | nil => exact follows_pure v
  | cons name rest ih =>
    rw [transform, transform]
    cases transforms.get? name with
    | none => exact (notes name).bind fun _ _ => ih
    | some f => exact (follows_lift (f v)).bind fun _ _ => ih

/-- Checking rules follows itself. -/
lemma follows_checkRules {rules : Registry Rule} {name v stated} :
    Follows Inv (checkRules rules name v stated) (checkRules rules name v stated) := by
  induction stated with
  | nil => exact follows_pure ()
  | cons rule rest ih =>
    obtain ⟨rule, argument⟩ := rule
    rw [checkRules, checkRules]
    cases rules.get? rule with
    | none => exact follows_throw _
    | some holds =>
      apply (follows_lift (holds v argument)).bind
      intro b _
      cases b with
      | true => exact ih
      | false => exact follows_throw _

variable {next : Option Schema → Value → ExceptT Fault (StateM σ) Record} {next' : Descent}

/-- Descending into the value of a property follows the plain way when its look-up and the assertions
below do. -/
lemma follows_descend {p : Property} {v}
    (lookups : ∀ target, p.nesting = .reference target →
      Follows Inv (services.schema? target) (T.schema? target))
    (below : ∀ schema?, Descends T p v schema? → Follows Inv (next schema? v) (next' schema? v)) :
    Follows Inv (descend services next p v) (descend (tableServices T) next' p v) := by
  have enclosed : ∀ schema?, Descends T p v schema? → Follows Inv
      (do return Value.record false (← Assertion.below p.name (next schema? v)))
      (do return Value.record false (← Assertion.below p.name (next' schema? v))) := by
    intro schema? d
    apply Follows.bind
    · exact (below schema? d).tryCatch fun _ => follows_throw _
    · exact fun record _ => follows_pure _
  unfold descend
  cases en : p.nesting with
  | plain => exact follows_pure v
  | reference target =>
    apply (lookups target en).bind
    intro schema? es
    exact enclosed schema? (.reference en es)
  | inline properties =>
    cases ev : v.entries? with
    | none => exact follows_throw _
    | some entries => exact enclosed (some properties) (.inline en ev)

/-- A step follows the same with a bare table, when its look-ups and the walks below it do. -/
lemma follows_step {record p}
    (notes : ∀ name, Follows Inv (services.noteSkipped name) (pure ()))
    (lookups : ∀ target, p.nesting = .reference target →
      Follows Inv (services.schema? target) (T.schema? target))
    (below : ∀ v schema?, Descends T p v schema? → Follows Inv (next schema? v) (next' schema? v)) :
    Follows Inv (step services F next record p) (step (tableServices T) F next' record p) := by
  unfold step
  cases Record.get? record p.name with
  | none =>
    cases p.optional with
    | true => exact follows_pure record
    | false => exact follows_throw _
  | some v =>
    apply (follows_transform notes).bind
    intro v _
    apply (follows_descend lookups (below v)).bind
    intro w _
    apply follows_checkRules.bind
    intro _ _
    exact follows_pure _

/-- A walk with a state follows the plain one when its notes do, and its look-ups for the properties of
whatever schemas it goes down with: `Own` says which these are. -/
lemma follows_walk (Own : Option Schema → Prop) {budget schema? v}
    (notes : ∀ name, Follows Inv (services.noteSkipped name) (pure ()))
    (lookups : ∀ schema, Own (some schema) → ∀ p ∈ schema, ∀ target, p.nesting = .reference target →
      Follows Inv (services.schema? target) (T.schema? target))
    (keeps : ∀ schema, Own (some schema) → ∀ p ∈ schema, ∀ v inner, Descends T p v inner → Own inner)
    (own : Own schema?) :
    Follows Inv (walk services F budget schema? v)
      (walk (tableServices T) F budget schema? v) := by
  induction budget generalizing schema? v with
  | zero => exact follows_throw _
  | succ budget ih =>
    unfold walk
    cases v.entries? with
    | none => exact follows_throw _
    | some record =>
      cases schema? with
      | none => exact follows_throw _
      | some schema =>
        apply Follows.foldlM
        intro p mem record
        apply follows_step notes (lookups schema own p mem)
        intro v inner d
        exact ih (keeps schema own p mem v inner d)

end Walk

end RecordSchema.Assertion
