import RecordSchema.Proofs.Builtin
import RecordSchema.Proofs.Grammar

/-!
# Storable results

A computation is safe when what it gives is good and the value of a failure that stops it can be stored
(`Safe`). Where all functions are safe on storable values, so is a walk on storable data, at whatever
depth it ends (`walk_safe`). The built-in functions are, as far as the result of `toInt` for what holds
no integer counts as storable (`builtin_keepsStorable`).
-/

namespace RecordSchema

namespace Json

variable {P : Double → Prop}

/-- What is under a name of a storable record can be stored. -/
lemma Storable.get? {r : Record} {name v} (storable : Storable P (.record false r))
    (e : Record.get? r name = some v) : Storable P v := by
  cases storable with
  | record _ each => exact each _ (Record.mem_of_get? e)

/-- The entries of a value are a storable record again. -/
lemma Storable.entries {v r} (storable : Storable P v) (e : v.entries? = some r) :
    Storable P (.record false r) := by
  cases storable with
  | record keys each =>
    cases e
    exact .record keys each
  | _ => cases e

end Json

namespace Assertion

open Json (Storable)

variable {α β : Type} {P : Double → Prop}

/-- What a computation gives is good, and the value of a failure that stops it can be stored. -/
def Safe (P : Double → Prop) (good : α → Prop) : Except Fault α → Prop
  | .ok a => good a
  | .error (.failure failure) => Storable P failure.value
  | .error _ => True

/-- What a fault is worth does not depend on what there would have been without it. -/
lemma Safe.error {good : α → Prop} {good' : β → Prop} {fault}
    (safe : Safe P good (.error fault)) : Safe P good' (.error fault) := by
  cases fault <;> exact safe

/-- A mishap has no value to be stored. -/
lemma Safe.mishap {good : α → Prop} {mishap} : Safe P good (.error (.mishap mishap)) :=
  trivial

/-- A computation is safe when its start is and what follows is. -/
lemma Safe.bind {good : α → Prop} {good' : β → Prop} {x : Except Fault α}
    {f : α → Except Fault β} (safe : Safe P good x) (next : ∀ a, good a → Safe P good' (f a)) :
    Safe P good' (x >>= f) := by
  cases x with
  | ok a => exact next a safe
  | error fault => exact safe.error

/-- A fold is safe when each of its steps is. -/
lemma Safe.foldlM {good : β → Prop} {f : β → α → Except Fault β} {xs : List α} {start}
    (first : good start) (each : ∀ x mid, good mid → Safe P good (f mid x)) :
    Safe P good (xs.foldlM f start) := by
  induction xs generalizing start with
  | nil => exact first
  | cons x rest ih =>
    rw [List.foldlM_cons]
    exact (each x start first).bind fun mid kept => ih kept

/-- Only what is reported of a failed rule, or by a function, has a value. -/
lemma Safe.violated {good : α → Prop} {path violation} (none : violation.value = .null) :
    Safe P good (.error (.violated path violation)) := by
  change Storable P violation.value
  rw [none]
  exact .null

/-- A failure is as safe outside of a property. -/
lemma Safe.within {good : α → Prop} {good' : β → Prop} {name fault}
    (safe : Safe P good (.error fault)) : Safe P good' (.error (fault.within name)) := by
  cases fault with
  | failure => exact safe
  | mishap => exact Storable.null
  | schema => trivial
  | exhausted => trivial

/-- Functions make storable values of storable ones, and report no others. -/
structure KeepsStorable (P : Double → Prop) (F : Functions) : Prop where
  transforms : ∀ name f v, F.transforms.get? name = some f → Storable P v →
    Safe P (Storable P) (f v)
  rules : ∀ name holds v argument, F.rules.get? name = some holds → Storable P v →
    Safe P (fun _ => True) (holds v argument)

section Walk

variable {F : Functions} {T : Table} (keeps : KeepsStorable P F)

include keeps

/-- Applying transforms is safe. -/
lemma applyAll_safe {names v} (storable : Storable P v) :
    Safe P (Storable P) (Transform.applyAll F.transforms names v) := by
  induction names generalizing v with
  | nil => exact storable
  | cons name rest ih =>
    rw [Transform.applyAll]
    cases ef : F.transforms.get? name with
    | none => exact ih storable
    | some f =>
      have safe := keeps.transforms name f v ef storable
      dsimp only
      cases eu : f v with
      | ok u =>
        rw [eu] at safe
        exact ih safe
      | error fault =>
        rw [eu] at safe
        exact safe.error

/-- Checking rules is safe. -/
lemma checkRules_safe {name v stated} (storable : Storable P v) :
    Safe P (fun _ => True) (checkRules (m := Except Fault) F.rules name v stated) := by
  induction stated with
  | nil => trivial
  | cons rule rest ih =>
    obtain ⟨rule, argument⟩ := rule
    rw [checkRules_cons]
    cases er : F.rules.get? rule with
    | none => exact Storable.null
    | some holds =>
      have safe := keeps.rules rule holds v argument er storable
      dsimp only
      cases eh : holds v argument with
      | error fault =>
        rw [eh] at safe
        exact safe.error
      | ok b =>
        cases b with
        | true => exact ih
        | false => exact storable

omit keeps in
/-- A nested assertion is enclosed in its property as it is. -/
lemma enclose_safe {name x} (safe : Safe P (fun r => Storable P (.record false r)) x) :
    Safe P (Storable P) (enclose name x) := by
  cases x with
  | ok record => exact safe
  | error fault => exact safe.within

section Step

variable {next : Descent}
  (below : ∀ schema? v, Storable P v → Safe P (fun r => Storable P (.record false r)) (next schema? v))

include below

omit keeps in
/-- Descending is safe. -/
lemma descend_safe {p v} (storable : Storable P v) :
    Safe P (Storable P) (descend (tableServices T) next p v) := by
  cases en : p.nesting with
  | plain =>
    rw [descend_plain en]
    exact storable
  | reference target =>
    rw [descend_reference en]
    cases es : T.schema? target with
    | error fault =>
      obtain ⟨flaw, rfl⟩ := Table.schema?_error es
      trivial
    | ok schema? => exact enclose_safe (below schema? v storable)
  | inline properties =>
    rw [descend_inline en]
    cases v.entries? with
    | none => exact .violated rfl
    | some entries => exact enclose_safe (below _ v storable)

/-- Settling is safe. -/
lemma settle_safe {p v} (storable : Storable P v) :
    Safe P (Storable P) (settle F T next p v) := by
  apply (applyAll_safe keeps storable).bind
  intro w transformed
  apply (descend_safe below transformed).bind
  intro x settled
  apply (checkRules_safe keeps transformed).bind
  exact fun _ _ => settled

/-- A step is safe. -/
lemma step_safe {record p} (storable : Storable P (.record false record)) :
    Safe P (fun r => Storable P (.record false r))
      (step (tableServices T) F next record p) := by
  rw [step_eq]
  cases eg : Record.get? record p.name with
  | none =>
    dsimp only
    split
    · exact storable
    · exact .violated rfl
  | some v =>
    have safe := settle_safe keeps below (T := T) (p := p) (storable.get? eg)
    dsimp only
    cases es : settle F T next p v with
    | ok x =>
      rw [es] at safe
      exact storable.set safe
    | error fault =>
      rw [es] at safe
      exact safe.error

end Step

/-- A walk on storable data is safe at every depth. -/
lemma walk_safe {budget schema? v} (storable : Storable P v) :
    Safe P (fun r => Storable P (.record false r))
      (walk (tableServices T) F budget schema? v) := by
  induction budget generalizing schema? v with
  | zero => trivial
  | succ budget ih =>
    rw [walk_succ]
    cases en : v.entries? with
    | none =>
      rw [level_notRecord en]
      exact .violated rfl
    | some record =>
      cases schema? with
      | none =>
        rw [level_noSchema en]
        trivial
      | some schema =>
        rw [level_record en]
        apply Safe.foldlM
        · exact storable.entries en
        · intro p mid kept
          exact step_safe keeps (fun _ _ => ih) kept

/-- Asserting is safe. -/
lemma sanitize_safe {document v} (storable : Storable P v) :
    Safe P (fun r => Storable P (.record false r)) (sanitize F T (.document document) v) := by
  rw [sanitize]
  cases ec : (Source.document document).compile T.resolves with
  | ok schema =>
    rw [sanitizeWithin_eq ec]
    exact walk_safe keeps storable
  | error fault =>
    obtain ⟨flaw, rfl⟩ := Schema.compile_error ec
    rw [sanitizeWithin, ec]
    trivial

end Walk

/-- The built-in transforms that are no `toInt` keep values storable. -/
lemma builtin_transform_safe {name f v} (ef : Transform.builtin.get? name = some f)
    (other : name ≠ "toInt") (storable : Storable P v) : Safe P (Storable P) (f v) := by
  obtain ⟨rfl, rfl⟩ | ⟨rfl, rfl⟩ | ⟨rfl, _⟩ := Transform.builtin_cases ef
  · cases v with
    | text s => exact Storable.text
    | _ => exact storable
  · cases v with
    | text s => exact Storable.text
    | _ => exact storable
  · exact (other rfl).elim

/-- The transform `toInt` gives an integer or the same not-a-number for everything. -/
lemma toInt_safe (nan : P (.nan false)) {v} : Safe P (Storable P) (Transform.toInt v) := by
  cases e : Transform.toInt v with
  | error fault =>
    obtain ⟨mishap, rfl, _⟩ := Transform.toInt_error_iff.1 e
    exact .mishap
  | ok w =>
    have missing : Storable P Transform.notANumber := .float nan
    change Storable P w
    unfold Transform.toInt at e
    split at e
    · split at e
      · cases e
      · cases e
        exact .int
    · split at e
      · cases e
        exact .int
      · cases e
        exact missing
    · split at e
      · cases e
        exact .int
      · cases e
      · cases e
        exact missing
    · cases e
      exact missing

/-- The built-in rules report nothing. -/
lemma builtin_rule_safe {name holds v argument} (eh : Rule.builtin.get? name = some holds) :
    Safe P (fun _ => True) (holds v argument) := by
  cases e : holds v argument with
  | ok b => trivial
  | error fault =>
    obtain ⟨mishap, rfl, _⟩ | ⟨_, _, _, _, _, _, _, rfl⟩ := Rule.builtin_error eh e
    · exact .mishap
    · exact .mishap

/-- The built-in functions keep values storable where the not-a-number of `toInt` is. -/
lemma builtin_keepsStorable (nan : P (.nan false)) : KeepsStorable P .builtin where
  transforms := by
    intro name f v ef storable
    by_cases same : name = "toInt"
    · subst same
      cases ef
      exact toInt_safe nan
    · exact builtin_transform_safe ef same storable
  rules := fun _ _ _ _ eh _ => builtin_rule_safe eh

/-- The built-in functions with a `toInt` that changes nothing. -/
def withoutToInt : Functions :=
  { Functions.builtin with transforms := Transform.builtin.put "toInt" .ok }

/-- Without what `toInt` does, the built-in functions keep values storable in any case. -/
lemma withoutToInt_keepsStorable : KeepsStorable P withoutToInt where
  transforms := by
    intro name f v ef storable
    by_cases same : name = "toInt"
    · subst same
      cases ef
      exact storable
    · have found : Transform.builtin.get? name = some f :=
        (Registry.get?_put_of_ne _ same _).symm.trans ef
      exact builtin_transform_safe found same storable
  rules := fun _ _ _ _ eh _ => builtin_rule_safe eh

end Assertion

end RecordSchema
