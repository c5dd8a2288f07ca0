import RecordSchema.Proofs.Reach

/-!
# What the built-in functions raise

The built-in transforms and rules keep a walk shallow (`builtin_keepsDepth`) and never use its budget
up (`builtin_neverExhausts`). Most of what they raise blames the schema; `Uncaught` lists what does
not: `toInt` overflows on the value that it gets, or a pattern cannot be counted out. `uncaught_iff`
says that the list is complete and that nothing on it is avoided.
-/

namespace RecordSchema

/-- A registered function is an entry of its registry. -/
lemma Registry.mem_of_get? {α : Type} {r : Registry α} {name f} (e : r.get? name = some f) :
    (name, f) ∈ r.entries := by
  obtain ⟨before, after, e, _⟩ := List.lookup_eq_some_iff.1 e
  rw [e]
  exact List.mem_append_right _ List.mem_cons_self

namespace Transform

/-- The built-in transforms are these three. -/
lemma builtin_cases {name f} (e : builtin.get? name = some f) :
    (name = "trim" ∧ f = trim) ∨ (name = "toLowerCase" ∧ f = toLowerCase) ∨
      (name = "toInt" ∧ f = toInt) := by
  have mem : (name, f) ∈ ([("trim", trim), ("toLowerCase", toLowerCase), ("toInt", toInt)] :
      List (Text × Transform)) :=
    Registry.mem_of_get? e
  simpa only [List.mem_cons, Prod.mk.injEq, List.not_mem_nil, or_false] using mem

/-- What `toInt` overflows on: an integer beyond the finite numbers, or a text that starts with too
many digits. -/
inductive Overflows : Value → Mishap → Prop where
  | integer {n} :
    Double.overflows n = true →
    Overflows (.int n) .integerTooLarge
  | text {s digits} :
    Text.leadingInteger s.toList = .tooLong digits →
    Overflows (.text s) (.tooManyDigits digits)

/-- The transform `toInt` stops a run exactly where it overflows. -/
lemma toInt_error_iff {v fault} :
    toInt v = .error fault ↔ ∃ mishap, fault = .mishap mishap ∧ Overflows v mishap := by
  constructor
  · intro e
    cases v with
    | int n =>
      unfold toInt at e
      dsimp only at e
      split at e
      · cases e
        exact ⟨_, rfl, .integer ‹_›⟩
      · cases e
    | float x =>
      unfold toInt at e
      dsimp only at e
      split at e <;> cases e
    | text s =>
      unfold toInt at e
      dsimp only at e
      split at e
      · cases e
      · cases e
        exact ⟨_, rfl, .text ‹_›⟩
      · cases e
    | _ => cases e
  · rintro ⟨mishap, rfl, overflows⟩
    cases overflows with
    | integer eo =>
      unfold toInt
      dsimp only
      rw [if_pos eo]
    | text el =>
      unfold toInt
      dsimp only
      rw [el]

/-- A built-in transform that stops a run is `toInt`, and it overflows. -/
lemma builtin_error {name f v fault} (ef : builtin.get? name = some f) (e : f v = .error fault) :
    name = "toInt" ∧ ∃ mishap, fault = .mishap mishap ∧ Overflows v mishap := by
  obtain ⟨rfl, rfl⟩ | ⟨rfl, rfl⟩ | ⟨rfl, rfl⟩ := builtin_cases ef
  · cases v <;> cases e
  · cases v <;> cases e
  · exact ⟨rfl, toInt_error_iff.1 e⟩

end Transform

namespace Rule

/-- The built-in rules are these nine. -/
lemma builtin_cases {name holds} (e : builtin.get? name = some holds) :
    (name = "type" ∧ holds = type) ∨ (name = "minLength" ∧ holds = minLength) ∨
      (name = "maxLength" ∧ holds = maxLength) ∨ (name = "isInteger" ∧ holds = isInteger) ∨
      (name = "min" ∧ holds = min) ∨ (name = "max" ∧ holds = max) ∨
      (name = "pattern" ∧ holds = pattern) ∨ (name = "enum" ∧ holds = enum) ∨
      (name = "isFunction" ∧ holds = isFunction) := by
  have mem : (name, holds) ∈ ([("type", type), ("minLength", minLength), ("maxLength", maxLength),
      ("isInteger", isInteger), ("min", min), ("max", max), ("pattern", pattern), ("enum", enum),
      ("isFunction", isFunction)] : List (Text × Rule)) :=
    Registry.mem_of_get? e
  simpa only [List.mem_cons, Prod.mk.injEq, List.not_mem_nil, or_false] using mem

/-- A fault is a mishap that blames the schema. -/
def BlamesSchema (fault : Fault) : Prop :=
  ∃ mishap, fault = .mishap mishap ∧ mishap.blamesSchema = true

/-- Comparing with a lower bound fails only for a bound that is no number. -/
lemma atLeast_error {typeName x bound fault} (e : atLeast typeName x bound = .error fault) :
    BlamesSchema fault := by
  unfold atLeast at e
  split at e
  · cases e
  · cases e
    exact ⟨_, rfl, rfl⟩

/-- Comparing with an upper bound fails only because of the schema. -/
lemma atMost_error {typeName x bound fault} (e : atMost typeName x bound = .error fault) :
    BlamesSchema fault := by
  unfold atMost at e
  split at e
  · cases e
  · cases e
    exact ⟨_, rfl, rfl⟩

/-- An argument fails to be a pattern for its type, or for the fault of a text. -/
lemma patternOf_error {argument fault} (e : patternOf argument = .error fault) :
    BlamesSchema fault ∨ ∃ source cause, argument = .text source ∧
      Pattern.ofText source.toList = .error cause ∧ fault = .mishap (.badPattern cause) := by
  unfold patternOf at e
  split at e
  · split at e
    · cases e
    · cases e
      exact .inr ⟨_, _, rfl, ‹_›, rfl⟩
  · split at e
    · cases e
      exact .inl ⟨_, rfl, rfl⟩
    · cases e
      exact .inl ⟨_, rfl, rfl⟩

/-- The rule `pattern` fails only on a text, for an argument that is no pattern. -/
lemma pattern_error {v argument fault} (e : pattern v argument = .error fault) :
    ∃ s, v = .text s ∧ patternOf argument = .error fault := by
  cases v with
  | text s =>
    unfold pattern at e
    dsimp only at e
    split at e
    · cases e
    · cases e
      exact ⟨s, rfl, ‹_›⟩
  | _ => cases e

/-- A built-in rule that stops a run blames the schema, unless it is `pattern` and fails to read
one. -/
lemma builtin_error {name holds v argument fault} (eh : builtin.get? name = some holds)
    (e : holds v argument = .error fault) :
    BlamesSchema fault ∨ name = "pattern" ∧ ∃ s source cause, v = .text s ∧
      argument = .text source ∧ Pattern.ofText source.toList = .error cause ∧
      fault = .mishap (.badPattern cause) := by
  obtain ⟨rfl, rfl⟩ | ⟨rfl, rfl⟩ | ⟨rfl, rfl⟩ | ⟨rfl, rfl⟩ | ⟨rfl, rfl⟩ | ⟨rfl, rfl⟩ | ⟨rfl, rfl⟩ |
    ⟨rfl, rfl⟩ | ⟨rfl, rfl⟩ := builtin_cases eh
  · cases e
  · unfold minLength at e
    split at e
    · exact .inl (atLeast_error e)
    · cases e
  · unfold maxLength at e
    split at e
    · exact .inl (atMost_error e)
    · cases e
  · cases v <;> cases e
  · cases v with
    | int => exact .inl (atLeast_error e)
    | float => exact .inl (atLeast_error e)
    | _ => cases e
  · cases v with
    | int => exact .inl (atMost_error e)
    | float => exact .inl (atMost_error e)
    | _ => cases e
  · -- The one rule with an argument that may be of the right type and still not be read.
    obtain ⟨s, rfl, ep⟩ := pattern_error e
    obtain blames | ⟨source, cause, rfl, ec, ef⟩ := patternOf_error ep
    · exact .inl blames
    · exact .inr ⟨rfl, s, source, cause, rfl, rfl, ec, ef⟩
  · unfold enum at e
    split at e
    · cases e
    · cases e
      exact .inl ⟨_, rfl, rfl⟩
  · cases v <;> cases e

end Rule

namespace Assertion

/-- No built-in transform deepens a value. -/
lemma builtin_keepsDepth : KeepsDepth Functions.builtin.transforms := by
  intro name f v w ef e
  obtain ⟨_, rfl⟩ | ⟨_, rfl⟩ | ⟨_, rfl⟩ := Transform.builtin_cases ef
  · cases v <;> cases e <;> exact Nat.le_refl _
  · cases v <;> cases e <;> exact Nat.le_refl _
  · unfold Transform.toInt at e
    split at e
    · split at e
      · cases e
      · cases e
        exact Nat.le_refl _
    · split at e <;> cases e <;> exact Nat.le_refl _
    · split at e <;> cases e <;> exact Nat.le_refl _
    · cases e
      exact Nat.zero_le _

/-- No built-in function claims that the budget of a run is used up. -/
lemma builtin_neverExhausts : NeverExhausts Functions.builtin where
  transforms := by
    intro name f v ef e
    obtain ⟨_, mishap, em, _⟩ := Transform.builtin_error ef e
    cases em
  rules := by
    intro name holds v argument eh e
    obtain ⟨mishap, em, _⟩ | ⟨_, _, _, _, _, _, _, em⟩ := Rule.builtin_error eh e
    · cases em
    · cases em

/-- What the built-in functions raise at a property of a record without blaming the schema: `toInt`
overflows, or a text is to match a pattern that has no flaw but cannot be read. -/
inductive Uncaught (p : Property) (record : Record) : Mishap → Prop where
  | transform {v before after w mishap} :
    Record.get? record p.name = some v →
    p.transforms = before ++ ("toInt" : Text) :: after →
    Transform.applyAll Transform.builtin before v = .ok w →
    Transform.Overflows w mishap →
    Uncaught p record mishap
  | pattern {s before source after cause} :
    Transforms .builtin p record (.text s) →
    p.nesting = .plain →
    p.rules = before ++ (("pattern" : Text), Value.text source) :: after →
    (∀ rule ∈ before, Holds Rule.builtin (.text s) rule) →
    Pattern.ofText source.toList = .error cause →
    (∀ flaw place?, cause ≠ .flaw flaw place?) →
    Uncaught p record (.badPattern cause)

variable {F : Functions} {T : Table}

/-- Descending goes well into a text exactly when the property is plain. -/
lemma clears_text_iff {p : Property} {s} : Clears F T p (.text s) ↔ p.nesting = .plain := by
  constructor
  · rintro ⟨budget, x, ed⟩
    obtain ⟨en, _⟩ | ⟨schema?, record, _, ew, _⟩ := descend_ok_iff.1 ed
    · exact en
    · cases budget <;> cases ew
  · intro en
    exact ⟨0, _, descend_plain en⟩

/-- `Uncaught` is what the built-in functions raise without blaming the schema. -/
lemma uncaught_iff {p record mishap} :
    Uncaught p record mishap ↔
      Raises .builtin T p record (.mishap mishap) ∧ mishap.blamesSchema = false := by
  constructor
  · intro uncaught
    cases uncaught with
    | @transform v before after w _ eg stated ew overflows =>
      refine ⟨.transform eg ?_, by cases overflows <;> rfl⟩
      have raised : Transform.toInt w = .error (.mishap mishap) :=
        Transform.toInt_error_iff.2 ⟨_, rfl, overflows⟩
      rw [stated, applyAll_append]
      refine bind_error_iff.2 (.inr ⟨w, ew, ?_⟩)
      have found : Functions.builtin.transforms.get? "toInt" = some Transform.toInt := rfl
      rw [Transform.applyAll, found]
      dsimp only
      rw [raised]
    | @pattern s before source after cause t en stated hold ec flawless =>
      constructor
      · apply Raises.rule t (clears_text_iff.2 en) stated hold rfl
        change Rule.pattern (.text s) (.text source) = _
        simp only [Rule.pattern, Rule.patternOf, ec]
      · cases cause with
        | flaw flaw place? => exact (flawless flaw place? rfl).elim
        | _ => rfl
  · rintro ⟨raises, calm⟩
    cases raises with
    | transform eg et =>
      obtain ⟨before, name, after, f, w, stated, ew, ef, raised⟩ := applyAll_error et
      obtain ⟨rfl, _, em, overflows⟩ := Transform.builtin_error ef raised
      cases em
      exact .transform eg stated ew overflows
    | rule t clears stated hold er eh =>
      obtain ⟨_, em, blames⟩ | ⟨rfl, s, source, cause, rfl, rfl, ec, em⟩ := Rule.builtin_error er eh
      · cases em
        rw [blames] at calm
        cases calm
      · cases em
        apply Uncaught.pattern t (clears_text_iff.1 clears) stated hold ec
        rintro flaw place? rfl
        cases calm

end Assertion

end RecordSchema
