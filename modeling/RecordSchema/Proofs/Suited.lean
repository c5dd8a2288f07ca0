import RecordSchema.Proofs.Record
import RecordSchema.Rule

/-!
# Rules and their arguments

Every built-in rule looks at values of some kinds and asks for an argument of some kinds (`Inspects`,
`Suits`). It is a mishap to ask it about a value that it looks at with an argument that does not suit it,
and nothing else is (`Guards`): the rule fails for all other values, whatever the argument, and gives an
answer for an argument that suits it, whatever the value (`invoke_error_iff`).
-/

namespace RecordSchema

namespace Value

/-- What has a length. -/
inductive Measured : Value → Prop where
  | text {s} :
    Measured (.text s)
  | list {items} :
    Measured (.list items)
  | tuple {items} :
    Measured (.tuple items)

/-- Numbers; a boolean is none. -/
inductive Numeric : Value → Prop where
  | int {n} :
    Numeric (.int n)
  | float {x} :
    Numeric (.float x)

/-- What numbers can be compared with, which booleans are too. -/
inductive Comparable : Value → Prop where
  | bool {b} :
    Comparable (.bool b)
  | int {n} :
    Comparable (.int n)
  | float {x} :
    Comparable (.float x)

/-- What can be gone through item by item. -/
inductive Iterable : Value → Prop where
  | text {s} :
    Iterable (.text s)
  | list {items} :
    Iterable (.list items)
  | tuple {items} :
    Iterable (.tuple items)
  | record {readOnly entries} :
    Iterable (.record readOnly entries)

/-- A text that can be read as a pattern. -/
inductive Searchable : Value → Prop where
  | text {s pattern} :
    Pattern.ofText s.toList = .ok pattern →
    Searchable (.text s)

/-- A value that is measured has a length. -/
lemma length?_measured {v : Value} (measured : v.Measured) : ∃ n, v.length? = some n := by
  cases measured <;> exact ⟨_, rfl⟩

/-- A value that is not measured has no length. -/
lemma length?_unmeasured {v : Value} (unmeasured : ¬v.Measured) : v.length? = none := by
  cases v with
  | text => exact (unmeasured .text).elim
  | list => exact (unmeasured .list).elim
  | tuple => exact (unmeasured .tuple).elim
  | _ => rfl

/-- A value that can be compared counts as a number. -/
lemma number?_comparable {v : Value} (comparable : v.Comparable) : ∃ x, v.number? = some x := by
  cases comparable <;> exact ⟨_, rfl⟩

/-- A value that cannot be compared counts as none. -/
lemma number?_incomparable {v : Value} (incomparable : ¬v.Comparable) : v.number? = none := by
  cases v with
  | bool => exact (incomparable .bool).elim
  | int => exact (incomparable .int).elim
  | float => exact (incomparable .float).elim
  | _ => rfl

/-- A value that lists others has them as items. -/
lemma items?_iterable {v : Value} (iterable : v.Iterable) : ∃ items, v.items? = some items := by
  cases iterable <;> exact ⟨_, rfl⟩

/-- A value that lists none has no items. -/
lemma items?_of_not_iterable {v : Value} (single : ¬v.Iterable) : v.items? = none := by
  cases v with
  | text => exact (single .text).elim
  | list => exact (single .list).elim
  | tuple => exact (single .tuple).elim
  | record => exact (single .record).elim
  | _ => rfl

end Value

namespace Rule

/-- A rule looks at some values, for which it needs a suitable argument, and fails for all others without
looking at the argument. -/
structure Guards (holds : Rule) (inspects suits : Value → Prop) : Prop where
  refuses {v argument} : inspects v → ¬suits argument →
    ∃ mishap, holds v argument = .error (.mishap mishap)
  answers {v argument} : inspects v → suits argument → ∃ b, holds v argument = .ok b
  fails {v argument} : ¬inspects v → holds v argument = .ok false

/-- A way to compare numbers with bounds, which only refuses bounds that are no numbers. -/
structure Compares (compare : String → Number → Value → Except Fault Bool) : Prop where
  refuses {typeName x bound} : ¬bound.Comparable →
    ∃ mishap, compare typeName x bound = .error (.mishap mishap)
  answers {typeName x bound} : bound.Comparable → ∃ b, compare typeName x bound = .ok b

/-- Lower bounds are compared with numbers only. -/
lemma compares_atLeast : Compares atLeast where
  refuses incomparable := by
    rw [atLeast, Value.number?_incomparable incomparable]
    exact ⟨_, rfl⟩
  answers comparable := by
    obtain ⟨y, e⟩ := Value.number?_comparable comparable
    rw [atLeast, e]
    exact ⟨_, rfl⟩

/-- Upper bounds are compared with numbers only. -/
lemma compares_atMost : Compares atMost where
  refuses incomparable := by
    rw [atMost, Value.number?_incomparable incomparable]
    exact ⟨_, rfl⟩
  answers comparable := by
    obtain ⟨y, e⟩ := Value.number?_comparable comparable
    rw [atMost, e]
    exact ⟨_, rfl⟩

section Bounds

variable {compare : String → Number → Value → Except Fault Bool} (compares : Compares compare)

include compares

/-- A rule that compares lengths. -/
lemma Compares.guards_length : Guards
    (fun v bound => match v.length? with
      | some n => compare "int" (.int n) bound
      | none => .ok false) Value.Measured Value.Comparable where
  refuses measured incomparable := by
    obtain ⟨n, e⟩ := Value.length?_measured measured
    rw [e]
    exact compares.refuses incomparable
  answers measured comparable := by
    obtain ⟨n, e⟩ := Value.length?_measured measured
    rw [e]
    exact compares.answers comparable
  fails unmeasured := by
    rw [Value.length?_unmeasured unmeasured]

/-- A rule that compares numbers. -/
lemma Compares.guards_number : Guards
    (fun v bound => match v with
      | .int n => compare "int" (.int n) bound
      | .float x => compare "float" (.double x) bound
      | _ => .ok false) Value.Numeric Value.Comparable where
  refuses numeric incomparable := by
    cases numeric <;> exact compares.refuses incomparable
  answers numeric comparable := by
    cases numeric <;> exact compares.answers comparable
  fails {v _} other := by
    cases v with
    | int => exact (other .int).elim
    | float => exact (other .float).elim
    | _ => rfl

end Bounds

/-- The rule `type` takes any argument. -/
lemma guards_type : Guards type (fun _ => True) fun _ => True where
  refuses _ unsuited := (unsuited trivial).elim
  answers _ _ := ⟨_, rfl⟩
  fails uninspected := (uninspected trivial).elim

/-- The rule `minLength` wants a number for what has a length. -/
lemma guards_minLength : Guards minLength Value.Measured Value.Comparable :=
  compares_atLeast.guards_length

/-- The rule `maxLength` wants a number for what has a length. -/
lemma guards_maxLength : Guards maxLength Value.Measured Value.Comparable :=
  compares_atMost.guards_length

/-- The rule `isInteger` takes any argument. -/
lemma guards_isInteger : Guards isInteger Value.Numeric fun _ => True where
  refuses _ unsuited := (unsuited trivial).elim
  answers numeric _ := by
    cases numeric <;> exact ⟨_, rfl⟩
  fails {v _} other := by
    cases v with
    | int => exact (other .int).elim
    | float => exact (other .float).elim
    | _ => rfl

/-- The rule `min` wants a number for numbers. -/
lemma guards_min : Guards min Value.Numeric Value.Comparable :=
  compares_atLeast.guards_number

/-- The rule `max` wants a number for numbers. -/
lemma guards_max : Guards max Value.Numeric Value.Comparable :=
  compares_atMost.guards_number

variable {argument : Value}

/-- An argument that can be searched for is a pattern. -/
lemma patternOf_searchable (searchable : argument.Searchable) :
    ∃ pattern, patternOf argument = .ok pattern := by
  cases searchable with
  | @text s pattern read =>
    refine ⟨pattern, ?_⟩
    simp only [patternOf, read]

/-- An argument that cannot be searched for is a mishap. -/
lemma patternOf_unsearchable (unsearchable : ¬argument.Searchable) :
    ∃ mishap, patternOf argument = .error (.mishap mishap) := by
  unfold patternOf
  split
  · split
    · exact (unsearchable (.text ‹_›)).elim
    · exact ⟨_, rfl⟩
  · split <;> exact ⟨_, rfl⟩

/-- The rule `pattern` wants a pattern for texts. -/
lemma guards_pattern : Guards pattern (fun v => ∃ s, v = .text s) Value.Searchable where
  refuses := by
    rintro _ argument ⟨s, rfl⟩ unsearchable
    obtain ⟨mishap, e⟩ := patternOf_unsearchable unsearchable
    exact ⟨mishap, by simp only [pattern, e]⟩
  answers := by
    rintro _ argument ⟨s, rfl⟩ searchable
    obtain ⟨p, e⟩ := patternOf_searchable searchable
    exact ⟨p.search s.toList, by simp only [pattern, e]⟩
  fails {v _} other := by
    cases v with
    | text s => exact (other ⟨s, rfl⟩).elim
    | _ => rfl

/-- The rule `enum` wants a list for any value. -/
lemma guards_enum : Guards enum (fun _ => True) Value.Iterable where
  refuses _ single := by
    rw [enum, Value.items?_of_not_iterable single]
    exact ⟨_, rfl⟩
  answers _ iterable := by
    obtain ⟨items, e⟩ := Value.items?_iterable iterable
    rw [enum, e]
    exact ⟨_, rfl⟩
  fails uninspected := (uninspected trivial).elim

/-- The rule `isFunction` takes any argument. -/
lemma guards_isFunction : Guards isFunction (fun _ => True) fun _ => True where
  refuses _ unsuited := (unsuited trivial).elim
  answers {v _} _ _ := by
    cases v <;> exact ⟨_, rfl⟩
  fails uninspected := (uninspected trivial).elim

/-- The values that a built-in rule looks at. -/
def Inspects : Text → Value → Prop
  | "minLength" => Value.Measured
  | "maxLength" => Value.Measured
  | "min" => Value.Numeric
  | "max" => Value.Numeric
  | "isInteger" => Value.Numeric
  | "pattern" => fun v => ∃ s, v = .text s
  | _ => fun _ => True

/-- The arguments that suit a built-in rule. -/
def Suits : Text → Value → Prop
  | "minLength" => Value.Comparable
  | "maxLength" => Value.Comparable
  | "min" => Value.Comparable
  | "max" => Value.Comparable
  | "pattern" => Value.Searchable
  | "enum" => Value.Iterable
  | _ => fun _ => True

/-- Every built-in rule keeps to the values that it looks at and the arguments that suit it. -/
lemma guards_invoke {name} (known : name ∈ builtin.names) :
    Guards (invoke builtin name) (Inspects name) (Suits name) := by
  have mem : name ∈ (["type", "minLength", "maxLength", "isInteger", "min", "max", "pattern", "enum",
      "isFunction"] : List Text) := known
  simp only [List.mem_cons, List.not_mem_nil, or_false] at mem
  obtain rfl | rfl | rfl | rfl | rfl | rfl | rfl | rfl | rfl := mem
  · exact guards_type
  · exact guards_minLength
  · exact guards_maxLength
  · exact guards_isInteger
  · exact guards_min
  · exact guards_max
  · exact guards_pattern
  · exact guards_enum
  · exact guards_isFunction

/-- A built-in rule stops a run exactly when it looks at the value and the argument does not suit it. In all
other cases it gives an answer, whatever the value if the argument suits it, and it fails for the values that
it does not look at, whatever the argument. -/
theorem invoke_error_iff {name} (known : name ∈ builtin.names) (v argument : Value) :
    ((∃ fault, invoke builtin name v argument = .error fault) ↔
        Inspects name v ∧ ¬Suits name argument) ∧
      (¬(Inspects name v ∧ ¬Suits name argument) → ∃ b, invoke builtin name v argument = .ok b) ∧
      (Suits name argument → ∀ w, ∃ b, invoke builtin name w argument = .ok b) ∧
      (¬Inspects name v → invoke builtin name v argument = .ok false) := by
  have guards := guards_invoke known
  have answered : ∀ w, ¬(Inspects name w ∧ ¬Suits name argument) →
      ∃ b, invoke builtin name w argument = .ok b := by
    intro w calm
    by_cases inspected : Inspects name w
    · exact guards.answers inspected (not_not.1 fun unsuited => calm ⟨inspected, unsuited⟩)
    · exact ⟨false, guards.fails inspected⟩
  refine ⟨⟨?_, ?_⟩, answered v, ?_, guards.fails⟩
  · rintro ⟨fault, raised⟩
    by_contra calm
    obtain ⟨b, e⟩ := answered v calm
    cases raised.symm.trans e
  · rintro ⟨inspected, unsuited⟩
    obtain ⟨mishap, e⟩ := guards.refuses inspected unsuited
    exact ⟨_, e⟩
  · exact fun suited w => answered w fun ⟨_, unsuited⟩ => unsuited suited

/-- A group that is left open is no pattern, which only matters to texts. -/
theorem invoke_error_openGroup :
    ("pattern" : Text) ∈ builtin.names ∧
      (∃ fault, invoke builtin "pattern" (.text "a") (.text "(") = .error fault) ∧
      invoke builtin "pattern" (.int 1) (.text "(") = .ok false := by
  have known : ("pattern" : Text) ∈ builtin.names := by
    decide
  have unread : (Pattern.ofText ("(" : Text).toList).toOption.isNone = true := by
    decide +kernel
  have unsearchable : ¬(Value.text "(").Searchable := by
    rintro ⟨read⟩
    rw [read] at unread
    cases unread
  refine ⟨known, ?_, ?_⟩
  · exact (invoke_error_iff known _ _).1.2 ⟨⟨"a", rfl⟩, unsearchable⟩
  · apply (invoke_error_iff known _ _).2.2.2
    rintro ⟨s, text⟩
    cases text

/-- A repetition is reluctant or possessive, and no pattern when it is both. -/
example : (Pattern.ofText ("a*?" : Text).toList).isOk = true ∧
    (Pattern.ofText ("a*+" : Text).toList).isOk = true ∧
    (Pattern.ofText ("a*?+" : Text).toList).isOk = false := by
  decide +kernel

end Rule

end RecordSchema
