import RecordSchema.Proofs.Exact
import RecordSchema.Proofs.Idempotence
import RecordSchema.Proofs.Leading

/-!
# Truncation to integers

What values are truncated to (`Truncates`): the integer that a text starts with, unless it has too many digits,
an integer as it is, and a finite number without its fraction, all of them exactly. That is what `toInt`
gives for all values but the integers that are too large to be finite numbers (`toInt_iff`): it refuses those
(`toInt_largeInteger`).
-/

namespace RecordSchema

/-- Integers that are nearer to an infinite number than to any finite one are too large. -/
lemma Double.overflows_iff {n : Int} : Double.overflows n = true ↔ 2 ^ 1024 - 2 ^ 970 ≤ n.natAbs := by
  have power : ∀ k, twoPow k = 2 ^ k := fun _ => rfl
  rw [overflows, power, power, decide_eq_true_iff]

namespace Transform

/-- What a value is truncated to. -/
inductive Truncates : Value → Except Fault Value → Prop where
  | numeral {s negative digits} :
    Text.StartsWith negative digits s.toList →
    digits.length ≤ 4300 →
    Truncates (.text s) (.ok (.int (Text.integerOf negative digits)))
  | longNumeral {s negative digits} :
    Text.StartsWith negative digits s.toList →
    4300 < digits.length →
    Truncates (.text s) (.error (.mishap (.tooManyDigits digits.length)))
  | noNumeral {s} :
    (∀ negative digits, ¬Text.StartsWith negative digits s.toList) →
    Truncates (.text s) (.ok notANumber)
  | int {n} :
    Truncates (.int n) (.ok (.int n))
  | finite {x q} :
    x.value? = some q →
    Truncates (.float x) (.ok (.int (towardZero q)))
  | notFinite {x} :
    x.value? = none →
    Truncates (.float x) (.ok notANumber)
  | other {v} :
    (∀ s, v ≠ .text s) →
    (∀ n, v ≠ .int n) →
    (∀ x, v ≠ .float x) →
    Truncates v (.ok notANumber)

variable {v w : Value} {r : Except Fault Value}

/-- A text that starts with an integer is that integer, unless it has too many digits. -/
lemma toInt_text_startsWith {s negative digits} (starts : Text.StartsWith negative digits s.toList) :
    toInt (.text s) =
      if 4300 < digits.length then .error (.mishap (.tooManyDigits digits.length))
      else .ok (.int (Text.integerOf negative digits)) := by
  rw [toInt, Text.leadingInteger_startsWith starts, Text.digitLimit]
  by_cases many : 4300 < digits.length
  · rw [if_pos many, if_pos many]
  · rw [if_neg many, if_neg many]

/-- A text that starts with no integer is not-a-number. -/
lemma toInt_text_missing {s} (none : ∀ negative digits, ¬Text.StartsWith negative digits s.toList) :
    toInt (.text s) = .ok notANumber := by
  rw [toInt, Text.leadingInteger_missing none]

/-- A binary64 number loses its fraction, and what is no finite number is not-a-number. -/
lemma toInt_float (x : Double) :
    toInt (.float x) = .ok ((x.value?.map fun q => .int (towardZero q)).getD notANumber) := by
  rw [toInt, Double.truncate?_eq]
  cases x.value? <;> rfl

/-- An integer that is too large for a binary64 number is a mishap. -/
lemma toInt_of_overflows {n} (large : Double.overflows n = true) :
    toInt (.int n) = .error (.mishap .integerTooLarge) := by
  rw [toInt, if_pos large]

/-- Nothing else holds an integer. -/
lemma toInt_other (text : ∀ s, v ≠ .text s) (int : ∀ n, v ≠ .int n) (float : ∀ x, v ≠ .float x) :
    toInt v = .ok notANumber := by
  cases v with
  | int n => exact (int n rfl).elim
  | float x => exact (float x rfl).elim
  | text s => exact (text s rfl).elim
  | _ => rfl

/-- An integer that `toInt` does not refuse is near enough to the finite numbers. -/
lemma natAbs_lt_of_toInt {n} (e : toInt (.int n) = .ok w) : n.natAbs < 2 ^ 1024 - 2 ^ 970 := by
  by_contra large
  rw [toInt_of_overflows (Double.overflows_iff.2 (Nat.le_of_not_lt large))] at e
  cases e

/-- Truncating is what `toInt` does, to integers that are not too large. -/
lemma Truncates.toInt_eq (truncates : Truncates v r)
    (small : ∀ n, v = .int n → n.natAbs < 2 ^ 1024 - 2 ^ 970) : toInt v = r := by
  cases truncates with
  | numeral starts few => rw [toInt_text_startsWith starts, if_neg few.not_gt]
  | longNumeral starts many => rw [toInt_text_startsWith starts, if_pos many]
  | noNumeral none => exact toInt_text_missing none
  | @int n => rw [toInt, if_neg (mt Double.overflows_iff.1 (small n rfl).not_ge)]
  | finite e =>
    rw [toInt_float, e]
    rfl
  | notFinite e =>
    rw [toInt_float, e]
    rfl
  | other text int float => exact toInt_other text int float

/-- The result of `toInt` is what the value is truncated to, unless it is an integer that is too large. -/
lemma Truncates.toInt_eq_iff (truncates : Truncates v r) :
    toInt v = r ↔ ∀ n, v = .int n → n.natAbs < 2 ^ 1024 - 2 ^ 970 := by
  refine ⟨?_, truncates.toInt_eq⟩
  rintro e n rfl
  cases truncates with
  | int => exact natAbs_lt_of_toInt e
  | other text int float => exact (int n rfl).elim

/-- Every value is truncated to something. -/
lemma exists_truncates (v : Value) : ∃ r, Truncates v r := by
  cases v with
  | text s =>
    by_cases starts : ∃ negative digits, Text.StartsWith negative digits s.toList
    · obtain ⟨negative, digits, starts⟩ := starts
      by_cases few : digits.length ≤ 4300
      · exact ⟨_, .numeral starts few⟩
      · exact ⟨_, .longNumeral starts (Nat.lt_of_not_le few)⟩
    · exact ⟨_, .noNumeral fun negative digits h => starts ⟨negative, digits, h⟩⟩
  | int n => exact ⟨_, .int⟩
  | float x =>
    cases e : x.value? with
    | some q => exact ⟨_, .finite e⟩
    | none => exact ⟨_, .notFinite e⟩
  | _ => exact ⟨_, .other nofun nofun nofun⟩

/-- The rule `isInteger` tells the integers that `toInt` gives from what it gives otherwise. -/
lemma isInteger_toInt {argument} (e : toInt v = .ok w) :
    Rule.isInteger w argument = .ok true ↔ ∃ n, w = .int n := by
  obtain ⟨n, rfl⟩ | rfl := toInt_ok e
  · exact iff_of_true rfl ⟨n, rfl⟩
  · constructor
    · nofun
    · rintro ⟨n, ⟨⟩⟩

/-- An integer that is written in a text behind blanks is what the text is truncated to. -/
lemma toInt_writeInt {n : Int} {blanks rest : List Point}
    (few : (Decimal.digitsOf n.natAbs).length ≤ 4300)
    (blank : ∀ c ∈ blanks, Text.isBlank c = true)
    (stops : ∀ c tail, rest = c :: tail → Text.isDigit c = false) :
    toInt (.text (Text.ofList (blanks ++ (Decimal.writeInt n : Text).toList ++ rest))) = .ok (.int n) := by
  have starts := Text.startsWith_writeInt n blank stops
  rw [← Text.toList_ofList (blanks ++ _ ++ rest)] at starts
  rw [toInt_text_startsWith starts, List.length_map, if_neg few.not_gt, Text.integerOf_digitsOf]

/-- The transform `toInt` gives what a value is truncated to, unless that is an integer nearer to infinity than
to the finite numbers, which it refuses. What it gives is an integer, which `isInteger` accepts, or
not-a-number, which it does not accept. A written integer of at most 4300 digits is read as itself, whatever
blanks stand in front of it and whatever follows it but a digit. -/
theorem toInt_iff (v : Value) :
    (∃ r, Truncates v r) ∧
      (∀ r, Truncates v r → (toInt v = r ↔ ∀ n, v = .int n → n.natAbs < 2 ^ 1024 - 2 ^ 970)) ∧
      (∀ n, v = .int n → 2 ^ 1024 - 2 ^ 970 ≤ n.natAbs →
        toInt v = .error (.mishap .integerTooLarge)) ∧
      (∀ w argument, toInt v = .ok w →
        ((∃ n, w = .int n) ∨ w = notANumber) ∧
          (Rule.isInteger w argument = .ok true ↔ ∃ n, w = .int n)) ∧
      ∀ n blanks rest, (Decimal.digitsOf n.natAbs).length ≤ 4300 →
        (∀ c ∈ blanks, Text.isBlank c = true) →
        (∀ c tail, rest = c :: tail → Text.isDigit c = false) →
        v = .text (Text.ofList (blanks ++ (Decimal.writeInt n : Text).toList ++ rest)) →
        toInt v = .ok (.int n) := by
  refine ⟨exists_truncates v, fun r => Truncates.toInt_eq_iff, ?_, ?_, ?_⟩
  · rintro n rfl large
    exact toInt_of_overflows (Double.overflows_iff.2 large)
  · exact fun w argument e => ⟨toInt_ok e, isInteger_toInt e⟩
  · rintro n blanks rest few blank stops rfl
    exact toInt_writeInt few blank stops

/-- A text that starts with an integer in digits of another script, and an integer that is written and read
again. -/
theorem toInt_otherScript :
    Text.StartsWith true ['٤', '٢'] ("\t-٤٢px" : Text).toList ∧
      toInt (.text "\t-٤٢px") = .ok (.int (-42)) ∧ Rule.isInteger (.int (-42)) .null = .ok true ∧
      toInt (.text (Text.ofList ([.char ' '] ++ (Decimal.writeInt (-7) : Text).toList ++ [.char '.']))) =
        .ok (.int (-7)) := by
  have starts : Text.StartsWith true ['٤', '٢'] ("\t-٤٢px" : Text).toList := by
    refine @Text.StartsWith.intro true ['٤', '٢'] ['\t'] ['-'] ['p', 'x'] ?_ .minus ?_ ?_ ?_
    · exact List.forall_mem_singleton.2 (by decide)
    · nofun
    · exact List.forall_mem_cons.2
        ⟨by decide +kernel, List.forall_mem_singleton.2 (by decide +kernel)⟩
    · rintro c tail ⟨⟩
      decide +kernel
  have number : Text.integerOf true ['٤', '٢'] = -42 := by
    decide
  obtain ⟨_, truncates, _, integer, _⟩ := toInt_iff (.text "\t-٤٢px")
  have read : toInt (.text "\t-٤٢px") = .ok (.int (-42)) :=
    (truncates _ (number ▸ .numeral starts (by decide))).2 nofun
  obtain ⟨_, _, _, _, written⟩ :=
    toInt_iff (.text (Text.ofList ([.char ' '] ++ (Decimal.writeInt (-7) : Text).toList ++ [.char '.'])))
  refine ⟨starts, read, (integer _ _ read).2.2 ⟨_, rfl⟩, written _ _ _ ?_ ?_ ?_ rfl⟩
  · decide
  · exact List.forall_mem_singleton.2 (by decide)
  · rintro c tail ⟨⟩
    decide +kernel

/-- An integer that is too large is refused, and not given as it is. -/
theorem toInt_largeInteger :
    toInt (.int (10 ^ 309)) = .error (.mishap .integerTooLarge) ∧
      toInt (.int (10 ^ 309)) ≠ .ok (.int (10 ^ 309)) := by
  have refused := toInt_of_overflows Assertion.overflows_manyDigits
  refine ⟨refused, ?_⟩
  rw [refused]
  nofun

end Transform

end RecordSchema
