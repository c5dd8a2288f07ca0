import RecordSchema.Proofs.Caseless
import RecordSchema.Proofs.Truncation

/-!
# Transforms in any order

The order and the repetition of the built-in transforms do not matter: all of `trim` and `toLowerCase` can be
collected (`applyAll_tidied`), and are as good as nothing beside `toInt` (`applyAll_toInt`). There is one
exception: a text that starts with an integer that is too large for `toInt` itself (`Outgrows`) can be read
once but not twice. So rows of the same transforms do the same to each value unless one of them repeats
`toInt` and the value is such a text (`applyAll_unordered`).
-/

namespace RecordSchema

namespace Double

/-- No finite number has more units than the greatest one. -/
lemma magnitude_le (exponent : Fin 2047) (fraction : Fin fractionCount) :
    magnitude exponent fraction ≤ (2 * fractionCount - 1) * twoPow 2045 := by
  unfold magnitude
  split
  · exact (show fraction.val ≤ 2 * fractionCount - 1 by omega).trans
      (Nat.le_mul_of_pos_right _ (twoPow_pos 2045))
  · exact Nat.mul_le_mul (by omega) (twoPow_le (by omega))

/-- Finite numbers without their fractions are not too large. -/
lemma truncate?_not_overflows {x : Double} {n} (e : x.truncate? = some n) : ¬overflows n = true := by
  cases x with
  | finite negative exponent fraction =>
    cases e
    have units : (signed negative (magnitude exponent fraction)).natAbs =
        magnitude exponent fraction := by
      cases negative <;> simp [signed]
    have below : magnitude exponent fraction < twoPow unitBits * (twoPow 1024 - twoPow 970) :=
      (magnitude_le exponent fraction).trans_lt (by decide +kernel)
    rw [overflows, decide_eq_true_iff, Nat.not_le, Int.natAbs_tdiv, units,
      Int.natAbs_natCast]
    exact Nat.div_lt_of_lt_mul below
  | _ => cases e

end Double

namespace Text

variable {trims lowers trims' lowers' : Bool}

/-- A text in lower case, if it is put in lower case, and without blanks at its ends, if it is trimmed. -/
def tidy (trims lowers : Bool) (cs : List Point) : List Point :=
  let lowered := if lowers then lower cs else cs
  if trims then trim lowered else lowered

/-- Trimming twice is trimming once. -/
lemma trim_trim (cs : List Point) : trim (trim cs) = trim cs :=
  trim_of_trimmed trimmed_trim

/-- Lowering twice is lowering once. -/
lemma lower_lower (cs : List Point) : lower (lower cs) = lower cs :=
  lower_of_lowered lowered_lower

/-- Tidying up twice is tidying up once, in all the ways together. -/
lemma tidy_tidy (cs : List Point) :
    tidy trims lowers (tidy trims' lowers' cs) = tidy (trims || trims') (lowers || lowers') cs := by
  cases trims <;> cases lowers <;> cases trims' <;> cases lowers' <;>
    simp [tidy, lower_trim, trim_trim, lower_lower]

/-- Tidying a text keeps the integer that it starts with. -/
lemma leadingInteger_tidy (cs : List Point) :
    leadingInteger (tidy trims lowers cs) = leadingInteger cs := by
  cases trims <;> cases lowers <;> simp [tidy, leadingInteger_trim, leadingInteger_lower]

end Text

namespace Transform

variable {names names' : List Text} {v w : Value} {trims lowers trims' lowers' : Bool}

/-- A value that is tidied up if it is a text. -/
def tidied (trims lowers : Bool) (v : Value) : Value :=
  match v with
  | .text s => .text (Text.ofList (Text.tidy trims lowers s.toList))
  | _ => v

/-- The transform `trim` tidies by trimming alone. -/
lemma trim_tidied (v : Value) : trim v = .ok (tidied true false v) := by
  cases v <;> rfl

/-- The transform `toLowerCase` tidies by lowering alone. -/
lemma toLowerCase_tidied (v : Value) : toLowerCase v = .ok (tidied false true v) := by
  cases v <;> rfl

/-- Tidying by nothing changes nothing. -/
lemma tidied_false (v : Value) : tidied false false v = v := by
  cases v with
  | text s => exact congrArg _ (Text.ofList_toList s)
  | _ => rfl

/-- Tidying twice is tidying by all that either does. -/
lemma tidied_tidied (v : Value) :
    tidied trims lowers (tidied trims' lowers' v) = tidied (trims || trims') (lowers || lowers') v := by
  cases v with
  | text s => simp only [tidied, Text.toList_ofList, Text.tidy_tidy]
  | _ => rfl

/-- Tidying up does not change the integer in a value. -/
lemma toInt_tidied (v : Value) : toInt (tidied trims lowers v) = toInt v := by
  cases v with
  | text s => simp only [tidied, toInt, Text.toList_ofList, Text.leadingInteger_tidy]
  | _ => rfl

/-- There is nothing to tidy up in what `toInt` gives. -/
lemma tidied_of_toInt (e : toInt v = .ok w) : tidied trims lowers w = w := by
  obtain ⟨n, rfl⟩ | rfl := toInt_ok e <;> rfl

section Rows

/-- A name that is not registered is passed over. -/
lemma applyAll_cons_none {name rest} (none : builtin.get? name = none) :
    applyAll builtin (name :: rest) v = applyAll builtin rest v := by
  rw [applyAll, none]

/-- The first transform hands on what it gives. -/
lemma applyAll_cons_of_ok {name rest f} (ef : builtin.get? name = some f) (e : f v = .ok w) :
    applyAll builtin (name :: rest) v = applyAll builtin rest w := by
  rw [applyAll, ef]
  dsimp only
  rw [e]

/-- What the first transform is stopped by stops all. -/
lemma applyAll_cons_of_error {name rest f fault} (ef : builtin.get? name = some f)
    (e : f v = .error fault) : applyAll builtin (name :: rest) v = .error fault := by
  rw [applyAll, ef]
  dsimp only
  rw [e]

/-- Without `toInt`, a row of transforms tidies a value up in the ways of which it has the names. -/
lemma applyAll_tidied (absent : ("toInt" : Text) ∉ names) :
    applyAll builtin names v =
      .ok (tidied (decide (("trim" : Text) ∈ names)) (decide (("toLowerCase" : Text) ∈ names)) v) := by
  induction names generalizing v with
  | nil => exact congrArg _ (tidied_false v).symm
  | cons name rest ih =>
    obtain ⟨other, without⟩ := not_or.1 (mt List.mem_cons.2 absent)
    cases ef : builtin.get? name with
    | none =>
      have trim : "trim" ≠ name := by
        rintro rfl
        cases ef
      have toLowerCase : "toLowerCase" ≠ name := by
        rintro rfl
        cases ef
      simp only [applyAll_cons_none ef, ih without, List.mem_cons, trim, toLowerCase, false_or]
    | some f =>
      obtain ⟨rfl, rfl⟩ | ⟨rfl, rfl⟩ | ⟨rfl, rfl⟩ := builtin_cases ef
      · rw [applyAll_cons_of_ok ef (trim_tidied v), ih without, tidied_tidied]
        simp
      · rw [applyAll_cons_of_ok ef (toLowerCase_tidied v), ih without, tidied_tidied]
        simp
      · exact (other rfl).elim

/-- Of what `toInt` gives, it gives the same again, or refuses it as too large. -/
lemma toInt_again (e : toInt v = .ok w) :
    toInt w = .ok w ∧ (∀ n, w = .int n → ¬Double.overflows n = true) ∨
      toInt w = .error (.mishap .integerTooLarge) ∧ ∃ n, w = .int n ∧ Double.overflows n = true := by
  obtain ⟨n, rfl⟩ | rfl := toInt_ok e
  · by_cases large : Double.overflows n = true
    · exact .inr ⟨toInt_of_overflows large, n, rfl, large⟩
    · refine .inl ⟨by rw [toInt, if_neg large], ?_⟩
      rintro _ ⟨⟩
      exact large
  · refine .inl ⟨rfl, ?_⟩
    rintro n ⟨⟩

/-- A third time `toInt` does nothing that it has not done the second time. -/
lemma toInt_bind_toInt (e : toInt v = .ok w) : toInt w >>= toInt = toInt w := by
  obtain ⟨same, _⟩ | ⟨refused, _⟩ := toInt_again e
  · rw [same]
    exact same
  · rw [refused]
    rfl

/-- With `toInt`, a row of transforms does what `toInt` does once, or twice if the row repeats it. -/
lemma applyAll_toInt (mem : ("toInt" : Text) ∈ names) :
    applyAll builtin names v = if 2 ≤ names.count ("toInt" : Text) then toInt v >>= toInt else toInt v := by
  induction names generalizing v with
  | nil => cases mem
  | cons name rest ih =>
    cases ef : builtin.get? name with
    | none =>
      have other : name ≠ "toInt" := by
        rintro rfl
        cases ef
      rw [applyAll_cons_none ef, ih (List.mem_of_ne_of_mem other.symm mem), List.count_cons_of_ne other]
    | some f =>
      -- The transforms in the order of their registration: only another `toInt` changes what is read.
      obtain ⟨rfl, rfl⟩ | ⟨rfl, rfl⟩ | ⟨rfl, rfl⟩ := builtin_cases ef
      · rw [applyAll_cons_of_ok ef (trim_tidied v), ih (List.mem_of_ne_of_mem (by decide) mem),
          toInt_tidied, List.count_cons_of_ne (by decide)]
      · rw [applyAll_cons_of_ok ef (toLowerCase_tidied v),
          ih (List.mem_of_ne_of_mem (by decide) mem), toInt_tidied, List.count_cons_of_ne (by decide)]
      · rw [List.count_cons_self]
        cases e : toInt v with
        | error fault =>
          rw [applyAll_cons_of_error ef e]
          split <;> rfl
        | ok w =>
          rw [applyAll_cons_of_ok ef e]
          -- An integer is left alone by what follows, unless that is `toInt` once more.
          by_cases again : ("toInt" : Text) ∈ rest
          · have more := List.count_pos_iff.2 again
            rw [ih again, toInt_bind_toInt e, ite_self, if_pos (by omega)]
            rfl
          · rw [applyAll_tidied again, tidied_of_toInt e, List.count_eq_zero_of_not_mem again,
              if_neg (by decide)]

end Rows

/-- A value from which `toInt` reads an integer that is too large for it: a text that starts with one, of
which the digits are not too many. -/
inductive Outgrows : Value → Prop where
  | text {s negative digits} :
    Text.StartsWith negative digits s.toList →
    digits.length ≤ 4300 →
    2 ^ 1024 - 2 ^ 970 ≤ (Text.integerOf negative digits).natAbs →
    Outgrows (.text s)

/-- A value outgrows when `toInt` gives an integer that is too large for a binary64 number. -/
lemma outgrows_iff :
    Outgrows v ↔ ∃ n, toInt v = .ok (.int n) ∧ Double.overflows n = true := by
  constructor
  · rintro ⟨starts, few, large⟩
    refine ⟨_, ?_, Double.overflows_iff.2 large⟩
    rw [toInt_text_startsWith starts, if_neg few.not_gt]
  · rintro ⟨n, e, large⟩
    obtain ⟨r, truncates⟩ := exists_truncates v
    have same : r = .ok (.int n) := by
      rw [← e, truncates.toInt_eq]
      rintro m rfl
      exact natAbs_lt_of_toInt e
    subst same
    cases truncates with
    | numeral starts few => exact .text starts few (Double.overflows_iff.1 large)
    | int => exact ((natAbs_lt_of_toInt e).not_ge (Double.overflows_iff.1 large)).elim
    | @finite x q eq =>
      have truncated : x.truncate? = some (towardZero q) := by
        rw [Double.truncate?_eq, eq]
        rfl
      exact (Double.truncate?_not_overflows truncated large).elim

/-- Only what outgrows `toInt` is not read twice as it is read once. -/
lemma toInt_twice_iff : toInt v >>= toInt = toInt v ↔ ¬Outgrows v := by
  rw [outgrows_iff]
  cases e : toInt v with
  | error fault =>
    refine iff_of_true rfl ?_
    rintro ⟨n, ⟨⟩, _⟩
  | ok w =>
    change toInt w = .ok w ↔ _
    obtain ⟨same, small⟩ | ⟨refused, n, rfl, large⟩ := toInt_again e
    · refine iff_of_true same ?_
      rintro ⟨n, ew, large⟩
      exact small n (Except.ok.inj ew) large
    · rw [refused]
      exact iff_of_false nofun fun none => none ⟨n, rfl, large⟩

/-- The integer of a value that outgrows is a mishap for `toInt`. -/
lemma Outgrows.twice (outgrows : Outgrows v) :
    toInt v >>= toInt = .error (.mishap .integerTooLarge) := by
  obtain ⟨n, e, large⟩ := outgrows_iff.1 outgrows
  exact Assertion.bind_error_iff.2 (.inr ⟨_, e, toInt_of_overflows large⟩)

/-- Applied to its own result, a row of transforms gives the result, unless it holds `toInt` and the value
outgrows that. -/
lemma applyAll_twice_iff (e : applyAll builtin names v = .ok w) :
    applyAll builtin names w = .ok w ↔ ¬(Outgrows v ∧ ("toInt" : Text) ∈ names) := by
  by_cases mem : ("toInt" : Text) ∈ names
  · rw [applyAll_toInt mem] at e
    rw [and_iff_left mem, ← toInt_twice_iff, applyAll_toInt mem]
    cases eu : toInt v with
    | error fault =>
      rw [eu] at e
      split at e <;> cases e
    | ok u =>
      change _ ↔ toInt u = .ok u
      have again : (if 2 ≤ names.count ("toInt" : Text) then toInt u else .ok u) = .ok w := by
        rwa [eu] at e
      obtain ⟨same, _⟩ | ⟨refused, _⟩ := toInt_again eu
      · rw [same, ite_self] at again
        cases again
        rw [toInt_bind_toInt eu, ite_self]
      · have once : ¬2 ≤ names.count ("toInt" : Text) := by
          intro twice
          rw [if_pos twice, refused] at again
          cases again
        rw [if_neg once] at again ⊢
        cases again
        rfl
  · refine iff_of_true ?_ fun h => mem h.2
    rw [applyAll_tidied mem] at e ⊢
    cases e
    rw [tidied_tidied, Bool.or_self, Bool.or_self]

/-- Rows of the same built-in transforms, in any order and with any repetitions, do the same to each value,
unless one of them repeats `toInt` and the other one does not, and the value outgrows it; so does each row
when it is applied to its own result, unless it holds `toInt` and the value outgrew it. A repeated `toInt`
refuses such a value. -/
theorem applyAll_unordered {names names' : List Text}
    (same : ∀ name, builtin.contains name = true → (name ∈ names ↔ name ∈ names')) (v : Value) :
    (applyAll builtin names v = applyAll builtin names' v ↔
        (Outgrows v → (2 ≤ names.count ("toInt" : Text) ↔ 2 ≤ names'.count ("toInt" : Text)))) ∧
      (∀ w, applyAll builtin names v = .ok w →
        (applyAll builtin names w = .ok w ↔ ¬(Outgrows v ∧ ("toInt" : Text) ∈ names))) ∧
      (Outgrows v → 2 ≤ names.count ("toInt" : Text) →
        applyAll builtin names v = .error (.mishap .integerTooLarge)) := by
  refine ⟨?_, fun w => applyAll_twice_iff, ?_⟩
  · by_cases mem : ("toInt" : Text) ∈ names
    · rw [applyAll_toInt mem, applyAll_toInt ((same "toInt" rfl).1 mem)]
      by_cases twice : 2 ≤ names.count ("toInt" : Text) <;> by_cases twice' : 2 ≤ names'.count ("toInt" : Text)
      · simp [twice, twice']
      · rw [if_pos twice, if_neg twice', toInt_twice_iff]
        simp [twice, twice']
      · rw [if_neg twice, if_pos twice', eq_comm, toInt_twice_iff]
        simp [twice, twice']
      · simp [twice, twice']
    · have mem' := mt (same "toInt" rfl).2 mem
      refine iff_of_true ?_ fun _ => ?_
      · simp only [applyAll_tidied mem, applyAll_tidied mem', same "trim" rfl, same "toLowerCase" rfl]
      · rw [List.count_eq_zero_of_not_mem mem, List.count_eq_zero_of_not_mem mem']
  · intro outgrows twice
    rw [applyAll_toInt (List.count_pos_iff.1 (by omega)), if_pos twice, outgrows.twice]

/-- A text that is trimmed and put in lower case in two orders, and to which that has been done. -/
theorem applyAll_unordered_finalSigma :
    (∀ name, builtin.contains name = true →
      (name ∈ (["trim", "toUpperCase", "toLowerCase"] : List Text) ↔
        name ∈ (["toLowerCase", "trim", "trim"] : List Text))) ∧
      applyAll builtin ["toLowerCase", "trim", "trim"] (.text " ΑΣ ") = .ok (.text "ας") ∧
      applyAll builtin ["trim", "toUpperCase", "toLowerCase"] (.text " ΑΣ ") = .ok (.text "ας") ∧
      applyAll builtin ["trim", "toUpperCase", "toLowerCase"] (.text "ας") = .ok (.text "ας") := by
  have same : ∀ name, builtin.contains name = true →
      (name ∈ (["trim", "toUpperCase", "toLowerCase"] : List Text) ↔
        name ∈ (["toLowerCase", "trim", "trim"] : List Text)) := by
    intro name registered
    obtain ⟨f, ef⟩ := Option.isSome_iff_exists.1 registered
    obtain ⟨rfl, _⟩ | ⟨rfl, _⟩ | ⟨rfl, _⟩ := builtin_cases ef <;> decide
  obtain ⟨orders, again, _⟩ := applyAll_unordered same (.text " ΑΣ ")
  have result : applyAll builtin ["trim", "toUpperCase", "toLowerCase"] (.text " ΑΣ ") =
      .ok (.text "ας") := by
    have tidy : Text.tidy true true (" ΑΣ " : Text).toList = ("ας" : Text).toList := by
      decide +kernel
    rw [applyAll_tidied (by decide)]
    exact congrArg (fun cs => Except.ok (Value.text (Text.ofList cs))) tidy
  exact ⟨same, (orders.2 fun _ => by decide).symm.trans result, result, (again _ result).2 (by simp)⟩

/-- To read an integer twice need not be the same as to read it once: the integer may be too large for
`toInt`, and so nothing to apply it to again. -/
theorem not_applyAll_unordered_manyDigits :
    applyAll builtin ["toInt"] (.text (Text.ofList Assertion.manyDigits)) = .ok (.int (10 ^ 309)) ∧
      applyAll builtin ["toInt", "toInt"] (.text (Text.ofList Assertion.manyDigits)) =
        .error (.mishap .integerTooLarge) ∧
      applyAll builtin ["toInt"] (.int (10 ^ 309)) ≠ .ok (.int (10 ^ 309)) := by
  have read : toInt (.text (Text.ofList Assertion.manyDigits)) = .ok (.int (10 ^ 309)) := by
    rw [toInt, Text.toList_ofList, Assertion.leadingInteger_manyDigits]
  have refused := toInt_of_overflows Assertion.overflows_manyDigits
  have found : builtin.get? "toInt" = some toInt := rfl
  refine ⟨?_, ?_, ?_⟩
  · rw [applyAll_cons_of_ok found read, applyAll]
  · rw [applyAll_cons_of_ok found read, applyAll_cons_of_error found refused]
  · rw [applyAll_cons_of_error found refused]
    intro e
    cases e

end Transform

end RecordSchema
