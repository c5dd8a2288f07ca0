import RecordSchema.Checker.Indent
import RecordSchema.Proofs.Leading

/-!
# Integers read leniently

An indentation is read as it is relied on (`lenient_integerOf`). Of the numeral that an integer is written
as nothing is dropped on the way: it has no blanks, no plus, no zeros in front, no point and no underscores
(`Plain.cleaned?`).
-/

namespace RecordSchema.Checker.Indent

/-- Nothing is trimmed where nothing may be. -/
lemma trimBy_of_none {α : Type} {p : α → Bool} {cs : List α} (none : ∀ c ∈ cs, p c = false) :
    Text.trimBy p cs = cs := by
  have kept : ∀ ds : List α, (∀ d ∈ ds, p d = false) → ds.dropWhile p = ds := by
    intro ds none
    cases ds with
    | nil => rfl
    | cons d rest => exact List.dropWhile_cons_of_neg (by rw [none d List.mem_cons_self]; nofun)
  have backward : cs.reverse.dropWhile p = cs.reverse :=
    kept cs.reverse fun c mem => none c (List.mem_reverse.1 mem)
  rw [Text.trimBy, kept cs none, backward, List.reverse_reverse]

/-- A numeral in decimal: its sign, and digits that start with zero only when there is no other. -/
structure Plain (negative : Bool) (digits cs : List Char) : Prop where
  spelled : cs = (if negative then ['-'] else []) ++ digits
  whole : Json.Digits digits
  leading : digits.head? = some '0' → digits = ['0']

/-- An integer is written as a numeral in decimal. -/
lemma plain_writeInt (n : Int) :
    Plain (decide (n < 0)) (Decimal.digitsOf n.natAbs) (Decimal.writeInt n).toList where
  spelled := by
    by_cases negative : n < 0 <;> simp [Decimal.writeInt, Decimal.writeNat, negative]
  whole := Decimal.digits_digitsOf _
  leading := Decimal.leading_digitsOf _

namespace Plain

variable {negative : Bool} {digits cs : List Char} (plain : Plain negative digits cs)

include plain

/-- The characters of a numeral are digits, but for a minus. -/
lemma mem_cases {c} (mem : c ∈ cs) : c = '-' ∨ c.isDigit = true := by
  rw [plain.spelled] at mem
  rcases List.mem_append.1 mem with mem | mem
  · cases negative with
    | true => exact .inl (List.mem_singleton.1 mem)
    | false => cases mem
  · exact .inr (plain.whole.2 c mem)

/-- A numeral has no character that is neither a digit nor a minus. -/
lemma ne_of_mem {c d} (minus : d ≠ '-') (other : d.isDigit = false) (mem : c ∈ cs) : c ≠ d := by
  rintro rfl
  rcases plain.mem_cases mem with e | digit
  · exact minus e
  · cases digit.symm.trans other

/-- A numeral starts with a minus, or with the only zero of its digits, or with another digit. -/
lemma cons_cases : (∃ rest, cs = '-' :: rest) ∨ cs = ['0'] ∨
    ∃ c rest, cs = c :: rest ∧ c ≠ '0' ∧ c.isDigit = true := by
  obtain ⟨rfl, ⟨some, all⟩, leading⟩ := plain
  cases negative with
  | true => exact .inl ⟨digits, rfl⟩
  | false =>
    cases digits with
    | nil => exact (some rfl).elim
    | cons c rest =>
      by_cases zero : c = '0'
      · exact .inr (.inl (leading (congrArg Option.some zero)))
      · exact .inr (.inr ⟨c, rest, rfl, zero, all c List.mem_cons_self⟩)

/-- A numeral has no plus to drop. -/
lemma dropPlus : dropPlus cs = some cs := by
  have first : ∀ rest, cs ≠ '+' :: rest := by
    rintro rest rfl
    exact plain.ne_of_mem (by decide) (by decide) List.mem_cons_self rfl
  rw [Indent.dropPlus]
  · exact fun rest => first ('-' :: rest)
  · exact first

/-- A numeral has no zeros in front to drop. -/
lemma dropLeadingZeros : dropLeadingZeros cs = some cs := by
  obtain ⟨rest, rfl⟩ | rfl | ⟨c, rest, rfl, zero, digit⟩ := plain.cons_cases
  · rfl
  · rfl
  · rw [Indent.dropLeadingZeros]
    · exact if_pos (.inl digit)
    · exact fun e => zero e

/-- A numeral has no point to drop. -/
lemma dropZeroFraction : dropZeroFraction cs = cs := by
  have pointless : cs.dropWhile (· ≠ '.') = [] := by
    rw [List.dropWhile_eq_nil_iff]
    intro c mem
    exact decide_eq_true (plain.ne_of_mem (by decide) (by decide) mem)
  rw [Indent.dropZeroFraction, pointless]

/-- A numeral has no underscores to drop. -/
lemma dropUnderscores : dropUnderscores cs = cs := by
  have all : cs.filter (· ≠ '_') = cs := by
    rw [List.filter_eq_self]
    intro c mem
    exact decide_eq_true (plain.ne_of_mem (by decide) (by decide) mem)
  rw [Indent.dropUnderscores, all, ite_self]

/-- Of a numeral nothing is dropped. -/
lemma cleaned? : cleaned? cs = some cs := by
  have trimmed : Text.trimBy (fun c : Char => Text.isWhiteSpace c) cs = cs := by
    apply trimBy_of_none
    intro c mem
    obtain rfl | digit := plain.mem_cases mem
    · rfl
    · have known : Text.isDigit c = true := by
        rw [Text.isDigit, Text.digitValue_of_isDigit digit]
        rfl
      rw [Text.isWhiteSpace, Text.isBlank_of_isDigit known, Bool.false_and]
  rw [Indent.cleaned?, trimmed, plain.dropPlus]
  change (do
    let cs ← Indent.dropLeadingZeros cs
    return Indent.dropUnderscores (Indent.dropZeroFraction cs)) = _
  rw [plain.dropLeadingZeros]
  change some (Indent.dropUnderscores (Indent.dropZeroFraction cs)) = _
  rw [plain.dropZeroFraction, plain.dropUnderscores]

/-- A numeral is the integer of its sign and digits. -/
lemma plainInteger? :
    plainInteger? cs =
      some (Text.signedDigits negative (digits.map fun c => c.toNat - '0'.toNat)) := by
  obtain ⟨rfl, ⟨filled, all⟩, leading⟩ := plain
  have plainly : ¬(digits.isEmpty ∨ !digits.all Char.isDigit ∨
      (digits.head? = some '0' ∧ digits.length ≠ 1)) := by
    rw [List.isEmpty_iff, List.all_eq_true.2 all]
    rintro (none | ⟨⟨⟩⟩ | ⟨zero, other⟩)
    · exact filled none
    · exact other (by rw [leading zero]; rfl)
  cases negative with
  | true =>
    change (if _ then none else _) = _
    exact if_neg plainly
  | false =>
    have unsigned : ∀ rest, digits ≠ '-' :: rest := by
      rintro rest rfl
      cases all '-' List.mem_cons_self
    rw [if_neg Bool.false_ne_true, List.nil_append, Indent.plainInteger?]
    · exact if_neg plainly
    · exact unsigned

/-- A numeral within the limit is read as the integer of its sign and digits. -/
lemma ofText (few : cs.length ≤ Text.digitLimit) :
    Indent.ofText cs =
      .ok (Text.signedDigits negative (digits.map fun c => c.toNat - '0'.toNat)) := by
  rw [Indent.ofText, plain.cleaned?]
  dsimp only
  rw [if_neg (Nat.not_lt.2 few), plain.plainInteger?]

end Plain

/-- An indentation is read as it is relied on. -/
theorem lenient_integerOf : Lenient integerOf where
  int _ := rfl
  bool _ := rfl
  float x n e := by
    change ofDouble x = .ok n at e
    unfold ofDouble at e
    split at e
    · cases e
    · rename_i truncated
      split at e
      · cases e
      · rename_i whole
        split at e
        · cases e
        · cases e
          exact ⟨by simpa using whole, truncated⟩
  numeral n few := by
    have plain := plain_writeInt n
    change ofText (Decimal.writeInt n).toList = _
    rw [plain.ofText (by rwa [String.length_toList]), Text.signedDigits_digitsOf]
  taken v n e := by
    cases v with
    | bool | int | float => exact .inl ⟨_, rfl⟩
    | text s => exact .inr ⟨s, rfl⟩
    | _ => cases e

end RecordSchema.Checker.Indent
