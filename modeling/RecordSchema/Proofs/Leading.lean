import RecordSchema.Proofs.Lowercase
import RecordSchema.Proofs.Numerals
import RecordSchema.Text.Integer

/-!
# Leading integers

A text starts with an integer when blanks, at most one sign and one or more digits come first (`StartsWith`).
Reading the integer takes all digits that follow each other, of whatever script (`leadingInteger_startsWith`,
`leadingInteger_missing`), so a written integer is read as itself, whatever stands around it
(`startsWith_writeInt`).
-/

namespace RecordSchema

namespace Text

/-- A sign or none, and whether it makes a number negative. -/
inductive Sign : Bool → List Point → Prop where
  | none :
    Sign false []
  | plus :
    Sign false ['+']
  | minus :
    Sign true ['-']

/-- A text starts with an integer of some digits: blanks, a sign or none, the digits, and something that does
not go on with a digit. -/
inductive StartsWith (negative : Bool) (digits : List Point) : List Point → Prop where
  | intro {blanks sign rest} :
    (∀ c ∈ blanks, isBlank c = true) →
    Sign negative sign →
    digits ≠ [] →
    (∀ c ∈ digits, isDigit c = true) →
    (∀ c tail, rest = c :: tail → isDigit c = false) →
    StartsWith negative digits (blanks ++ sign ++ digits ++ rest)

/-- The integer of a sign and digits, the last digit counting one and each other one ten times the next. -/
def integerOf (negative : Bool) (digits : List Point) : Int :=
  (if negative then -1 else 1) * (Nat.ofDigits 10 (digits.filterMap digitValue?).reverse : Nat)

/-- The digits that a text starts with are read one by one. -/
lemma leadingDigits_eq (cs : List Point) :
    leadingDigits cs = (cs.takeWhile isDigit).filterMap digitValue? := by
  induction cs with
  | nil => rfl
  | cons c rest ih =>
    rw [leadingDigits, List.takeWhile_cons, isDigit]
    cases e : digitValue? c with
    | none => rfl
    | some d => simp [e, ih]

/-- Each digit has a value. -/
lemma length_filterMap_digitValue {digits : List Point} (all : ∀ c ∈ digits, isDigit c = true) :
    (digits.filterMap digitValue?).length = digits.length := by
  induction digits with
  | nil => rfl
  | cons c rest ih =>
    obtain ⟨d, e⟩ := Option.isSome_iff_exists.1 (all c List.mem_cons_self)
    simp [e, ih fun c mem => all c (List.mem_cons_of_mem _ mem)]

/-- Digits in base ten are read from the left. -/
lemma ofDigits_eq (values : List Nat) : Decimal.ofDigits values = Nat.ofDigits 10 values.reverse := by
  induction values using List.reverseRecOn with
  | nil => rfl
  | append_singleton values d ih =>
    rw [List.reverse_append, List.reverse_singleton, List.singleton_append, Nat.ofDigits_cons, ← ih,
      Decimal.ofDigits, List.foldl_append]
    exact Nat.add_comm _ _

/-- The number of a sign and digits is the integer that they denote. -/
lemma signedDigits_eq (negative : Bool) (digits : List Point) :
    signedDigits negative (digits.filterMap digitValue?) = integerOf negative digits := by
  rw [signedDigits, integerOf, ofDigits_eq]
  cases negative <;> simp

/-- No digit of any script is a blank. -/
lemma zeroDigits_miss : (zeroDigits.all fun first => blankRanges.all fun range =>
    Nat.blt range.2 first || Nat.blt (first + 9) range.1) = true := by
  decide +kernel

/-- A digit belongs to the ten of some script. -/
lemma exists_of_isDigit {c} (digit : isDigit c = true) :
    ∃ first ∈ zeroDigits, first ≤ c.toNat ∧ c.toNat ≤ first + 9 := by
  rw [isDigit, digitValue?, Option.isSome_map, List.find?_isSome] at digit
  obtain ⟨first, mem, between⟩ := digit
  simp only [Bool.and_eq_true, decide_eq_true_eq] at between
  exact ⟨first, mem, between.1, by omega⟩

/-- A digit is no blank. -/
lemma isBlank_of_isDigit {c} (digit : isDigit c = true) : isBlank c = false := by
  obtain ⟨first, mem, low, high⟩ := exists_of_isDigit digit
  by_contra blank
  rw [Bool.not_eq_false, isBlank] at blank
  obtain ⟨range, within, between⟩ := Ranges.exists_of_contains blank
  have apart := List.all_eq_true.1 (List.all_eq_true.1 zeroDigits_miss first mem) range within
  simp only [Bool.or_eq_true, Nat.blt_eq] at apart
  omega

/-- A text that does not start with a sign has none split off. -/
lemma splitSign_of_ne {c : Point} {rest} (plus : c ≠ '+') (minus : c ≠ '-') :
    splitSign (c :: rest) = (false, c :: rest) := by
  unfold splitSign
  split
  · exact (minus (List.cons.inj ‹_›).1).elim
  · exact (plus (List.cons.inj ‹_›).1).elim
  · rfl

/-- What follows a sign is told apart from it by its first digit. -/
lemma splitSign_append {negative sign c rest} (signed : Sign negative sign) (digit : isDigit c = true) :
    splitSign (sign ++ c :: rest) = (negative, c :: rest) := by
  cases signed with
  | none =>
    apply splitSign_of_ne
    · rintro rfl
      cases digit
    · rintro rfl
      cases digit
  | plus => rfl
  | minus => rfl

/-- A sign is no blank. -/
lemma Sign.head {negative sign c tail} (signed : Sign negative sign) (e : sign = c :: tail) :
    isBlank c = false := by
  cases signed <;> cases e <;> decide

/-- The digits that come first are taken as long as they go on. -/
lemma takeWhile_digits {digits rest : List Point} (all : ∀ c ∈ digits, isDigit c = true)
    (stops : ∀ c tail, rest = c :: tail → isDigit c = false) :
    (digits ++ rest).takeWhile isDigit = digits := by
  rw [List.takeWhile_append_of_pos all]
  cases rest with
  | nil => simp
  | cons c tail => simp [stops c tail rfl]

/-- All digits of the integer that a text starts with are read, if they are not too many. -/
lemma leadingInteger_startsWith {negative digits cs} (starts : StartsWith negative digits cs) :
    leadingInteger cs =
      if digitLimit < digits.length then .tooLong digits.length
      else .integer (integerOf negative digits) := by
  obtain @⟨blanks, sign, rest, blank, signed, some, all, stops⟩ := starts
  obtain ⟨first, others, rfl⟩ := List.exists_cons_of_ne_nil some
  -- Blanks end at the sign or, without one, at the first digit, as no digit is blank.
  have dropped : (blanks ++ sign ++ (first :: others) ++ rest).dropWhile isBlank =
      sign ++ first :: (others ++ rest) := by
    rw [List.append_assoc, List.append_assoc, List.dropWhile_append_of_pos blank]
    cases sign with
    | nil =>
      exact List.dropWhile_cons_of_neg (by simp [isBlank_of_isDigit (all first List.mem_cons_self)])
    | cons c tail => exact List.dropWhile_cons_of_neg (by simp [signed.head rfl])
  have read : leadingDigits (first :: (others ++ rest)) = (first :: others).filterMap digitValue? := by
    rw [leadingDigits_eq, ← List.cons_append, takeWhile_digits all stops]
  rw [leadingInteger, dropped, splitSign_append signed (all first List.mem_cons_self)]
  dsimp only
  rw [read]
  have length := length_filterMap_digitValue all
  cases values : (first :: others).filterMap digitValue? with
  | nil =>
    rw [values] at length
    cases length
  | cons d ds =>
    rw [values] at length
    dsimp only
    rw [length, ← values, signedDigits_eq]

/-- What is split off a text is a sign. -/
lemma sign_of_splitSign {negative cs rest} (split : splitSign cs = (negative, rest)) :
    ∃ sign, Sign negative sign ∧ cs = sign ++ rest := by
  unfold splitSign at split
  split at split <;> cases split
  · exact ⟨_, .minus, rfl⟩
  · exact ⟨_, .plus, rfl⟩
  · exact ⟨_, .none, rfl⟩

/-- A text starts with an integer when digits follow its blanks and sign. -/
lemma StartsWith.of_split {negative cs rest}
    (split : splitSign (cs.dropWhile isBlank) = (negative, rest))
    (some : rest.takeWhile isDigit ≠ []) : StartsWith negative (rest.takeWhile isDigit) cs := by
  obtain ⟨sign, signed, e⟩ := sign_of_splitSign split
  have parts : cs.takeWhile isBlank ++ sign ++ rest.takeWhile isDigit ++ rest.dropWhile isDigit = cs := by
    rw [List.append_assoc, List.takeWhile_append_dropWhile, List.append_assoc, ← e,
      List.takeWhile_append_dropWhile]
  rw [← parts]
  refine .intro ?_ signed some ?_ ?_
  · exact fun c mem => List.mem_takeWhile_imp mem
  · exact fun c mem => List.mem_takeWhile_imp mem
  · exact fun c tail e => head_of_dropWhile e

/-- A text that does not start with an integer has none that is read. -/
lemma leadingInteger_missing {cs} (none : ∀ negative digits, ¬StartsWith negative digits cs) :
    leadingInteger cs = .missing := by
  cases split : splitSign (cs.dropWhile isBlank) with
  | mk negative rest =>
    have empty : rest.takeWhile isDigit = [] := by
      by_contra some
      exact none _ _ (.of_split split some)
    rw [leadingInteger, split]
    dsimp only
    rw [leadingDigits_eq, empty]
    rfl

/-- The digits that numbers are written with are digits among others. -/
lemma digitValue_of_isDigit {c : Char} (digit : c.isDigit = true) :
    digitValue? (.char c) = some (c.toNat - '0'.toNat) := by
  have between : 48 ≤ c.toNat ∧ c.toNat ≤ 57 := by
    simpa [Char.isDigit, UInt32.le_iff_toNat_le] using digit
  have found : zeroDigits.find? (fun first =>
      first ≤ (Point.char c).toNat && (Point.char c).toNat < first + 10) = some 0x30 := by
    have value : (Point.char c).toNat = c.toNat := rfl
    rw [zeroDigits, List.find?_cons_of_pos]
    simp only [value, Bool.and_eq_true, decide_eq_true_eq]
    omega
  rw [digitValue?, found]
  rfl

/-- The digits that a number is written with, as a part of a text. -/
abbrev writtenDigits (n : Nat) : List Point :=
  (Decimal.digitsOf n).map .char

/-- The digits that a number is written with have these values. -/
lemma filterMap_writtenDigits (n : Nat) :
    (writtenDigits n).filterMap digitValue? =
      (Decimal.digitsOf n).map fun c => c.toNat - '0'.toNat := by
  rw [List.filterMap_map, ← List.filterMap_eq_map]
  exact List.filterMap_congr fun c mem => digitValue_of_isDigit ((Decimal.digits_digitsOf n).2 c mem)

/-- The sign and the digits of an integer denote it. -/
lemma signedDigits_digitsOf (n : Int) :
    signedDigits (decide (n < 0)) ((Decimal.digitsOf n.natAbs).map fun c => c.toNat - '0'.toNat) =
      n := by
  have magnitude :
      Decimal.ofDigits ((Decimal.digitsOf n.natAbs).map fun c => c.toNat - '0'.toNat) = n.natAbs := by
    rw [Decimal.ofDigits, List.foldl_map]
    exact Nat.ofDigitChars_toDigits (by decide) (by decide)
  rw [signedDigits, magnitude]
  by_cases negative : n < 0
  · rw [if_pos (decide_eq_true negative)]
    omega
  · rw [if_neg (by simp [negative])]
    omega

/-- The sign and the digits that an integer is written with denote it. -/
lemma integerOf_digitsOf (n : Int) :
    integerOf (decide (n < 0)) (writtenDigits n.natAbs) = n := by
  rw [← signedDigits_eq, filterMap_writtenDigits, signedDigits_digitsOf]

/-- A text starts with the integer that is written in it behind blanks, if no other digit follows. -/
lemma startsWith_writeInt (n : Int) {blanks rest : List Point}
    (blank : ∀ c ∈ blanks, isBlank c = true)
    (stops : ∀ c tail, rest = c :: tail → isDigit c = false) :
    StartsWith (decide (n < 0)) (writtenDigits n.natAbs)
      (blanks ++ (Decimal.writeInt n : Text).toList ++ rest) := by
  have digits := Decimal.digits_digitsOf n.natAbs
  have all : ∀ c ∈ writtenDigits n.natAbs, isDigit c = true := by
    intro c mem
    obtain ⟨d, digit, rfl⟩ := List.mem_map.1 mem
    rw [isDigit, digitValue_of_isDigit (digits.2 d digit)]
    rfl
  have signed : ∃ sign, Sign (decide (n < 0)) sign ∧
      (Decimal.writeInt n : Text).toList = sign ++ writtenDigits n.natAbs := by
    by_cases negative : n < 0
    · exact ⟨['-'], by simpa [negative] using .minus,
        by simp [Text.toList, Decimal.writeInt, Decimal.writeNat, negative]⟩
    · exact ⟨[], by simpa [negative] using .none,
        by simp [Text.toList, Decimal.writeInt, Decimal.writeNat, negative]⟩
  obtain ⟨sign, signed, written⟩ := signed
  rw [written, ← List.append_assoc]
  exact .intro blank signed (List.map_eq_nil_iff.not.2 digits.1) all stops

end Text
end RecordSchema
