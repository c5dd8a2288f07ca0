import RecordSchema.Proofs.Leading

/-!
# Caseless characters

Blanks, signs and digits have no case (`Caseless`): lower case leaves them alone, and makes none of them of
any other character. So trimming and lower case can be done in any order (`lower_trim`), and neither of
them changes the integer that a text starts with (`leadingInteger_trim`, `leadingInteger_lower`).
-/

namespace RecordSchema.Text

/-- Where the blanks, the signs and the digits of all scripts are. -/
def caselessRanges : List (Nat × Nat) :=
  blankRanges ++ (0x2B, 0x2B) :: (0x2D, 0x2D) :: zeroDigits.map fun first => (first, first + 9)

/-- A blank, a sign or a digit. -/
def Caseless (c : Point) : Prop :=
  ∃ range ∈ caselessRanges, range.1 ≤ c.toNat ∧ c.toNat ≤ range.2

instance {c} : Decidable (Caseless c) :=
  inferInstanceAs (Decidable (∃ range ∈ caselessRanges, _))

/-- Blanks have no case. -/
lemma Caseless.of_isBlank {c} (blank : isBlank c = true) : Caseless c := by
  obtain ⟨range, mem, between⟩ := Ranges.exists_of_contains blank
  exact ⟨range, List.mem_append_left _ mem, between⟩

/-- Digits have no case. -/
lemma Caseless.of_isDigit {c} (digit : isDigit c = true) : Caseless c := by
  obtain ⟨first, mem, between⟩ := exists_of_isDigit digit
  refine ⟨(first, first + 9), List.mem_append_right _ ?_, between⟩
  exact List.mem_cons_of_mem _ (List.mem_cons_of_mem _ (List.mem_map_of_mem mem))

/-- A plus has no case. -/
lemma caseless_plus : Caseless '+' :=
  ⟨(0x2B, 0x2B), List.mem_append_right _ List.mem_cons_self, by decide⟩

/-- A minus has no case. -/
lemma caseless_minus : Caseless '-' :=
  ⟨(0x2D, 0x2D), List.mem_append_right _ (List.mem_cons_of_mem _ List.mem_cons_self), by decide⟩

/-- Whether two ranges have nothing in common. -/
def apart (range other : Nat × Nat) : Bool :=
  Nat.blt range.2 other.1 || Nat.blt other.2 range.1

/-- What lies in a range is outside of one that is apart from it. -/
lemma outside_of_apart {range other : Nat × Nat} {n} (apart : apart range other = true)
    (between : range.1 ≤ n ∧ n ≤ range.2) : n < other.1 ∨ other.2 < n := by
  simp only [Text.apart, Bool.or_eq_true, Nat.blt_eq] at apart
  omega

set_option maxRecDepth 20000 in
/-- No caseless character belongs to a run, or has a lower case of its own. -/
lemma caselessRanges_apart : (caselessRanges.all fun range =>
    (lowerRuns.all fun run => apart range (run.first, run.last)) && apart range (0x130, 0x130) &&
      apart range (0x3A3, 0x3A3)) = true := by
  decide +kernel

set_option maxRecDepth 20000 in
/-- No run leads to a caseless character. -/
lemma lowerRuns_miss_caseless : (lowerRuns.all fun run => caselessRanges.all fun range =>
    run.misses range.1 range.2) = true := by
  decide +kernel

set_option maxRecDepth 20000 in
/-- To the end of a word, a blank is neither ignorable nor cased. -/
lemma blankRanges_apart : (blankRanges.all fun range =>
    casedRanges.all (apart range) && ignorableRanges.all (apart range)) = true := by
  decide +kernel

/-- Lower case leaves caseless characters alone. -/
lemma Caseless.isLower {c} (caseless : Caseless c) : IsLower c := by
  obtain ⟨range, mem, between⟩ := caseless
  have clear := List.all_eq_true.1 caselessRanges_apart range mem
  simp only [Bool.and_eq_true, List.all_eq_true] at clear
  obtain ⟨⟨runs, dotted⟩, sigma⟩ := clear
  have dotted := outside_of_apart dotted between
  have sigma := outside_of_apart sigma between
  have unmapped : mappedBy lowerRuns c.toNat = none := by
    rw [mappedBy, Option.map_eq_none_iff, List.find?_eq_none]
    intro run within member
    have outside := outside_of_apart (runs run within) between
    simp only [CaseRun.contains, Bool.and_eq_true, decide_eq_true_eq] at member
    omega
  refine ⟨by omega, ?_⟩
  rw [lowerPoint, lowerCode, if_neg (by omega), if_neg (by omega), unmapped, Option.getD_none,
    Point.ofNat_toNat]

/-- What a run leads to has a case. -/
lemma not_caseless_target {run n} (mem : run ∈ lowerRuns) (member : run.contains n = true) :
    ¬Caseless (Point.ofNat (run.target n)) := by
  rintro ⟨range, within, between⟩
  have misses := List.all_eq_true.1 (List.all_eq_true.1 lowerRuns_miss_caseless run mem) range within
  have outside := CaseRun.target_of_misses member misses
  rw [toNat_target mem member] at between
  omega

/-- Lower case makes no other character caseless. -/
lemma not_caseless_of_mem_lowerPiece {before c after d} (cased : ¬Caseless c)
    (mem : d ∈ lowerPiece before c after) : ¬Caseless d := by
  unfold lowerPiece at mem
  split at mem
  · rw [List.mem_singleton] at mem
    subst mem
    split <;> decide +kernel
  · obtain (rfl | rfl) | ⟨rfl, _⟩ | ⟨run, within, member, rfl⟩ := mem_lowerPoint_cases mem
    · decide +kernel
    · decide +kernel
    · exact cased
    · exact not_caseless_target within member

/-- A character without case stays as it is in lower case. -/
lemma lowerAfter_caseless {before c rest} (caseless : Caseless c) :
    lowerAfter before (c :: rest) = c :: lowerAfter (c :: before) rest := by
  obtain ⟨other, same⟩ := caseless.isLower
  rw [lowerAfter_cons, lowerPiece, if_neg other, same]
  rfl

/-- The first character of a text keeps its place when it is caseless; otherwise another one with a case comes
first. -/
lemma lowerAfter_cases (before : List Point) (c : Point) (rest : List Point) :
    (Caseless c ∧ lowerAfter before (c :: rest) = c :: lowerAfter (c :: before) rest) ∨
      ¬Caseless c ∧ ∃ d tail, lowerAfter before (c :: rest) = d :: tail ∧ ¬Caseless d := by
  by_cases caseless : Caseless c
  · exact .inl ⟨caseless, lowerAfter_caseless caseless⟩
  · refine .inr ⟨caseless, ?_⟩
    rw [lowerAfter_cons]
    cases piece : lowerPiece before c rest with
    | nil => exact (lowerPiece_ne_nil piece).elim
    | cons d others =>
      exact ⟨d, _, rfl, not_caseless_of_mem_lowerPiece caseless (piece ▸ List.mem_cons_self)⟩

section LeadingIntegers

/-- What has a case is no blank. -/
lemma isBlank_of_cased {c} (cased : ¬Caseless c) : isBlank c = false := by
  rw [← Bool.not_eq_true]
  exact fun blank => cased (.of_isBlank blank)

/-- What has a case is no digit. -/
lemma isDigit_of_cased {c} (cased : ¬Caseless c) : isDigit c = false := by
  rw [← Bool.not_eq_true]
  exact fun digit => cased (.of_isDigit digit)

/-- Blanks are dropped from a text in lower case as from the text itself. -/
lemma dropWhile_lowerAfter (before cs : List Point) :
    ∃ before', (lowerAfter before cs).dropWhile isBlank = lowerAfter before' (cs.dropWhile isBlank) := by
  induction cs generalizing before with
  | nil => exact ⟨before, rfl⟩
  | cons c rest ih =>
    by_cases blank : isBlank c = true
    · obtain ⟨before', e⟩ := ih (c :: before)
      refine ⟨before', ?_⟩
      rw [lowerAfter_caseless (.of_isBlank blank), List.dropWhile_cons_of_pos blank,
        List.dropWhile_cons_of_pos blank, e]
    · refine ⟨before, ?_⟩
      rw [List.dropWhile_cons_of_neg blank]
      obtain ⟨_, e⟩ | ⟨_, d, tail, e, cased⟩ := lowerAfter_cases before c rest
      · rw [e, List.dropWhile_cons_of_neg blank]
      · rw [e, List.dropWhile_cons_of_neg (by simp [isBlank_of_cased cased])]

/-- A sign is split off a text in lower case as off the text itself. -/
lemma splitSign_lowerAfter (before cs : List Point) :
    ∃ before', splitSign (lowerAfter before cs) =
      ((splitSign cs).1, lowerAfter before' (splitSign cs).2) := by
  cases cs with
  | nil => exact ⟨before, rfl⟩
  | cons c rest =>
    by_cases minus : c = '-'
    · subst minus
      exact ⟨'-' :: before, by rw [lowerAfter_caseless caseless_minus]; rfl⟩
    · by_cases plus : c = '+'
      · subst plus
        exact ⟨'+' :: before, by rw [lowerAfter_caseless caseless_plus]; rfl⟩
      · refine ⟨before, ?_⟩
        rw [splitSign_of_ne plus minus]
        obtain ⟨_, e⟩ | ⟨_, d, tail, e, cased⟩ := lowerAfter_cases before c rest
        · rw [e, splitSign_of_ne plus minus]
        · rw [e]
          apply splitSign_of_ne
          · rintro rfl
            exact cased caseless_plus
          · rintro rfl
            exact cased caseless_minus

/-- Where no digit comes first, no digits are read. -/
lemma leadingDigits_of_not_isDigit {c rest} (other : isDigit c = false) :
    leadingDigits (c :: rest) = [] := by
  have none : digitValue? c = none := by
    simpa [isDigit] using other
  rw [leadingDigits, none]

/-- The digits that come first in a text in lower case are those of the text itself. -/
lemma leadingDigits_lowerAfter (before cs : List Point) :
    leadingDigits (lowerAfter before cs) = leadingDigits cs := by
  induction cs generalizing before with
  | nil => rfl
  | cons c rest ih =>
    obtain ⟨_, e⟩ | ⟨cased, d, tail, e, cased'⟩ := lowerAfter_cases before c rest
    · rw [e, leadingDigits, leadingDigits, ih]
    · rw [e, leadingDigits_of_not_isDigit (isDigit_of_cased cased),
        leadingDigits_of_not_isDigit (isDigit_of_cased cased')]

/-- All that matters to a leading integer is its sign and its digits. -/
lemma leadingInteger_congr {cs cs' : List Point}
    (sign : (splitSign (cs.dropWhile isBlank)).1 = (splitSign (cs'.dropWhile isBlank)).1)
    (digits : leadingDigits (splitSign (cs.dropWhile isBlank)).2 =
      leadingDigits (splitSign (cs'.dropWhile isBlank)).2) :
    leadingInteger cs = leadingInteger cs' := by
  unfold leadingInteger
  dsimp only
  rw [sign, digits]

/-- Lower case does not change the integer that a text starts with. -/
lemma leadingInteger_lower (cs : List Point) : leadingInteger (lower cs) = leadingInteger cs := by
  obtain ⟨_, dropped⟩ := dropWhile_lowerAfter [] cs
  obtain ⟨_, split⟩ := splitSign_lowerAfter _ (cs.dropWhile isBlank)
  rw [← dropped] at split
  apply leadingInteger_congr
  · rw [lower, split]
  · rw [lower, split, leadingDigits_lowerAfter]

end LeadingIntegers

section Trimming

variable {front cs back : List Point}

/-- Trimmed text stands between blanks. -/
lemma exists_of_trim (cs : List Point) : ∃ front back, (∀ c ∈ front, isBlank c = true) ∧
    (∀ c ∈ back, isBlank c = true) ∧ front ++ (trim cs ++ back) = cs := by
  refine ⟨cs.takeWhile isBlank, (cs.dropWhile isBlank).rtakeWhile isBlank, ?_, ?_, ?_⟩
  · exact fun c mem => List.mem_takeWhile_imp mem
  · exact fun c mem => List.mem_rtakeWhile_imp mem
  · rw [trim_eq, List.rdropWhile_append_rtakeWhile, List.takeWhile_append_dropWhile]

/-- Of a trimmed text between blanks, those in front are dropped, unless there is nothing but blanks. -/
lemma dropWhile_of_blanks (t : Trimmed cs) (blank : ∀ c ∈ front, isBlank c = true)
    (blank' : ∀ c ∈ back, isBlank c = true) :
    (front ++ (cs ++ back)).dropWhile isBlank = if cs = [] then [] else cs ++ back := by
  rw [List.dropWhile_append_of_pos blank]
  cases cs with
  | nil => simpa using blank'
  | cons c rest => simp [t.1 c rest rfl]

/-- Trimming takes the blanks around a trimmed text away. -/
lemma trim_of_blanks (t : Trimmed cs) (blank : ∀ c ∈ front, isBlank c = true)
    (blank' : ∀ c ∈ back, isBlank c = true) : trim (front ++ (cs ++ back)) = cs := by
  rw [trim_eq, dropWhile_of_blanks t blank blank']
  split
  · exact ‹cs = []›.symm
  · have turned : ∀ c ∈ back.reverse, isBlank c = true :=
      fun c mem => blank' c (List.mem_reverse.1 mem)
    rw [List.rdropWhile, List.reverse_append, List.dropWhile_append_of_pos turned]
    exact t.rdropWhile

/-- A blank is no sign. -/
lemma splitSign_append_blanks (blank : ∀ c ∈ back, isBlank c = true) :
    splitSign (cs ++ back) = ((splitSign cs).1, (splitSign cs).2 ++ back) := by
  cases cs with
  | nil =>
    cases back with
    | nil => rfl
    | cons c rest =>
      have first := blank c List.mem_cons_self
      apply splitSign_of_ne
      · rintro rfl
        exact absurd first (by decide)
      · rintro rfl
        exact absurd first (by decide)
  | cons c rest =>
    by_cases minus : c = '-'
    · subst minus
      rfl
    · by_cases plus : c = '+'
      · subst plus
        rfl
      · rw [List.cons_append, splitSign_of_ne plus minus, splitSign_of_ne plus minus]
        rfl

/-- A blank is no digit. -/
lemma leadingDigits_append_blanks (blank : ∀ c ∈ back, isBlank c = true) :
    leadingDigits (cs ++ back) = leadingDigits cs := by
  induction cs with
  | nil =>
    cases back with
    | nil => rfl
    | cons c rest =>
      apply leadingDigits_of_not_isDigit
      by_contra digit
      rw [Bool.not_eq_false] at digit
      exact absurd (blank c List.mem_cons_self) (by simp [isBlank_of_isDigit digit])
  | cons c rest ih => rw [List.cons_append, leadingDigits, leadingDigits, ih]

/-- Trimming does not change the integer that a text starts with. -/
lemma leadingInteger_trim (cs : List Point) : leadingInteger (trim cs) = leadingInteger cs := by
  obtain ⟨front, back, blank, blank', e⟩ := exists_of_trim cs
  have t : Trimmed (trim cs) := trimmed_trim
  have dropped := dropWhile_of_blanks t blank blank'
  rw [e] at dropped
  by_cases empty : trim cs = []
  · rw [if_pos empty] at dropped
    apply leadingInteger_congr <;> rw [dropped, t.dropWhile, empty]
  · rw [if_neg empty] at dropped
    apply leadingInteger_congr
    · rw [dropped, t.dropWhile, splitSign_append_blanks blank']
    · rw [dropped, t.dropWhile, splitSign_append_blanks blank', leadingDigits_append_blanks blank']

end Trimming

section WordEnds

variable {blanks before before' cs : List Point} (blank : ∀ c ∈ blanks, isBlank c = true)

/-- A blank neither has a case nor is passed over in search of one. -/
lemma casedRanges_of_isBlank {c} (blank : isBlank c = true) :
    casedRanges.contains c.toNat = false ∧ ignorableRanges.contains c.toNat = false := by
  obtain ⟨range, mem, between⟩ := Ranges.exists_of_contains blank
  have clear := List.all_eq_true.1 blankRanges_apart range mem
  simp only [Bool.and_eq_true, List.all_eq_true] at clear
  constructor
  · by_contra cased
    obtain ⟨other, within, between'⟩ := Ranges.exists_of_contains (Bool.not_eq_false _ ▸ cased)
    have outside := outside_of_apart (clear.1 other within) between
    omega
  · by_contra ignorable
    obtain ⟨other, within, between'⟩ := Ranges.exists_of_contains (Bool.not_eq_false _ ▸ ignorable)
    have outside := outside_of_apart (clear.2 other within) between
    omega

include blank

/-- Among blanks there is nothing with a case. -/
lemma meetsCased_blanks : meetsCased blanks = false := by
  cases blanks with
  | nil => rfl
  | cons c rest =>
    obtain ⟨uncased, seen⟩ := casedRanges_of_isBlank (blank c List.mem_cons_self)
    rw [meetsCased, List.dropWhile_cons_of_neg (by simp [seen])]
    exact uncased

/-- Blanks behind a text never count as a part of a word. -/
lemma meetsCased_append_blanks : meetsCased (cs ++ blanks) = meetsCased cs := by
  induction cs with
  | nil => exact meetsCased_blanks blank
  | cons c rest ih =>
    unfold meetsCased at ih ⊢
    rw [List.cons_append, List.dropWhile_cons, List.dropWhile_cons]
    by_cases ignorable : ignorableRanges.contains c.toNat = true
    · rw [if_pos ignorable, if_pos ignorable]
      exact ih
    · rw [if_neg ignorable, if_neg ignorable]

/-- Blanks before a text have no influence on its lower case. -/
lemma lowerAfter_append_blanks : lowerAfter (before ++ blanks) cs = lowerAfter before cs := by
  induction cs generalizing before with
  | nil => rfl
  | cons c rest ih =>
    rw [lowerAfter_cons, lowerAfter_cons, ← List.cons_append, ih, lowerPiece, lowerPiece, endsWord,
      endsWord, meetsCased_append_blanks blank]

/-- Blanks behind a text have no influence on its lower case, and stay. -/
lemma lowerAfter_before_blanks : lowerAfter before (cs ++ blanks) = lowerAfter before cs ++ blanks := by
  induction cs generalizing before with
  | nil => exact lower_of_lowered fun c mem => (Caseless.of_isBlank (blank c mem)).isLower
  | cons c rest ih =>
    rw [List.cons_append, lowerAfter_cons, lowerAfter_cons, ih, lowerPiece, lowerPiece, endsWord,
      endsWord, meetsCased_append_blanks blank, List.append_assoc]

/-- Blanks in front of a text stay. -/
lemma lowerAfter_blanks : lowerAfter before (blanks ++ cs) =
    blanks ++ lowerAfter (blanks.reverse ++ before) cs := by
  induction blanks generalizing before with
  | nil => rfl
  | cons c rest ih =>
    have first := Caseless.of_isBlank (blank c List.mem_cons_self)
    rw [List.cons_append, lowerAfter_caseless first, ih fun c mem => blank c (List.mem_cons_of_mem _ mem)]
    simp

end WordEnds

/-- A text can be put in lower case before or after it is trimmed. -/
lemma lower_trim (cs : List Point) : lower (trim cs) = trim (lower cs) := by
  obtain ⟨front, back, blank, blank', e⟩ := exists_of_trim cs
  have turned : ∀ c ∈ front.reverse, isBlank c = true :=
    fun c mem => blank c (List.mem_reverse.1 mem)
  have lowered : lower cs = front ++ (lower (trim cs) ++ back) := by
    conv_lhs => rw [← e]
    rw [lower, lowerAfter_blanks blank, List.append_nil, lowerAfter_before_blanks blank',
      ← List.nil_append front.reverse, lowerAfter_append_blanks turned]
    rfl
  rw [lowered, trim_of_blanks trimmed_trim.lower blank blank']

end RecordSchema.Text
