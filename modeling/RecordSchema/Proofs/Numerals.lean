import RecordSchema.Number.Notation
import RecordSchema.Proofs.Grammar

/-!
# Written numbers are numerals

Integers and finite binary64 numbers are written as numerals (`isNumeral_writeInt`, `isNumeral_write`).
The digits of a number other than zero start with another digit than zero, so all that matters of the
shortest digits is that they are not those of zero: seventeen digits lie close enough to the number
(`shortest_ne_zero`).
-/

namespace RecordSchema

namespace Decimal

open Json

/-- A number is written with digits only, and with at least one. -/
lemma digits_digitsOf (n : Nat) : Digits (digitsOf n) :=
  ⟨Nat.toDigits_ne_nil, fun _ mem => Nat.isDigit_of_mem_toDigits (by decide) (by decide) mem⟩

/-- The digits of a number other than zero do not start with zero. -/
lemma digitsOf_cons {n : Nat} (ne : n ≠ 0) : ∃ d rest, digitsOf n = d :: rest ∧ d ≠ '0' := by
  induction n using Nat.strongRecOn with
  | ind n ih =>
    by_cases small : n < 10
    · refine ⟨n.digitChar, [], Nat.toDigits_of_lt_base small, ?_⟩
      interval_cases n <;> first | exact (ne rfl).elim | decide
    · obtain ⟨d, rest, e, nonzero⟩ := ih (n / 10) (by omega) (by omega)
      refine ⟨d, rest ++ [(n % 10).digitChar], ?_, nonzero⟩
      rw [digitsOf, Nat.toDigits_of_base_le (by decide) (by omega)]
      change digitsOf (n / 10) ++ _ = _
      rw [e, List.cons_append]

/-- The digits of a number start with zero only for zero itself. -/
lemma leading_digitsOf (n : Nat) : (digitsOf n).head? = some '0' → digitsOf n = ['0'] := by
  intro e
  by_cases zero : n = 0
  · rw [zero]
    rfl
  · obtain ⟨d, rest, ed, nonzero⟩ := digitsOf_cons zero
    rw [ed] at e
    cases e
    exact (nonzero rfl).elim

/-- Without a fraction and an exponent a numeral is an integer, if it can be read. -/
lemma finite_of_whole {negative whole} : Numeral.Finite ⟨negative, whole, [], none⟩ := by
  intro x e
  unfold Numeral.value? number? at e
  dsimp only [Option.map_none] at e
  split at e <;> cases e

/-- An integer is written as a numeral whose number is finite. -/
lemma isFiniteNumeral_writeInt (n : Int) : IsFiniteNumeral (writeInt n).toList := by
  refine ⟨⟨decide (n < 0), digitsOf n.natAbs, [], none⟩, ?_, finite_of_whole, ?_⟩
  · exact ⟨digits_digitsOf _, leading_digitsOf _, nofun, nofun⟩
  · by_cases negative : n < 0 <;>
      simp [writeInt, writeNat, negative, Numeral.text, Numeral.unsignedText, Numeral.fractionText,
        Numeral.exponentText]

/-- An integer is written as a numeral. -/
lemma isNumeral_writeInt (n : Int) : IsNumeral (writeInt n).toList :=
  (isFiniteNumeral_writeInt n).isNumeral

end Decimal

namespace Double

open Json

/-- Without its trailing zeros a row of digits still starts with the digit that is not zero. -/
lemma dropTrailingZeros_cons {d rest} (nonzero : d ≠ '0')
    (digits : ∀ c ∈ d :: rest, c.isDigit = true) :
    ∃ rest', dropTrailingZeros (d :: rest) = d :: rest' ∧ ∀ c ∈ d :: rest', c.isDigit = true := by
  have front : dropTrailingZeros (d :: rest) <+: d :: rest :=
    List.rdropWhile_prefix (· == '0') (d :: rest)
  have some : dropTrailingZeros (d :: rest) ≠ [] := by
    intro none
    have zeros := List.rdropWhile_eq_nil_iff.1 none
    have zero := zeros d List.mem_cons_self
    exact nonzero (by simpa using zero)
  cases e : dropTrailingZeros (d :: rest) with
  | nil => exact (some e).elim
  | cons c rest' =>
    rw [e] at front
    obtain ⟨rfl, _⟩ := List.cons_prefix_cons.1 front
    exact ⟨rest', rfl, fun c mem => digits c (front.subset mem)⟩

/-- A text is a numeral without a sign. -/
def Unsigned (cs : List Char) : Prop :=
  ∃ n : Numeral, n.Valid ∧ cs = n.unsignedText

/-- With its sign, an unsigned numeral is a numeral. -/
lemma Unsigned.isNumeral {cs} (negative : Bool) (unsigned : Unsigned cs) :
    IsNumeral ((if negative then ['-'] else []) ++ cs) := by
  obtain ⟨n, ⟨whole, leading, fraction, exponent⟩, rfl⟩ := unsigned
  exact ⟨{ n with negative }, ⟨whole, leading, fraction, exponent⟩, rfl⟩

/-- Digits before and behind a point make up a numeral. -/
lemma unsigned_point {front back} (whole : Digits front)
    (leading : front.head? = some '0' → front = ['0']) (fraction : Digits back) :
    Unsigned (front ++ ['.'] ++ back) := by
  refine ⟨⟨false, front, back, none⟩, ⟨whole, leading, fraction.2, nofun⟩, ?_⟩
  rw [Numeral.unsignedText, Numeral.fractionText, if_neg fraction.1]
  simp [Numeral.exponentText]

/-- A zero is a row of digits. -/
lemma digits_zero : Digits ['0'] := by
  refine ⟨nofun, ?_⟩
  intro c mem
  rw [List.mem_singleton.1 mem]
  decide

/-- Digits that are padded with zeros are digits. -/
lemma digits_padded {width digits} (valid : Digits digits) : Digits (padded width digits) := by
  refine ⟨List.append_ne_nil_of_right_ne_nil _ valid.1, ?_⟩
  intro c mem
  rcases List.mem_append.1 mem with mem | mem
  · rw [List.eq_of_mem_replicate mem]
    decide
  · exact valid.2 c mem

section Forms

variable {d : Char} {rest : List Char} (nonzero : d ≠ '0') (digits : Digits (d :: rest))

include digits in
/-- Digits behind the point make up an unsigned numeral. -/
lemma unsigned_below {leading : Int} (below : leading < 0) :
    Unsigned (positional (d :: rest) leading) := by
  have fraction : Digits (List.replicate ((-leading).toNat - 1) '0' ++ d :: rest) := by
    refine ⟨List.append_ne_nil_of_right_ne_nil _ digits.1, ?_⟩
    intro c mem
    rcases List.mem_append.1 mem with mem | mem
    · rw [List.eq_of_mem_replicate mem]
      decide
    · exact digits.2 c mem
  have unsigned := unsigned_point digits_zero (fun _ => rfl) fraction
  simpa [positional, below] using unsigned

include nonzero digits

/-- The positional form of digits is a numeral. -/
lemma unsigned_positional (leading : Int) : Unsigned (positional (d :: rest) leading) := by
  by_cases below : leading < 0
  · exact unsigned_below digits below
  · rw [positional, if_neg below]
    apply unsigned_point
    · refine ⟨by simp, ?_⟩
      intro c mem
      rcases List.mem_append.1 mem with mem | mem
      · exact digits.2 c (List.mem_of_mem_take mem)
      · rw [List.eq_of_mem_replicate mem]
        decide
    · intro e
      exact (nonzero (by simpa using e)).elim
    · split
      · exact digits_zero
      · rename_i some
        refine ⟨fun none => some (List.isEmpty_iff.2 none), ?_⟩
        exact fun c mem => digits.2 c (List.mem_of_mem_drop mem)

/-- The form of digits with an exponent is a numeral. -/
lemma unsigned_scientific (width : Nat) (leading : Int) :
    Unsigned (scientific width (d :: rest) leading) := by
  let exponent : Exponent :=
    ⟨'e', [if leading < 0 then '-' else '+'], padded width (Decimal.digitsOf leading.natAbs)⟩
  refine ⟨⟨false, [d], rest, some exponent⟩, ⟨?_, ?_, ?_, ?_⟩, ?_⟩
  · refine ⟨nofun, ?_⟩
    intro c mem
    rw [List.mem_singleton.1 mem]
    exact digits.2 d List.mem_cons_self
  · intro e
    exact (nonzero (by simpa using e)).elim
  · exact fun c mem => digits.2 c (List.mem_cons_of_mem _ mem)
  · rintro _ ⟨rfl⟩
    refine ⟨.inl rfl, ?_, digits_padded (Decimal.digits_digitsOf _)⟩
    by_cases negative : leading < 0 <;> simp [exponent, negative]
  · cases rest <;>
      simp [scientific, Numeral.unsignedText, Numeral.fractionText, Numeral.exponentText,
        Exponent.text, exponent]

end Forms

/-- One step of the decimal grid of an exponent is `stepNum / stepDen` quarter units. -/
def stepNum (exponent : Int) : Nat :=
  if 0 ≤ exponent then quarterUnits * tenPow exponent.toNat else quarterUnits

def stepDen (exponent : Int) : Nat :=
  if 0 ≤ exponent then 1 else tenPow (-exponent).toNat

/-- There are quarter units in one. -/
lemma quarterUnits_pos : 0 < quarterUnits :=
  Nat.mul_pos (by decide) (twoPow_pos unitBits)

/-- The denominator of a step of the grid is positive. -/
lemma stepDen_pos (exponent : Int) : 0 < stepDen exponent := by
  unfold stepDen
  split
  · exact Nat.one_pos
  · exact tenPow_pos _

/-- The numerator of a step of the grid is positive. -/
lemma stepNum_pos (exponent : Int) : 0 < stepNum exponent := by
  unfold stepNum
  split
  · exact Nat.mul_pos quarterUnits_pos (tenPow_pos _)
  · exact quarterUnits_pos

/-- The shape of an interval: it starts above zero, and reaches a step or more below its value and
further than the value above it. Seventeen digits of the value are finer than the step. -/
structure Interval.Spans (i : Interval) (step : Nat) : Prop where
  low_pos : 0 < i.low
  below : i.low + step ≤ i.value
  above : i.value < i.high
  fine : i.value < 10 ^ 17 * step

/-- The gap between neighbours at an exponent. -/
def gap (exponent : Fin 2047) : Nat :=
  if exponent.val = 0 then 1 else twoPow (exponent.val - 1)

/-- The gap between neighbours is positive. -/
lemma gap_pos (exponent : Fin 2047) : 0 < gap exponent := by
  unfold gap
  split
  · exact Nat.one_pos
  · exact twoPow_pos _

/-- A positive magnitude is at least the gap, and has 53 bits at most. -/
lemma magnitude_bounds {exponent fraction} (ne : magnitude exponent fraction ≠ 0) :
    gap exponent ≤ magnitude exponent fraction ∧
      magnitude exponent fraction < 2 ^ 53 * gap exponent := by
  have bound := fraction.isLt
  unfold magnitude at ne ⊢
  unfold gap
  split
  · rename_i least
    rw [if_pos least] at ne
    simp only [fractionCount] at bound
    omega
  · have positive := twoPow_pos (exponent.val - 1)
    constructor
    · exact Nat.le_mul_of_pos_left _ (by simp [fractionCount])
    · apply Nat.mul_lt_mul_of_pos_right _ positive
      simp only [fractionCount] at bound ⊢
      omega

/-- The interval of a number other than zero has the shape for the gap at its exponent. -/
lemma interval_spans {exponent fraction} (ne : magnitude exponent fraction ≠ 0) :
    (interval exponent fraction).Spans (gap exponent) := by
  have positive := gap_pos exponent
  obtain ⟨least, most⟩ := magnitude_bounds ne
  obtain ⟨below, e, short, long⟩ : ∃ below,
      (interval exponent fraction).low = 4 * magnitude exponent fraction - below ∧
        gap exponent ≤ below ∧ below ≤ 2 * gap exponent := by
    refine ⟨_, rfl, ?_, ?_⟩ <;> split <;> unfold gap <;> omega
  have value : (interval exponent fraction).value = 4 * magnitude exponent fraction := rfl
  have high : (interval exponent fraction).high =
      4 * magnitude exponent fraction + 2 * gap exponent := rfl
  refine ⟨?_, ?_, ?_, ?_⟩ <;> omega

/-- The neighbour on a grid whose steps are `num / den` quarter units. -/
def neighbourOn? (i : Interval) (num den : Nat) : Option Nat :=
  let n := i.value * den / num
  match i.holds (n * num) den, i.holds ((n + 1) * num) den with
  | true, true =>
    let rest := 2 * (i.value * den - n * num)
    if rest < num then some n
    else if num < rest then some (n + 1)
    else if n % 2 = 0 then some n
    else some (n + 1)
  | true, false => some n
  | false, true => some (n + 1)
  | false, false => none

/-- The neighbour at an exponent is the one on its grid. -/
lemma neighbour?_eq (i : Interval) (exponent : Int) :
    neighbour? i exponent = neighbourOn? i (stepNum exponent) (stepDen exponent) :=
  rfl

section Neighbour

variable {i : Interval} {num den : Nat}

/-- A neighbour on a grid rounds to the number. -/
lemma holds_of_neighbourOn? {n} (e : neighbourOn? i num den = some n) :
    i.holds (n * num) den = true := by
  unfold neighbourOn? at e
  dsimp only at e
  split at e
  · split at e
    · cases e
      assumption
    · split at e
      · cases e
        assumption
      · split at e <;> cases e <;> assumption
  · cases e
    assumption
  · cases e
    assumption
  · cases e

/-- There is a neighbour as soon as the value rounded down to the grid rounds to the number. -/
lemma neighbourOn?_ne_none (below : i.holds (i.value * den / num * num) den = true) :
    neighbourOn? i num den ≠ none := by
  intro e
  unfold neighbourOn? at e
  dsimp only at e
  split at e
  · split at e
    · cases e
    · split at e
      · cases e
      · split at e <;> cases e
  · cases e
  · cases e
  · rename_i none _
    cases below.symm.trans none

variable {step : Nat} (spans : i.Spans step)

include spans

/-- Zero rounds to no positive number. -/
lemma neighbour?_ne_zero {exponent} : neighbour? i exponent ≠ some 0 := by
  intro e
  rw [neighbour?_eq] at e
  have holds := holds_of_neighbourOn? e
  have positive := Nat.mul_pos spans.low_pos (stepDen_pos exponent)
  rw [Nat.zero_mul, Interval.holds] at holds
  split at holds
  · simp only [Bool.and_eq_true, decide_eq_true_eq] at holds
    omega
  · simp only [Bool.and_eq_true, decide_eq_true_eq] at holds
    omega

/-- A grid that is no coarser than the interval has a neighbour of the value. -/
lemma neighbour?_ne_none {exponent} (dense : stepNum exponent ≤ step * stepDen exponent) :
    neighbour? i exponent ≠ none := by
  rw [neighbour?_eq]
  apply neighbourOn?_ne_none
  have positive := stepNum_pos exponent
  have positive' := stepDen_pos exponent
  generalize stepNum exponent = num at dense positive ⊢
  generalize stepDen exponent = den at dense positive' ⊢
  -- Rounding down loses less than a step of the grid, which the interval reaches below the value.
  have close : i.value * den < i.value * den / num * num + num := by
    have split := Nat.div_add_mod (i.value * den) num
    have rest := Nat.mod_lt (i.value * den) positive
    rw [Nat.mul_comm] at split
    omega
  have under : i.value * den / num * num ≤ i.value * den := Nat.div_mul_le_self _ _
  have low : i.low * den + step * den ≤ i.value * den := by
    rw [← Nat.add_mul]
    exact Nat.mul_le_mul_right _ spans.below
  have high : i.value * den < i.high * den := Nat.mul_lt_mul_of_pos_right spans.above positive'
  rw [Interval.holds]
  split <;> simp only [Bool.and_eq_true, decide_eq_true_eq] <;> omega

/-- The digits that are found are not those of zero, if the last grid that is tried is fine enough. -/
lemma shortestFrom_ne_zero {leading : Int} {fuel count}
    (dense : stepNum (leading - (count + fuel : Nat)) ≤
      step * stepDen (leading - (count + fuel : Nat))) :
    (shortestFrom i leading fuel count).1 ≠ 0 := by
  induction fuel generalizing count with
  | zero =>
    rw [shortestFrom]
    cases e : neighbour? i (leading - count) with
    | none => exact (neighbour?_ne_none spans dense e).elim
    | some n =>
      rintro rfl
      exact neighbour?_ne_zero spans e
  | succ fuel ih =>
    rw [shortestFrom]
    cases e : neighbour? i (leading - count) with
    | none =>
      apply ih
      rw [Nat.add_right_comm]
      exact dense
    | some n =>
      rintro rfl
      exact neighbour?_ne_zero spans e

end Neighbour

/-- The leading exponent of a value is one of a power of ten that the value reaches. -/
inductive Reached (value : Nat) : Int → Prop where
  | up {n : Nat} :
    quarterUnits * tenPow n ≤ value →
    Reached value n
  | down {n : Nat} :
    quarterUnits ≤ value * tenPow n →
    Reached value (Int.negOfNat n)

/-- The lifting power of a value reaches one, if the greatest power that may be tried does. -/
lemma liftingPower_reaches {value fuel power} (far : quarterUnits ≤ value * tenPow (power + fuel)) :
    quarterUnits ≤ value * tenPow (liftingPower value fuel power) := by
  induction fuel generalizing power with
  | zero => exact far
  | succ fuel ih =>
    rw [liftingPower]
    split
    · assumption
    · apply ih
      rw [Nat.add_right_comm]
      exact far

/-- The greatest power of ten that may be tried reaches one from a quarter unit. -/
lemma quarterUnits_le : quarterUnits ≤ tenPow 400 := by
  decide +kernel

/-- A number of some width has a power of ten below it with one digit less behind the first. -/
lemma tenPow_width_le {n : Nat} (positive : 0 < n) : tenPow (Decimal.width n - 1) ≤ n := by
  by_cases short : Decimal.width n - 1 = 0
  · rw [short]
    exact positive
  · by_contra less
    have fits := (Nat.length_toDigits_le_iff (b := 10) (n := n) (by decide)
      (Nat.pos_of_ne_zero short)).2 (Nat.lt_of_not_le less)
    change Decimal.width n ≤ _ at fits
    omega

/-- A positive value reaches its leading exponent. -/
lemma leadingExponent_reached {value} (positive : 0 < value) :
    Reached value (leadingExponent value) := by
  unfold leadingExponent
  split
  · rename_i le
    have whole : 0 < value / quarterUnits := Nat.div_pos le quarterUnits_pos
    have wide : 0 < Decimal.width (value / quarterUnits) := Nat.length_toDigits_pos
    have exponent : (Decimal.width (value / quarterUnits) : Int) - 1 =
        (Decimal.width (value / quarterUnits) - 1 : Nat) := by
      omega
    rw [exponent]
    apply Reached.up
    have reached := Nat.mul_le_mul_left quarterUnits (tenPow_width_le whole)
    exact Nat.le_trans reached (Nat.mul_div_le value quarterUnits)
  · apply Reached.down
    apply liftingPower_reaches
    have grows : ∀ a b, tenPow a ≤ tenPow (b + a) := fun a b =>
      Nat.pow_le_pow_right (by decide) (Nat.le_add_left a b)
    calc
      quarterUnits ≤ tenPow 400 := quarterUnits_le
      _ ≤ tenPow (_ + 400) := grows 400 _
      _ ≤ value * tenPow (_ + 400) := Nat.le_mul_of_pos_left _ positive

/-- Seventeen digits behind the leading one, the grid is finer than a step of which the value has less
than seventeen digits. -/
lemma Reached.dense {value step leading} (reached : Reached value leading)
    (fine : value < 10 ^ 17 * step) :
    stepNum (leading - 17) ≤ step * stepDen (leading - 17) := by
  have split : ∀ a b, tenPow (a + b) = tenPow a * tenPow b := fun a b => Nat.pow_add 10 a b
  have seventeen : tenPow 17 = 10 ^ 17 := rfl
  cases reached with
  | @up n reaches =>
    -- With an exponent from 17 on the step stays whole, below that it is a fraction.
    by_cases large : 17 ≤ n
    · obtain ⟨m, rfl⟩ := Nat.exists_eq_add_of_le large
      have exponent : ((17 + m : Nat) : Int) - 17 = m := by omega
      rw [exponent, stepNum, stepDen, if_pos (Int.natCast_nonneg m), if_pos (Int.natCast_nonneg m),
        Int.toNat_natCast]
      rw [split, seventeen] at reaches
      have scaled : 10 ^ 17 * (quarterUnits * tenPow m) < 10 ^ 17 * step := by
        calc
          10 ^ 17 * (quarterUnits * tenPow m) = quarterUnits * (10 ^ 17 * tenPow m) := by ring
          _ ≤ value := reaches
          _ < 10 ^ 17 * step := fine
      omega
    · obtain ⟨m, e⟩ := Nat.exists_eq_add_of_le (Nat.le_of_not_le large)
      have positive : 0 < m := by omega
      have exponent : (n : Int) - 17 = -(m : Int) := by omega
      have negative : ¬(0 : Int) ≤ -(m : Int) := by omega
      rw [exponent, stepNum, stepDen, if_neg negative, if_neg negative, neg_neg, Int.toNat_natCast]
      have scaled : tenPow n * quarterUnits < tenPow n * (step * tenPow m) := by
        calc
          tenPow n * quarterUnits = quarterUnits * tenPow n := Nat.mul_comm _ _
          _ ≤ value := reaches
          _ < 10 ^ 17 * step := fine
          _ = tenPow n * (step * tenPow m) := by rw [← seventeen, e, split]; ring
      exact Nat.le_of_lt (Nat.lt_of_mul_lt_mul_left scaled)
  | @down n reaches =>
    have exponent : Int.negOfNat n - 17 = -((n + 17 : Nat) : Int) := by
      rw [Int.negOfNat_eq, Int.ofNat_eq_natCast]
      omega
    have negative : ¬(0 : Int) ≤ -((n + 17 : Nat) : Int) := by omega
    rw [exponent, stepNum, stepDen, if_neg negative, if_neg negative, neg_neg, Int.toNat_natCast,
      split, seventeen]
    calc
      quarterUnits ≤ value * tenPow n := reaches
      _ ≤ 10 ^ 17 * step * tenPow n := Nat.mul_le_mul_right _ (Nat.le_of_lt fine)
      _ = step * (tenPow n * 10 ^ 17) := by ring

/-- The shortest digits of a number other than zero are not those of zero. -/
lemma shortest_ne_zero {exponent fraction} (ne : magnitude exponent fraction ≠ 0) :
    (shortest exponent fraction).1 ≠ 0 := by
  have spans := interval_spans ne
  have positive : 0 < (interval exponent fraction).value :=
    Nat.lt_of_lt_of_le (gap_pos exponent) (Nat.le_trans (Nat.le_add_left _ _) spans.below)
  apply shortestFrom_ne_zero spans
  exact (leadingExponent_reached positive).dense spans.fine

/-- A positive number is written as a numeral without a sign. -/
lemma unsigned_writeMagnitude (layout : Layout) {exponent fraction}
    (ne : magnitude exponent fraction ≠ 0) :
    Unsigned (writeMagnitude layout exponent fraction) := by
  obtain ⟨d, rest, e, nonzero⟩ := Decimal.digitsOf_cons (shortest_ne_zero ne)
  have digits := (Decimal.digits_digitsOf (shortest exponent fraction).1).2
  rw [e] at digits
  obtain ⟨rest', e', digits'⟩ := dropTrailingZeros_cons nonzero digits
  unfold writeMagnitude
  dsimp only
  rw [e, e']
  split
  · exact unsigned_positional nonzero ⟨nofun, digits'⟩ _
  · exact unsigned_scientific nonzero ⟨nofun, digits'⟩ _ _

/-- A finite number is written as a numeral. -/
lemma isNumeral_write (layout : Layout) {x : Double} (finite : x.isFinite = true) :
    IsNumeral (x.write layout).toList := by
  cases x with
  | nan => cases finite
  | infinite => cases finite
  | finite negative exponent fraction =>
    have sign : (if negative then "-" else "").toList = if negative then ['-'] else [] := by
      cases negative <;> simp
    rw [write, String.toList_append, sign]
    apply Unsigned.isNumeral
    split
    · have zero : "0.0".toList = ['0'] ++ ['.'] ++ ['0'] := by simp
      rw [zero]
      exact unsigned_point digits_zero (fun _ => rfl) digits_zero
    · rw [String.toList_ofList]
      exact unsigned_writeMagnitude layout ‹_›

end Double

end RecordSchema
