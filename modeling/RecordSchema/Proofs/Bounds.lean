import RecordSchema.Proofs.Exact
import RecordSchema.Proofs.Suited

/-!
# Bounds on numbers

Integers and finite binary64 numbers are points on the line of rational numbers, which infinite ones close at
both ends (`Number.point?`). Comparing two numbers is comparing their points, whatever their types and however
large they are (`Number.le_eq`, `Number.same_eq`), and nothing holds of what is not a number. So the rules
`min`, `max`, `enum` and `isInteger` tell how the points lie (`bounds_exact`).
-/

namespace RecordSchema

/-- The rational numbers between two ends. -/
abbrev Line := WithBot (WithTop ℚ)

/-- A rational number on the line. -/
def Line.point (q : ℚ) : Line :=
  ((q : WithTop ℚ) : WithBot (WithTop ℚ))

namespace Line

/-- Points are in the order of their numbers. -/
lemma point_le_iff {q r : ℚ} : point q ≤ point r ↔ q ≤ r := by
  rw [point, point, WithBot.coe_le_coe, WithTop.coe_le_coe]

/-- Points are the same when their numbers are. -/
lemma point_inj {q r : ℚ} : point q = point r ↔ q = r := by
  rw [point, point, WithBot.coe_inj, WithTop.coe_inj]

/-- The lower end of the line is below every point. -/
lemma bot_lt_point (q : ℚ) : ⊥ < point q :=
  WithBot.bot_lt_coe _

/-- The upper end of the line is above every point. -/
lemma point_lt_top (q : ℚ) : point q < ⊤ :=
  WithBot.coe_lt_coe.2 (WithTop.coe_lt_top q)

end Line

namespace Position

/-- A position, counted in units, as a point of the line. -/
def toLine : Position → Line
  | bottom => ⊥
  | units u => .point ((u : ℚ) / (twoPow Double.unitBits : ℕ))
  | top => ⊤

/-- The unit is positive, so that counting in it keeps the order. -/
lemma div_unit_le_iff {u v : ℤ} :
    (u : ℚ) / (twoPow Double.unitBits : ℕ) ≤ (v : ℚ) / (twoPow Double.unitBits : ℕ) ↔ u ≤ v := by
  have positive : (0 : ℚ) < (twoPow Double.unitBits : ℕ) := Nat.cast_pos.2 (twoPow_pos _)
  rw [div_le_div_iff_of_pos_right positive, Int.cast_le]

/-- Positions are ordered as their points are. -/
lemma toLine_le_iff {p q : Position} : p.toLine ≤ q.toLine ↔ p.le q = true := by
  cases p with
  | bottom => exact iff_of_true bot_le rfl
  | top =>
    cases q with
    | bottom => exact iff_of_false (not_le_of_gt (WithBot.bot_lt_coe _)) nofun
    | units v => exact iff_of_false (not_le_of_gt (Line.point_lt_top _)) nofun
    | top => exact iff_of_true le_rfl rfl
  | units u =>
    cases q with
    | bottom => exact iff_of_false (not_le_of_gt (Line.bot_lt_point _)) nofun
    | units v => rw [toLine, toLine, Line.point_le_iff, div_unit_le_iff, Position.le, decide_eq_true_eq]
    | top => exact iff_of_true (Line.point_lt_top _).le rfl

/-- Positions that are below each other are one. -/
lemma le_antisymm {p q : Position} (below : p.le q = true) (above : q.le p = true) : p = q := by
  cases p with
  | units u =>
    cases q with
    | units v =>
      simp only [Position.le, decide_eq_true_eq] at below above
      rw [Int.le_antisymm below above]
    | bottom => cases below
    | top => cases above
  | bottom => cases q <;> first | rfl | cases above
  | top => cases q <;> first | rfl | cases below

/-- Different positions are different places of the line. -/
lemma toLine_inj {p q : Position} : p.toLine = q.toLine ↔ p = q := by
  constructor
  · intro e
    exact le_antisymm (toLine_le_iff.1 e.le) (toLine_le_iff.1 e.ge)
  · rintro rfl
    rfl

end Position

namespace Number

/-- The point of a number: an integer is itself, a finite number its exact value, and an infinite one an
end. What is not a number has none. -/
def point? : Number → Option Line
  | int n => some (.point n)
  | double (.nan _) => none
  | double (.infinite true) => some ⊥
  | double (.infinite false) => some ⊤
  | double x => x.value?.map Line.point

/-- The position of a number, counted in units, is its point. -/
lemma point?_eq (x : Number) : x.point? = x.position?.map Position.toLine := by
  cases x with
  | int n =>
    have unit : ((twoPow Double.unitBits : ℕ) : ℚ) ≠ 0 := Nat.cast_ne_zero.2 (twoPow_pos _).ne'
    have count : ((Double.unitsOfInt n : ℤ) : ℚ) = n * (twoPow Double.unitBits : ℕ) := by
      rw [Double.unitsOfInt, Int.cast_mul, Int.cast_natCast]
    rw [point?, position?, Option.map_some, Position.toLine, count, mul_div_cancel_right₀ _ unit]
  | double x =>
    cases x with
    | nan => rfl
    | infinite negative => cases negative <;> rfl
    | finite negative exponent fraction =>
      rw [point?, Double.value?_eq]
      · rfl
      · nofun
      · nofun
      · nofun

variable {x y : Number} {p q : Line}

/-- Two numbers are compared as their points are. -/
lemma le_eq (hx : x.point? = some p) (hy : y.point? = some q) : x.le y = decide (p ≤ q) := by
  rw [point?_eq] at hx hy
  obtain ⟨px, ex, rfl⟩ := Option.map_eq_some_iff.1 hx
  obtain ⟨py, ey, rfl⟩ := Option.map_eq_some_iff.1 hy
  rw [Bool.eq_iff_iff, decide_eq_true_eq, Position.toLine_le_iff, le, ex, ey]

/-- Two numbers are the same when their points are. -/
lemma same_eq (hx : x.point? = some p) (hy : y.point? = some q) : x.same y = decide (p = q) := by
  rw [point?_eq] at hx hy
  obtain ⟨px, ex, rfl⟩ := Option.map_eq_some_iff.1 hx
  obtain ⟨py, ey, rfl⟩ := Option.map_eq_some_iff.1 hy
  rw [Bool.eq_iff_iff, decide_eq_true_eq, Position.toLine_inj, same, ex, ey]
  exact beq_iff_eq

/-- What has no point has no position. -/
lemma position?_none (hx : x.point? = none) : x.position? = none := by
  rwa [point?_eq, Option.map_eq_none_iff] at hx

/-- What is not a number lies on no side of anything. -/
lemma le_of_none (h : x.point? = none ∨ y.point? = none) : x.le y = false := by
  rw [le]
  rcases h with h | h
  · rw [position?_none h]
  · rw [position?_none h]
    cases x.position? <;> rfl

/-- What is not a number is the same as nothing. -/
lemma same_of_none (h : x.point? = none ∨ y.point? = none) : x.same y = false := by
  rw [same]
  rcases h with h | h
  · rw [position?_none h]
  · rw [position?_none h]
    cases x.position? <;> rfl

end Number

/-- A finite number is whole when its exact value is an integer. -/
lemma Double.isWhole_iff (x : Double) : x.isWhole = true ↔ ∃ n : ℤ, x.value? = some (n : ℚ) := by
  have unit : ((twoPow unitBits : ℕ) : ℚ) ≠ 0 := Nat.cast_ne_zero.2 (twoPow_pos _).ne'
  rw [isWhole, value?_eq]
  cases x.units? with
  | none => exact iff_of_false nofun nofun
  | some u =>
    rw [beq_iff_eq, ← Int.dvd_iff_emod_eq_zero]
    constructor
    · rintro ⟨n, rfl⟩
      refine ⟨n, ?_⟩
      rw [Option.map_some, Int.cast_mul, Int.cast_natCast, mul_comm, mul_div_cancel_right₀ _ unit]
    · rintro ⟨n, e⟩
      refine ⟨n, ?_⟩
      rw [Option.map_some, Option.some_inj, div_eq_iff unit] at e
      rw [mul_comm, ← Int.cast_inj (α := ℚ), Int.cast_mul, Int.cast_natCast, e]

namespace Value

/-- What is not a number although it is of the type of one. -/
def IsNaN (v : Value) : Prop :=
  ∃ shared, v = .float (.nan shared)

/-- The point of a value that counts as a number. -/
def point? (v : Value) : Option Line :=
  v.number?.bind Number.point?

/-- A number has the point of what it counts as. -/
lemma point?_eq {v : Value} {x} (e : v.number? = some x) : v.point? = x.point? := by
  rw [point?, e, Option.bind_some]

/-- A number has a point unless it is not-a-number. -/
lemma point?_eq_none_iff {v : Value} (numeric : v.Numeric) : v.point? = none ↔ v.IsNaN := by
  cases numeric with
  | int => exact iff_of_false nofun nofun
  | @float x =>
    cases x with
    | nan shared => exact iff_of_true rfl ⟨shared, rfl⟩
    | infinite negative => cases negative <;> exact iff_of_false nofun nofun
    | finite => exact iff_of_false nofun nofun

end Value

namespace Rule

/-- A result tells whether a condition holds, and is no fault. -/
def Tells (result : Except Fault Bool) (condition : Prop) : Prop :=
  ∃ b, result = .ok b ∧ (b = true ↔ condition)

variable {result : Except Fault Bool} {condition : Prop}

/-- A result that decides a condition tells it. -/
lemma tells_decide [Decidable condition] (e : result = .ok (decide condition)) :
    Tells result condition :=
  ⟨_, e, decide_eq_true_iff⟩

/-- What tells a condition passes exactly when it holds. -/
lemma Tells.holds_iff (tells : Tells result condition) : result = .ok true ↔ condition := by
  obtain ⟨b, rfl, iff⟩ := tells
  rw [← iff, Except.ok.injEq]

/-- What tells a condition fails exactly when it does not hold. -/
lemma Tells.fails_iff (tells : Tells result condition) : result = .ok false ↔ ¬condition := by
  obtain ⟨b, rfl, iff⟩ := tells
  rw [← iff, Except.ok.injEq, Bool.not_eq_true]

/-- A result that tells whether one condition holds tells it of another when the two are equivalent. -/
lemma Tells.congr_iff {other : Prop} (tells : Tells result condition) :
    Tells result other ↔ (condition ↔ other) := by
  obtain ⟨b, rfl, iff⟩ := tells
  constructor
  · rintro ⟨_, ⟨⟩, iff'⟩
    exact iff.symm.trans iff'
  · exact fun same => ⟨b, rfl, iff.trans same⟩

section Numbers

variable {v b : Value} (number : v.Numeric) (bound : b.Numeric)

include number bound

/-- Of two numbers, `min` compares what they count as. -/
lemma min_eq : ∃ x y, v.number? = some x ∧ b.number? = some y ∧ min v b = .ok (y.le x) := by
  cases number <;> cases bound <;> exact ⟨_, _, rfl, rfl, rfl⟩

/-- Of two numbers, `max` compares what they count as. -/
lemma max_eq : ∃ x y, v.number? = some x ∧ b.number? = some y ∧ max v b = .ok (x.le y) := by
  cases number <;> cases bound <;> exact ⟨_, _, rfl, rfl, rfl⟩

/-- Of a number and a list of one number, `enum` compares what they count as. -/
lemma enum_singleton_eq :
    ∃ x y, v.number? = some x ∧ b.number? = some y ∧ enum v (.list [b]) = .ok (y.same x) := by
  cases number <;> cases bound <;>
    exact ⟨_, _, rfl, rfl, congrArg Except.ok (by rw [List.any_cons, List.any_nil, Bool.or_false]; rfl)⟩

end Numbers

section Points

variable {v b : Value} {p q : Line} (number : v.Numeric) (bound : b.Numeric)
  (hv : v.point? = some p) (hb : b.point? = some q)

include number bound hv hb

/-- A number is at least a bound when its point is. -/
lemma tells_min : Tells (min v b) (q ≤ p) := by
  obtain ⟨x, y, ex, ey, e⟩ := min_eq number bound
  rw [Value.point?_eq ex] at hv
  rw [Value.point?_eq ey] at hb
  rw [Number.le_eq hb hv] at e
  exact tells_decide e

/-- The rule `max` tells whether the point of the value is at most that of the bound. -/
lemma tells_max : Tells (max v b) (p ≤ q) := by
  obtain ⟨x, y, ex, ey, e⟩ := max_eq number bound
  rw [Value.point?_eq ex] at hv
  rw [Value.point?_eq ey] at hb
  rw [Number.le_eq hv hb] at e
  exact tells_decide e

/-- A number is the only one that is listed when it is neither below nor above it. -/
lemma tells_enum : Tells (enum v (.list [b])) (q ≤ p ∧ p ≤ q) := by
  obtain ⟨x, y, ex, ey, e⟩ := enum_singleton_eq number bound
  rw [Value.point?_eq ex] at hv
  rw [Value.point?_eq ey] at hb
  rw [Number.same_eq hb hv] at e
  refine ⟨_, e, ?_⟩
  rw [decide_eq_true_iff, le_antisymm_iff]

end Points

/-- No bound holds of not-a-number, and nothing is within a bound that is not a number. -/
lemma fails_of_isNaN {v b : Value} (number : v.Numeric) (bound : b.Numeric) (nan : v.IsNaN ∨ b.IsNaN) :
    min v b = .ok false ∧ max v b = .ok false ∧ enum v (.list [b]) = .ok false := by
  rw [← Value.point?_eq_none_iff number, ← Value.point?_eq_none_iff bound] at nan
  refine ⟨?_, ?_, ?_⟩
  · obtain ⟨x, y, ex, ey, e⟩ := min_eq number bound
    rw [Value.point?_eq ex, Value.point?_eq ey] at nan
    rw [e, Number.le_of_none nan.symm]
  · obtain ⟨x, y, ex, ey, e⟩ := max_eq number bound
    rw [Value.point?_eq ex, Value.point?_eq ey] at nan
    rw [e, Number.le_of_none nan]
  · obtain ⟨x, y, ex, ey, e⟩ := enum_singleton_eq number bound
    rw [Value.point?_eq ex, Value.point?_eq ey] at nan
    rw [e, Number.same_of_none nan.symm]

/-- A number is an integer when its point is one. -/
lemma tells_isInteger {v : Value} (number : v.Numeric) (argument : Value) :
    Tells (isInteger v argument) (∃ n : ℤ, v.point? = some (.point n)) := by
  cases number with
  | @int n => exact ⟨true, rfl, iff_of_true rfl ⟨n, rfl⟩⟩
  | @float x =>
    refine ⟨x.isWhole, rfl, (Double.isWhole_iff x).trans (exists_congr fun n => ?_)⟩
    cases x with
    | nan => exact iff_of_false nofun nofun
    | infinite negative =>
      refine iff_of_false nofun ?_
      cases negative with
      | true => exact fun e => (Line.bot_lt_point n).ne (Option.some.inj e)
      | false => exact fun e => (Line.point_lt_top n).ne (Option.some.inj e).symm
    | finite negative exponent fraction =>
      have e : (Value.float (.finite negative exponent fraction)).point? =
          (Double.finite negative exponent fraction).value?.map Line.point := rfl
      rw [e, Option.map_eq_some_iff]
      constructor
      · exact fun value => ⟨n, value, rfl⟩
      · rintro ⟨q, value, same⟩
        rw [value, Line.point_inj.1 same]

/-- The rules on numbers follow the order of the line exactly, at any magnitude and for either type of number:
`min` and `max` tell on which side of a bound a number lies, `enum` whether it is the bound, and `isInteger`
whether it is an integer. So a number is on one side of a bound at least, and what is above a bound is above
every lower one. Nothing of this holds where one of the two is not a number. -/
theorem bounds_exact {v b : Value} (number : v.Numeric) (bound : b.Numeric) :
    (v.IsNaN ∨ b.IsNaN →
      min v b = .ok false ∧ max v b = .ok false ∧ enum v (.list [b]) = .ok false) ∧
    (¬v.IsNaN → ¬b.IsNaN → ∃ p q, v.point? = some p ∧ b.point? = some q ∧
      Tells (min v b) (q ≤ p) ∧
      Tells (max v b) (p ≤ q) ∧
      Tells (enum v (.list [b])) (q ≤ p ∧ p ≤ q) ∧
      (min v b = .ok true ∨ max v b = .ok true) ∧
      ∀ c r, c.Numeric → c.point? = some r → min v b = .ok true → r ≤ q → min v c = .ok true) ∧
    ∀ argument, Tells (isInteger v argument) (∃ n : ℤ, v.point? = some (.point n)) := by
  refine ⟨fails_of_isNaN number bound, ?_, tells_isInteger number⟩
  intro hv hb
  obtain ⟨p, hp⟩ := Option.ne_none_iff_exists'.1 (mt (Value.point?_eq_none_iff number).1 hv)
  obtain ⟨q, hq⟩ := Option.ne_none_iff_exists'.1 (mt (Value.point?_eq_none_iff bound).1 hb)
  have above := tells_min number bound hp hq
  have below := tells_max number bound hp hq
  refine ⟨p, q, hp, hq, above, below, tells_enum number bound hp hq, ?_, ?_⟩
  · rw [above.holds_iff, below.holds_iff]
    exact le_total q p
  · intro c r lower hr holds le
    rw [above.holds_iff] at holds
    exact (tells_min number lower hp hr).holds_iff.2 (le.trans holds)

/-- The number two to the power of 53. -/
def twoTo53 : Double :=
  .ofSignificand false Double.fractionCount 1075

/-- A binary64 number has the point of the power that it is. -/
lemma point?_twoTo53 : (Value.float twoTo53).point? = some (.point (2 ^ 53)) := by
  have finite : twoTo53 = .finite false 1076 0 := rfl
  have value : twoTo53.value? = some (2 ^ 53) := by
    rw [finite, Double.value?]
    norm_num
  exact congrArg (Option.map Line.point) value

/-- The next integer is above two to the power of 53, which it would be rounded to. -/
theorem bounds_exact_twoTo53 :
    (Value.int (2 ^ 53 + 1)).Numeric ∧ (Value.float twoTo53).Numeric ∧
      min (.int (2 ^ 53 + 1)) (.float twoTo53) = .ok true ∧
      max (.int (2 ^ 53 + 1)) (.float twoTo53) = .ok false ∧
      enum (.int (2 ^ 53 + 1)) (.list [.float twoTo53]) = .ok false ∧
      isInteger (.int (2 ^ 53 + 1)) .null = .ok true := by
  obtain ⟨_, ordered, integer⟩ := @bounds_exact (.int (2 ^ 53 + 1)) (.float twoTo53) .int .float
  obtain ⟨p, q, hp, hq, above, below, same, _⟩ := ordered nofun nofun
  obtain rfl := Option.some.inj (hp : some (Line.point ((2 ^ 53 + 1 : ℤ) : ℚ)) = some p)
  obtain rfl := Option.some.inj (point?_twoTo53.symm.trans hq)
  have beyond : ¬Line.point ((2 ^ 53 + 1 : ℤ) : ℚ) ≤ Line.point (2 ^ 53) := by
    rw [Line.point_le_iff]
    norm_num
  refine ⟨.int, .float, above.holds_iff.2 ?_, below.fails_iff.2 beyond, ?_, ?_⟩
  · rw [Line.point_le_iff]
    norm_num
  · exact same.fails_iff.2 fun both => beyond both.2
  · exact (integer .null).holds_iff.2 ⟨_, hp⟩

end Rule

end RecordSchema
