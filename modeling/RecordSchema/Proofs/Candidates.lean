import RecordSchema.Proofs.Equality

/-!
# Listed values

The rule `enum` asks whether a value is among those that are listed. It takes no boolean for a number and no
number for a boolean, but what stands inside of a list, tuple or mapping is compared as numbers, booleans
included. So a candidate may pass that is not equal to the value (`Confused`), and the answer is right exactly
when this does not matter (`enum_tells_iff`).
-/

namespace RecordSchema

variable {v w : Value}

/-- Equal values are both booleans or both none. -/
lemma Equals.isBool_eq (e : Equals v w) : v.isBool = w.isBool := by
  cases e with
  | number numeric numeric' => cases numeric <;> cases numeric' <;> rfl
  | _ => rfl

/-- A number is counted as it is. -/
lemma Value.Numeric.counted_eq (numeric : v.Numeric) : v.counted = v := by
  cases numeric <;> rfl

/-- What is equal stays so when booleans are counted. -/
lemma Equals.counted (e : Equals v w) : Equals v.counted w.counted := by
  induction v using Value.induction_members generalizing w with
  | step v ih =>
    cases e with
    | null => exact .null
    | bool => exact .number .int .int rfl rfl
    | number numeric numeric' hv hw =>
      rw [numeric.counted_eq, numeric'.counted_eq]
      exact .number numeric numeric' hv hw
    | text => exact .text
    | function => exact .function
    | list all =>
      rw [Value.counted, Value.counted, list_iff, Value.countedItems_eq, Value.countedItems_eq,
        List.forall₂_map_left_iff, List.forall₂_map_right_iff]
      exact forall₂_imp_of_mem (fun x mem _ _ e => ih x mem e) all
    | tuple all =>
      rw [Value.counted, Value.counted, tuple_iff, Value.countedItems_eq, Value.countedItems_eq,
        List.forall₂_map_left_iff, List.forall₂_map_right_iff]
      exact forall₂_imp_of_mem (fun x mem _ _ e => ih x mem e) all
    | record keys values perm =>
      refine Value.equals_counted_record_iff.2 ⟨_, ?_, perm⟩
      refine forall₂_imp_of_mem ?_ (forall₂_and keys values)
      rintro entry mem _ _ ⟨key, value⟩
      exact ⟨ih _ (Value.key_mem_members mem) key, ih _ (Value.value_mem_members mem) value⟩

/-- Where there are no booleans, nothing is counted. -/
lemma Value.counted_of_boolFree (free : v.BoolFree) : v.counted = v := by
  induction v using Value.induction_members with
  | step v ih =>
    have each : ∀ x ∈ v.members, x.counted = x :=
      fun x mem => ih x mem (free.member mem)
    have items_eq : ∀ items : List Value, (∀ x ∈ items, x ∈ v.members) → countedItems items = items := by
      intro items inside
      rw [countedItems_eq, List.map_congr_left fun x mem => each x (inside x mem), List.map_id']
    cases v with
    | bool b => cases free.here
    | list items => rw [counted, items_eq items fun _ mem => mem]
    | tuple items => rw [counted, items_eq items fun _ mem => mem]
    | record readOnly entries =>
      have same : ∀ entry ∈ entries, (entry.1.counted, entry.2.counted) = entry := by
        intro entry mem
        rw [each _ (key_mem_members mem), each _ (value_mem_members mem)]
      rw [counted, countedEntries_eq, List.map_congr_left same, List.map_id']
    | _ => rfl

namespace Rule

/-- A candidate passes for a value that it is not equal to, since booleans inside of them count as numbers. -/
def Confused (candidate v : Value) : Prop :=
  candidate.isBool = v.isBool ∧ Equals candidate.counted v.counted ∧ ¬Equals candidate v

/-- Values are not confused unless there is a boolean inside of one of them. -/
lemma not_confused {candidate : Value} (inside : ∀ x ∈ candidate.members, x.BoolFree)
    (inside' : ∀ x ∈ v.members, x.BoolFree) : ¬Confused candidate v := by
  rintro ⟨kind, equal, unequal⟩
  cases eb : candidate.isBool with
  | false =>
    have free : candidate.BoolFree := Value.throughout_iff.2 ⟨eb, inside⟩
    have free' : v.BoolFree := Value.throughout_iff.2 ⟨kind ▸ eb, inside'⟩
    rw [Value.counted_of_boolFree free, Value.counted_of_boolFree free'] at equal
    exact unequal equal
  | true =>
    rw [eb] at kind
    cases candidate with
    | bool a =>
      cases v with
      | bool b =>
        obtain ⟨_, p, left, right⟩ := equal.point .int
        have same := Line.point_inj.1 (Option.some.inj (left.trans right.symm))
        cases a <;> cases b <;> first | exact unequal .bool | simp at same
      | _ => cases kind
    | _ => cases eb

variable {v : ProperValue} {allowed : Value} {candidates : List ProperValue}

/-- The answer is whether some candidate is equal to the value when booleans inside of them are counted. -/
lemma tells_enum_counted (items : allowed.items? = some (candidates.map (·.1)))
    (free : ∀ c ∈ candidates, c.1.NaNFree) :
    Tells (enum v allowed)
      (∃ c ∈ candidates, c.1.isBool = v.1.isBool ∧ Equals c.1.counted v.1.counted) := by
  have answer : enum v allowed = .ok (candidates.any fun c => isCandidate v c) := by
    rw [enum, items]
    exact congrArg Except.ok List.any_map
  refine ⟨_, answer, ?_⟩
  rw [List.any_eq_true]
  refine exists_congr fun c => and_congr_right fun mem => ?_
  rw [isCandidate, Bool.and_eq_true, beq_iff_eq, Value.same_iff (free c mem) c.2 v.2]

/-- The rule `enum` compares a value with every candidate as if booleans inside of both were the numbers that
they count as. So it tells whether some candidate is equal to the value exactly when one is or none is
confused with it, in particular when there are no booleans inside of the value and the candidates. -/
theorem enum_tells_iff (items : allowed.items? = some (candidates.map (·.1)))
    (free : ∀ c ∈ candidates, c.1.NaNFree) :
    Tells (enum v allowed)
      (∃ c ∈ candidates, c.1.isBool = v.1.isBool ∧ Equals c.1.counted v.1.counted) ∧
    (Tells (enum v allowed) (∃ c ∈ candidates, Equals c v) ↔
      (∃ c ∈ candidates, Equals c v) ∨ ∀ c ∈ candidates, ¬Confused c v) ∧
    ((∀ x ∈ v.1.members, x.BoolFree) → (∀ c ∈ candidates, ∀ x ∈ c.1.members, x.BoolFree) →
      Tells (enum v allowed) (∃ c ∈ candidates, Equals c v)) := by
  have counted := tells_enum_counted (v := v) items free
  have iff : Tells (enum v allowed) (∃ c ∈ candidates, Equals c v) ↔
      (∃ c ∈ candidates, Equals c v) ∨ ∀ c ∈ candidates, ¬Confused c v := by
    rw [counted.congr_iff]
    constructor
    · intro same
      by_cases equal : ∃ c ∈ candidates, Equals c v
      · exact .inl equal
      · right
        rintro c mem ⟨kind, passes, _⟩
        exact equal (same.1 ⟨c, mem, kind, passes⟩)
    · intro right
      constructor
      · rintro ⟨c, mem, kind, passes⟩
        rcases right with equal | clear
        · exact equal
        -- A candidate that passes without any being equal is confused with the value.
        · by_contra none
          exact clear c mem ⟨kind, passes, fun equal => none ⟨c, mem, equal⟩⟩
      · rintro ⟨c, mem, equal⟩
        exact ⟨c, mem, equal.isBool_eq, equal.counted⟩
  refine ⟨counted, iff, ?_⟩
  intro inside inside'
  exact iff.2 (.inr fun c mem => not_confused (inside' c mem) inside)

/-- A mapping that holds a boolean inside. -/
def ticked : Value :=
  .record false [(.text "a", .int 1), (.text "b", .list [.bool true])]

/-- The number one. -/
def one : Double :=
  .ofSignificand false Double.fractionCount 1022

/-- A mapping with the same entries in another order, the number being written as one with a fraction. -/
def tickedAgain : Value :=
  .record true [(.text "b", .list [.bool true]), (.text "a", .float one)]

/-- The two mappings of the example are equal. -/
lemma equals_ticked : Equals tickedAgain ticked := by
  have finite : one = .finite false 1023 0 := rfl
  have value : one.value? = some ((1 : ℤ) : ℚ) := by
    rw [finite, Double.value?]
    norm_num
  have point : (Value.float one).point? = some (.point ((1 : ℤ) : ℚ)) :=
    congrArg (Option.map Line.point) value
  refine Equals.record_iff.2 ⟨[(.text "b", .list [.bool true]), (.text "a", .int 1)], ?_, .swap _ _ _⟩
  exact .cons ⟨.text, .list (.cons .bool .nil)⟩ (.cons ⟨.text, .number .float .int point rfl⟩ .nil)

/-- What holds of a mapping with two texts as keys, a list with a boolean and a number, and of all these, holds
throughout it. -/
lemma throughout_pair {P : Value → Prop} {readOnly : Bool} {entries : Record} {number : Value}
    (perm : entries.Perm [(.text "b", .list [.bool true]), (.text "a", number)]) (leaf : number.members = [])
    (whole : P (.record readOnly entries)) (list : P (.list [.bool true])) (texts : ∀ s, P (.text s))
    (tick : P (.bool true)) (one : P number) : (Value.record readOnly entries).Throughout P := by
  have single : ∀ v : Value, v.members = [] → P v → v.Throughout P := by
    intro v none here
    refine Value.throughout_iff.2 ⟨here, ?_⟩
    rw [none]
    nofun
  refine Value.throughout_iff.2 ⟨whole, ?_⟩
  intro x mem
  have mem := (((perm.map Prod.fst).append (perm.map Prod.snd)).mem_iff).1 mem
  simp only [List.map_cons, List.map_nil, List.cons_append, List.nil_append, List.mem_cons,
    List.not_mem_nil, or_false] at mem
  rcases mem with rfl | rfl | rfl | rfl
  · exact single _ rfl (texts _)
  · exact single _ rfl (texts _)
  · exact Value.throughout_iff.2 ⟨list, List.forall_mem_singleton.2 (single _ rfl tick)⟩
  · exact single _ leaf one

/-- The keys of a mapping of two entries are apart when they are different texts. -/
lemma keysApart_pair {s t : Text} (ne : s ≠ t) (v w : Value) (readOnly : Bool) :
    (Value.record readOnly [(.text s, v), (.text t, w)]).KeysApart := by
  refine List.pairwise_pair.2 ?_
  intro equal
  cases equal with
  | text => exact ne rfl
  | number numeric => cases numeric

/-- The values that are listed, and the one that is asked for. -/
def listed : List ProperValue :=
  [⟨.bool true, Value.throughout_iff.2 ⟨trivial, nofun⟩⟩,
    ⟨tickedAgain, throughout_pair (.refl _) rfl (keysApart_pair (by decide) _ _ _) trivial
      (fun _ => trivial) trivial trivial⟩]

/-- The mapping, with keys that are all different. -/
def wanted : ProperValue :=
  ⟨ticked, throughout_pair (.swap _ _ _) rfl (keysApart_pair (by decide) _ _ _) trivial
    (fun _ => trivial) trivial trivial⟩

/-- A mapping is found among the listed values in whatever order its entries are. -/
theorem enum_tells_iff_ticked :
    (Value.tuple [.bool true, tickedAgain]).items? = some (listed.map (·.1)) ∧
      (∀ c ∈ listed, c.1.NaNFree) ∧ enum wanted (.tuple [.bool true, tickedAgain]) = .ok true := by
  have free : ∀ c ∈ listed, c.1.NaNFree := by
    refine List.forall_mem_cons.2 ⟨Value.throughout_iff.2 ⟨nofun, nofun⟩, List.forall_mem_singleton.2 ?_⟩
    exact throughout_pair (.refl _) rfl nofun nofun nofun nofun nofun
  have items : (Value.tuple [.bool true, tickedAgain]).items? = some (listed.map (·.1)) := rfl
  have equal : ∃ c ∈ listed, Equals c wanted :=
    ⟨_, List.mem_cons_of_mem _ List.mem_cons_self, equals_ticked⟩
  have tells := (enum_tells_iff (v := wanted) items free).2.1.2 (.inl equal)
  exact ⟨items, free, tells.holds_iff.2 equal⟩

/-- A list with a boolean is taken for one with the number that it counts as. -/
theorem not_enum_tells_one :
    ¬Tells (enum (.list [.bool true]) (.list [.list [.int 1]]))
      (∃ c ∈ [Value.list [.int 1]], Equals c (.list [.bool true])) := by
  have taken : [Value.list [.int 1]].any (isCandidate (.list [.bool true])) = true := by
    decide +kernel
  have passes : enum (.list [.bool true]) (.list [.list [.int 1]]) = .ok true :=
    congrArg Except.ok taken
  intro tells
  obtain ⟨c, mem, equal⟩ := tells.holds_iff.1 passes
  rw [List.mem_singleton] at mem
  subst mem
  cases Equals.list_iff.1 equal with
  | cons mixed _ => cases mixed.isBool_eq

end Rule

end RecordSchema
