import RecordSchema.Proofs.Bounds
import RecordSchema.Proofs.Document

/-!
# Equality of values

Two values are equal when numbers are at one point of the line, booleans and texts are one, lists and tuples
hold equal items in their own kind, and mappings hold equal entries in some order (`Equals`). A boolean is no
number here, at any depth. What is compared is not quite that: with booleans in the place of the numbers that they
count as (`Value.counted`) it is (`same_iff`). So the rule `enum`, which looks at the candidate and the value
themselves before it compares them, only confuses booleans with numbers inside of both (`enum_tells_iff`).
-/

namespace RecordSchema

section Lists

variable {α β : Type} {R S : α → β → Prop} {xs : List α} {ys : List β}

/-- What follows for related members of two lists follows pointwise. -/
lemma forall₂_imp_of_mem (each : ∀ x ∈ xs, ∀ y ∈ ys, R x y → S x y) (all : List.Forall₂ R xs ys) :
    List.Forall₂ S xs ys := by
  obtain ⟨length, related⟩ := List.forall₂_iff_zip.1 all
  refine List.forall₂_iff_zip.2 ⟨length, fun mem => ?_⟩
  obtain ⟨left, right⟩ := List.of_mem_zip mem
  exact each _ left _ right (related mem)

/-- Related lists may be told apart by another relation that agrees on what is in them. -/
lemma forall₂_congr_of_mem (each : ∀ x ∈ xs, ∀ y ∈ ys, (R x y ↔ S x y)) :
    List.Forall₂ R xs ys ↔ List.Forall₂ S xs ys :=
  ⟨forall₂_imp_of_mem fun x hx y hy => (each x hx y hy).1,
    forall₂_imp_of_mem fun x hx y hy => (each x hx y hy).2⟩

/-- What keeps members of a list apart keeps those apart that they are related to. -/
lemma pairwise_across {P : α → α → Prop} {Q : β → β → Prop} (apart : xs.Pairwise P)
    (all : List.Forall₂ R xs ys)
    (each : ∀ x x' y y', P x x' → R x y → R x' y' → Q y y') : ys.Pairwise Q := by
  induction all with
  | nil => exact .nil
  | cons rel all ih =>
    obtain ⟨here, later⟩ := List.pairwise_cons.1 apart
    refine .cons ?_ (ih later)
    intro y' mem
    obtain ⟨x', mx, rel'⟩ := exists_left_of_mem all mem
    exact each _ _ _ _ (here x' mx) rel rel'

/-- Every member of a list finds a partner in a list of the same length exactly when they are partners one by
one in some order, where no two members have one partner and no member has two. -/
lemma finds_iff {xs ys : List α} {k : α → α → Bool} {V : α → α → Prop}
    (apart : xs.Pairwise fun x x' => ∀ y ∈ ys, k x y = true → k x' y ≠ true)
    (apart' : ∀ x ∈ xs, ys.Pairwise fun y y' => k x y = true → k x y' ≠ true) :
    (xs.length = ys.length ∧ ∀ x ∈ xs, ∃ y, ys.find? (k x) = some y ∧ V x y) ↔
      ∃ zs, List.Forall₂ (fun x y => k x y = true ∧ V x y) xs zs ∧ zs.Perm ys := by
  constructor
  · rintro ⟨length, found⟩
    obtain ⟨zs, all⟩ := exists_forall₂ found
    have inside : zs ⊆ ys := by
      intro y mem
      obtain ⟨x, _, found, _⟩ := exists_left_of_mem all mem
      exact List.mem_of_find?_eq_some found
    have matched : List.Forall₂ (fun x y => k x y = true ∧ V x y) xs zs :=
      all.imp fun _ _ ⟨found, rel⟩ => ⟨List.find?_some found, rel⟩
    -- No partner is found twice, so with equal lengths all of `ys` has been found.
    have nodup : zs.Nodup := by
      refine pairwise_across (R := fun x y => y ∈ ys ∧ k x y = true) apart ?_ ?_
      · exact forall₂_imp_of_mem (fun _ _ y mem rel => ⟨inside mem, rel.1⟩) matched
      · rintro x x' y _ apart ⟨mem, same⟩ ⟨_, same'⟩ rfl
        exact apart y mem same same'
    refine ⟨zs, matched, (List.subperm_of_subset nodup inside).perm_of_length_le ?_⟩
    rw [← length, matched.length_eq]
  · rintro ⟨zs, matched, perm⟩
    refine ⟨matched.length_eq.trans perm.length_eq, ?_⟩
    intro x mem
    obtain ⟨y, my, same, rel⟩ := exists_right_of_mem matched mem
    have my := perm.subset my
    refine ⟨y, ?_, rel⟩
    obtain ⟨y', found⟩ := Option.isSome_iff_exists.1 (List.find?_isSome.2 ⟨y, my, same⟩)
    have : Std.Symm fun y y' => k x y = true → k x y' ≠ true :=
      ⟨fun _ _ apart same same' => apart same' same⟩
    rw [found, Option.some_inj]
    by_contra ne
    exact (apart' x mem).forall (List.mem_of_find?_eq_some found) my ne (List.find?_some found) same

end Lists

namespace Value

/-- The values of which a value is made: the items of a list or tuple, the keys and values of a mapping. -/
def members : Value → List Value
  | list items => items
  | tuple items => items
  | record _ entries => entries.map Prod.fst ++ entries.map Prod.snd
  | _ => []

section Entries

variable {readOnly : Bool} {entries : Record} {entry : Value × Value} (mem : entry ∈ entries)

include mem

/-- The key of an entry is a member of the mapping. -/
lemma key_mem_members : entry.1 ∈ (record readOnly entries).members :=
  List.mem_append_left _ (List.mem_map_of_mem mem)

/-- The value of an entry is a member of the mapping. -/
lemma value_mem_members : entry.2 ∈ (record readOnly entries).members :=
  List.mem_append_right _ (List.mem_map_of_mem mem)

end Entries

/-- The members of a value are smaller than it. -/
lemma sizeOf_lt_of_mem_members {v w : Value} (mem : w ∈ v.members) : sizeOf w < sizeOf v := by
  cases v with
  | list items =>
    have inside := List.sizeOf_lt_of_mem (show w ∈ items from mem)
    rw [list.sizeOf_spec]
    omega
  | tuple items =>
    have inside := List.sizeOf_lt_of_mem (show w ∈ items from mem)
    rw [tuple.sizeOf_spec]
    omega
  | record readOnly entries =>
    rcases List.mem_append.1 mem with mem | mem <;>
    · obtain ⟨entry, belongs, rfl⟩ := List.mem_map.1 mem
      have inside := List.sizeOf_lt_of_mem belongs
      rw [show sizeOf entry = 1 + sizeOf entry.1 + sizeOf entry.2 from rfl] at inside
      rw [record.sizeOf_spec]
      omega
  | _ => cases mem

/-- What holds of a value as soon as it holds of its members holds of all values. -/
lemma induction_members {P : Value → Prop} (step : ∀ v, (∀ w ∈ v.members, P w) → P v) (v : Value) : P v :=
  step v fun w mem => by
    have smaller := sizeOf_lt_of_mem_members mem
    exact induction_members step w
termination_by sizeOf v

/-- A value is another one or stands somewhere in it. -/
inductive Part (w : Value) : Value → Prop where
  | itself :
    Part w w
  | inside {v x} :
    x ∈ v.members →
    Part w x →
    Part w v

/-- Something holds of all parts of a value. -/
def Throughout (P : Value → Prop) (v : Value) : Prop :=
  ∀ w, Part w v → P w

/-- What holds throughout a value holds of it and throughout its members. -/
lemma throughout_iff {P : Value → Prop} {v : Value} :
    v.Throughout P ↔ P v ∧ ∀ x ∈ v.members, x.Throughout P := by
  constructor
  · exact fun all => ⟨all v .itself, fun x mem w part => all w (.inside mem part)⟩
  · rintro ⟨here, inside⟩ w part
    cases part with
    | itself => exact here
    | inside mem part => exact inside _ mem w part

/-- What holds throughout a value holds of it. -/
lemma Throughout.here {P : Value → Prop} {v : Value} (all : v.Throughout P) : P v :=
  (throughout_iff.1 all).1

/-- What holds throughout a value holds throughout its members. -/
lemma Throughout.member {P : Value → Prop} {v x : Value} (all : v.Throughout P) (mem : x ∈ v.members) :
    x.Throughout P :=
  (throughout_iff.1 all).2 x mem

/-- No part is not-a-number. -/
abbrev NaNFree : Value → Prop :=
  Throughout fun w => ¬w.IsNaN

/-- No part is a boolean. -/
abbrev BoolFree : Value → Prop :=
  Throughout fun w => w.isBool = false

mutual

/-- A value with the numbers that booleans count as in the place of all booleans in it. -/
def counted : Value → Value
  | bool b => int (if b then 1 else 0)
  | list items => list (countedItems items)
  | tuple items => tuple (countedItems items)
  | record readOnly entries => record readOnly (countedEntries entries)
  | v => v

def countedItems : List Value → List Value
  | [] => []
  | v :: rest => v.counted :: countedItems rest

def countedEntries : List (Value × Value) → List (Value × Value)
  | [] => []
  | (key, v) :: rest => (key.counted, v.counted) :: countedEntries rest

end

/-- Counting goes through the items one by one. -/
lemma countedItems_eq (items : List Value) : countedItems items = items.map counted := by
  induction items with
  | nil => rfl
  | cons v rest ih => rw [countedItems, ih, List.map_cons]

/-- Counting goes through keys and values entry by entry. -/
lemma countedEntries_eq (entries : Record) :
    countedEntries entries = entries.map fun entry => (entry.1.counted, entry.2.counted) := by
  induction entries with
  | nil => rfl
  | cons entry rest ih => rw [countedEntries, ih, List.map_cons]

end Value

/-- Equality that never takes a boolean for a number. -/
inductive Equals : Value → Value → Prop where
  | null :
    Equals .null .null
  | bool {b} :
    Equals (.bool b) (.bool b)
  | number {v w p} :
    v.Numeric →
    w.Numeric →
    v.point? = some p →
    w.point? = some p →
    Equals v w
  | text {s} :
    Equals (.text s) (.text s)
  | function {name} :
    Equals (.function name) (.function name)
  | list {xs ys} :
    List.Forall₂ Equals xs ys →
    Equals (.list xs) (.list ys)
  | tuple {xs ys} :
    List.Forall₂ Equals xs ys →
    Equals (.tuple xs) (.tuple ys)
  | record {readOnly readOnly' xs ys zs} :
    List.Forall₂ (fun entry other => Equals entry.1 other.1) xs zs →
    List.Forall₂ (fun entry other => Equals entry.2 other.2) xs zs →
    zs.Perm ys →
    Equals (.record readOnly xs) (.record readOnly' ys)

/-- Entries of mappings are equal when their keys and their values are. -/
def EqualEntries (entry other : Value × Value) : Prop :=
  Equals entry.1 other.1 ∧ Equals entry.2 other.2

namespace Equals

variable {v w x : Value} {xs ys : Record} {readOnly readOnly' : Bool}

/-- Lists are equal when their items are. -/
lemma list_iff {items others : List Value} :
    Equals (.list items) (.list others) ↔ List.Forall₂ Equals items others := by
  constructor
  · intro e
    cases e with
    | list all => exact all
    | number numeric => cases numeric
  · exact .list

/-- Tuples are equal when their items are. -/
lemma tuple_iff {items others : List Value} :
    Equals (.tuple items) (.tuple others) ↔ List.Forall₂ Equals items others := by
  constructor
  · intro e
    cases e with
    | tuple all => exact all
    | number numeric => cases numeric
  · exact .tuple

/-- Mappings are equal when the entries of one are equal to those of the other in some order. -/
lemma record_iff : Equals (.record readOnly xs) (.record readOnly' ys) ↔
    ∃ zs, List.Forall₂ EqualEntries xs zs ∧ zs.Perm ys := by
  constructor
  · intro e
    cases e with
    | record keys values perm => exact ⟨_, forall₂_and keys values, perm⟩
    | number numeric => cases numeric
  · rintro ⟨zs, all, perm⟩
    exact .record (all.imp fun _ _ => And.left) (all.imp fun _ _ => And.right) perm

/-- What is equal to a number is at its point. -/
lemma point (e : Equals v w) (numeric : v.Numeric) :
    w.Numeric ∧ ∃ p, v.point? = some p ∧ w.point? = some p := by
  cases e with
  | number _ numeric' hv hw => exact ⟨numeric', _, hv, hw⟩
  | _ => cases numeric

/-- Equality goes both ways. -/
lemma symm (e : Equals v w) : Equals w v := by
  induction v using Value.induction_members generalizing w with
  | step v ih =>
    cases e with
    | null => exact .null
    | bool => exact .bool
    | number numeric numeric' hv hw => exact .number numeric' numeric hw hv
    | text => exact .text
    | function => exact .function
    | list all => exact .list (forall₂_imp_of_mem (fun x mem _ _ e => ih x mem e) all).flip
    | tuple all => exact .tuple (forall₂_imp_of_mem (fun x mem _ _ e => ih x mem e) all).flip
    | @record readOnly readOnly' xs ys zs keys values perm =>
      have turned : List.Forall₂ EqualEntries zs xs := by
        refine (forall₂_imp_of_mem ?_ (forall₂_and keys values)).flip
        intro entry mem _ _ ⟨key, value⟩
        exact ⟨ih _ (Value.key_mem_members mem) key, ih _ (Value.value_mem_members mem) value⟩
      exact record_iff.2 (List.perm_comp_forall₂ perm.symm turned)

/-- What is equal to the same is equal. -/
lemma trans (first : Equals v w) (second : Equals w x) : Equals v x := by
  induction v using Value.induction_members generalizing w x with
  | step v ih =>
    have chain : ∀ {items others thirds : List Value}, (∀ x ∈ items, x ∈ v.members) →
        List.Forall₂ Equals items others → List.Forall₂ Equals others thirds →
        List.Forall₂ Equals items thirds := by
      intro items others thirds inside all all'
      refine forall₂_imp_of_mem ?_ (forall₂_trans all all')
      rintro x mem z _ ⟨y, e, e'⟩
      exact ih x (inside x mem) e e'
    cases first with
    | null => exact second
    | bool => exact second
    | text => exact second
    | function => exact second
    | number numeric numeric' hv hw =>
      cases second with
      | number _ numeric'' hw' hx => exact .number numeric numeric'' hv (hw.symm.trans hw' ▸ hx)
      | _ => cases numeric'
    | list all =>
      cases second with
      | list all' => exact .list (chain (fun _ mem => mem) all all')
      | number numeric => cases numeric
    | tuple all =>
      cases second with
      | tuple all' => exact .tuple (chain (fun _ mem => mem) all all')
      | number numeric => cases numeric
    | @record readOnly readOnly' xs ys zs keys values perm =>
      cases second with
      | number numeric => cases numeric
      | @record _ _ _ us ws keys' values' perm' =>
        obtain ⟨vs, all', perm''⟩ := List.perm_comp_forall₂ perm (forall₂_and keys' values')
        refine record_iff.2 ⟨vs, ?_, perm''.trans perm'⟩
        refine forall₂_imp_of_mem ?_ (forall₂_trans (forall₂_and keys values) all')
        rintro entry mem _ _ ⟨other, ⟨key, value⟩, key', value'⟩
        exact ⟨ih _ (Value.key_mem_members mem) key key', ih _ (Value.value_mem_members mem) value value'⟩

end Equals

/-- No two keys of a mapping are equal, booleans being counted. -/
def Value.KeysApart : Value → Prop
  | record _ entries => entries.Pairwise fun entry other => ¬Equals entry.1.counted other.1.counted
  | _ => True

/-- The keys of every mapping in a value are apart. -/
abbrev Value.Proper : Value → Prop :=
  Throughout KeysApart

/-- A value as programs hold it, the keys of its mappings being apart. -/
abbrev ProperValue :=
  {v : Value // v.Proper}

/-- The numbers among values, booleans being counted, are what has a point or is not-a-number. -/
lemma Value.numeric_counted_iff {v : Value} : v.counted.Numeric ↔ ∃ x, v.number? = some x := by
  cases v with
  | bool => exact iff_of_true .int ⟨_, rfl⟩
  | int => exact iff_of_true .int ⟨_, rfl⟩
  | float => exact iff_of_true .float ⟨_, rfl⟩
  | _ => exact iff_of_false nofun nofun

/-- Counting booleans keeps the point of a value. -/
lemma Value.point?_counted (v : Value) : v.counted.point? = v.point? := by
  cases v <;> rfl

/-- Numbers are the same when they have one point. -/
lemma Number.same_iff {x y : Number} : x.same y = true ↔ ∃ p, x.point? = some p ∧ y.point? = some p := by
  cases hx : x.point? with
  | none =>
    rw [same_of_none (.inl hx)]
    exact iff_of_false nofun nofun
  | some p =>
    cases hy : y.point? with
    | none =>
      rw [same_of_none (.inr hy)]
      exact iff_of_false nofun nofun
    | some q =>
      rw [same_eq hx hy, decide_eq_true_iff]
      constructor
      · rintro rfl
        exact ⟨p, rfl, rfl⟩
      · rintro ⟨_, ⟨⟩, ⟨⟩⟩
        rfl

namespace Value

variable {v w : Value}

/-- A value that counts as a number is compared by its point. -/
lemma same_number_iff {x} (e : v.number? = some x) :
    v.same w = true ↔ ∃ p, v.point? = some p ∧ w.point? = some p := by
  have compared : v.same w = w.number?.any x.same := by
    cases v <;> cases e <;> cases w <;> rfl
  rw [compared, point?_eq e]
  cases ew : w.number? with
  | none =>
    refine iff_of_false Bool.false_ne_true ?_
    rintro ⟨p, _, hw⟩
    rw [point?, ew] at hw
    cases hw
  | some y =>
    rw [point?_eq ew]
    exact Number.same_iff

/-- A number is equal, booleans being counted, to what has the same point. -/
lemma equals_number_iff {x} (e : v.number? = some x) :
    Equals v.counted w.counted ↔ ∃ p, v.point? = some p ∧ w.point? = some p := by
  have numeric : v.counted.Numeric := numeric_counted_iff.2 ⟨x, e⟩
  rw [← point?_counted v, ← point?_counted w]
  constructor
  · exact fun equal => (equal.point numeric).2
  · rintro ⟨p, hv, hw⟩
    refine .number numeric ?_ hv hw
    rw [numeric_counted_iff, ← Option.ne_none_iff_exists']
    intro none
    rw [point?_counted, point?, none] at hw
    cases hw

/-- What is not not-a-number is not shared as such. -/
lemma bothSharedNaN_of_free (free : v.NaNFree) : bothSharedNaN v w = false := by
  cases v with
  | float x =>
    cases x with
    | nan shared => exact (free.here ⟨shared, rfl⟩).elim
    | _ => rfl
  | _ => rfl

/-- Items are found the same when they are one by one. -/
lemma sameItems_iff {xs ys : List Value} (free : ∀ x ∈ xs, x.NaNFree) :
    sameItems xs ys = true ↔ List.Forall₂ (fun x y => x.same y = true) xs ys := by
  induction xs generalizing ys with
  | nil => cases ys <;> simp [sameItems]
  | cons x rest ih =>
    obtain ⟨here, later⟩ := List.forall_mem_cons.1 free
    cases ys with
    | nil => simp [sameItems]
    | cons y others =>
      rw [sameItems, bothSharedNaN_of_free here, Bool.false_or, Bool.and_eq_true, ih later,
        List.forall₂_cons]

/-- Whether two entries have the same key. -/
def sameKey (entry other : Value × Value) : Bool :=
  entry.1.same other.1

/-- The entries of a mapping are within another when each is found there with the same value. -/
lemma entriesWithin_iff {xs ys : Record} (keys : ∀ entry ∈ xs, entry.1.NaNFree)
    (values : ∀ entry ∈ xs, entry.2.NaNFree) :
    entriesWithin xs ys = true ↔
      ∀ entry ∈ xs, ∃ other, ys.find? (sameKey entry) = some other ∧ entry.2.same other.2 = true := by
  induction xs with
  | nil => simp [entriesWithin]
  | cons entry rest ih =>
    obtain ⟨key, v⟩ := entry
    obtain ⟨freeKey, keys⟩ := List.forall_mem_cons.1 keys
    obtain ⟨freeValue, values⟩ := List.forall_mem_cons.1 values
    have looks : (fun other : Value × Value => bothSharedNaN key other.1 || key.same other.1) =
        sameKey (key, v) := by
      funext other
      rw [bothSharedNaN_of_free freeKey, Bool.false_or, sameKey]
    rw [entriesWithin, looks, Bool.and_eq_true, ih keys values, List.forall_mem_cons]
    cases ys.find? (sameKey (key, v)) with
    | none => simp
    | some other => simp [bothSharedNaN_of_free freeValue]

/-- Items are compared as they are counted when each pair of them is. -/
lemma sameItems_counted_iff {xs ys : List Value} (free : ∀ x ∈ xs, x.NaNFree)
    (each : ∀ x ∈ xs, ∀ y ∈ ys, (x.same y = true ↔ Equals x.counted y.counted)) :
    sameItems xs ys = true ↔ List.Forall₂ Equals (countedItems xs) (countedItems ys) := by
  rw [sameItems_iff free, countedItems_eq, countedItems_eq, List.forall₂_map_left_iff,
    List.forall₂_map_right_iff]
  exact forall₂_congr_of_mem each

/-- Counted mappings are equal when the entries of one, counted, are equal to those of the other in some
order. -/
lemma equals_counted_record_iff {readOnly readOnly' : Bool} {xs ys : Record} :
    Equals (record readOnly xs).counted (record readOnly' ys).counted ↔
      ∃ zs, List.Forall₂ (fun entry other => Equals entry.1.counted other.1.counted ∧
        Equals entry.2.counted other.2.counted) xs zs ∧ zs.Perm ys := by
  rw [counted, counted, countedEntries_eq, countedEntries_eq, Equals.record_iff]
  constructor
  · rintro ⟨images, all, perm⟩
    obtain ⟨zs, of, perm⟩ := List.perm_comp_forall₂ perm
      (List.forall₂_map_left_iff.2 (List.forall₂_refl ys) : List.Forall₂ (fun image entry =>
        image = (entry.1.counted, entry.2.counted)) (ys.map _) ys)
    refine ⟨zs, ?_, perm⟩
    refine (forall₂_trans (List.forall₂_map_left_iff.1 all) of).imp ?_
    rintro entry other ⟨_, equal, rfl⟩
    exact equal
  · rintro ⟨zs, all, perm⟩
    exact ⟨_, List.forall₂_map_left_iff.2 (List.forall₂_map_right_iff.2 all), perm.map _⟩

/-- Mappings are compared as they are counted when all keys and values of one are compared to those of the other
so. -/
lemma same_record_iff {readOnly readOnly' : Bool} {xs ys : Record}
    (free : (record readOnly xs).NaNFree)
    (proper : (record readOnly xs).Proper) (proper' : (record readOnly' ys).Proper)
    (each : ∀ x ∈ (record readOnly xs).members, ∀ y ∈ (record readOnly' ys).members,
      (x.same y = true ↔ Equals x.counted y.counted)) :
    (record readOnly xs).same (record readOnly' ys) = true ↔
      Equals (record readOnly xs).counted (record readOnly' ys).counted := by
  have keys : ∀ entry ∈ xs, ∀ other ∈ ys,
      (sameKey entry other = true ↔ Equals entry.1.counted other.1.counted) :=
    fun _ mx _ my => each _ (key_mem_members mx) _ (key_mem_members my)
  have values : ∀ entry ∈ xs, ∀ other ∈ ys,
      (entry.2.same other.2 = true ↔ Equals entry.2.counted other.2.counted) :=
    fun _ mx _ my => each _ (value_mem_members mx) _ (value_mem_members my)
  -- Two entries that have one partner would have equal keys.
  have apart : xs.Pairwise fun x x' => ∀ y ∈ ys, sameKey x y = true → sameKey x' y ≠ true := by
    refine proper.here.imp_of_mem ?_
    intro x x' mx mx' apart y my same same'
    exact apart (((keys x mx y my).1 same).trans ((keys x' mx' y my).1 same').symm)
  have apart' : ∀ x ∈ xs, ys.Pairwise fun y y' => sameKey x y = true → sameKey x y' ≠ true := by
    intro x mx
    refine proper'.here.imp_of_mem ?_
    intro y y' my my' apart same same'
    exact apart (((keys x mx y my).1 same).symm.trans ((keys x mx y' my').1 same'))
  rw [same, Bool.and_eq_true, beq_iff_eq,
    entriesWithin_iff (fun _ mem => free.member (key_mem_members mem))
      (fun _ mem => free.member (value_mem_members mem)),
    finds_iff apart apart', equals_counted_record_iff]
  refine exists_congr fun zs => and_congr_left fun perm => forall₂_congr_of_mem ?_
  intro entry mx other mz
  have my := perm.subset mz
  rw [keys entry mx other my, values entry mx other my]

/-- Values are compared as they are when booleans in them are counted, if nothing in the first one is
not-a-number. -/
lemma same_iff (free : v.NaNFree) (proper : v.Proper) (proper' : w.Proper) :
    v.same w = true ↔ Equals v.counted w.counted := by
  induction v using induction_members generalizing w with
  | step v ih =>
    -- Members are compared like this, and lists and mappings by their members.
    have each : ∀ x ∈ v.members, ∀ y ∈ w.members, (x.same y = true ↔ Equals x.counted y.counted) :=
      fun x mx y my => ih x mx (free.member mx) (proper.member mx) (proper'.member my)
    cases v with
    | null =>
      cases w with
      | null => exact iff_of_true rfl .null
      | _ => exact iff_of_false nofun nofun
    | bool => exact (same_number_iff rfl).trans (equals_number_iff rfl).symm
    | int => exact (same_number_iff rfl).trans (equals_number_iff rfl).symm
    | float => exact (same_number_iff rfl).trans (equals_number_iff rfl).symm
    | text s =>
      cases w with
      | text t =>
        refine beq_iff_eq.trans ⟨?_, ?_⟩
        · rintro rfl
          exact .text
        · intro e
          cases e with
          | text => rfl
          | number numeric => cases numeric
      | _ => exact iff_of_false nofun nofun
    | function f =>
      cases w with
      | function g =>
        refine beq_iff_eq.trans ⟨?_, ?_⟩
        · rintro rfl
          exact .function
        · intro e
          cases e with
          | function => rfl
          | number numeric => cases numeric
      | _ => exact iff_of_false nofun nofun
    | list xs =>
      cases w with
      | list ys => exact (sameItems_counted_iff (fun x mem => free.member mem) each).trans Equals.list_iff.symm
      | _ => exact iff_of_false nofun nofun
    | tuple xs =>
      cases w with
      | tuple ys => exact (sameItems_counted_iff (fun x mem => free.member mem) each).trans Equals.tuple_iff.symm
      | _ => exact iff_of_false nofun nofun
    | record readOnly xs =>
      cases w with
      | record readOnly' ys => exact same_record_iff free proper proper' each
      | _ => exact iff_of_false nofun nofun

end Value

end RecordSchema
