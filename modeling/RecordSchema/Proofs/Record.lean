import Mathlib
import RecordSchema.Value.Record

/-!
# Names in records

What `Record.set` keeps: the keys and their order (`keys_set`), every entry under another key
(`outside_set`), and a bound on the depth of the values (`entriesDepth_set_le`). Putting back the
value that is already there changes nothing (`set_get?`), and the order in which two names are set does
not matter (`set_comm`). Where keys are distinct, records are known by what is under each name, whatever
the order of entries (`get?_of_mem`, `get?_perm`, `forall₂_of_keys`).
-/

namespace RecordSchema

/-- A key is a text when it is that text. -/
lemma Value.isText_iff {key : Value} {name} : key.isText name = true ↔ key = .text name := by
  cases key <;> simp [isText]

namespace Record

/-- A record contains the names that it has values for. -/
lemma contains_iff {r name} : Record.contains r name = true ↔ ∃ v, Record.get? r name = some v := by
  rw [Record.contains, Option.isSome_iff_exists]

/-- What is found under a name stands there. -/
lemma mem_of_get? {r : Record} {name v} (e : Record.get? r name = some v) :
    (Value.text name, v) ∈ r := by
  obtain ⟨⟨key, w⟩, found, rfl⟩ := Option.map_eq_some_iff.1 e
  have named : key.isText name = true := by
    simpa using List.find?_some found
  rw [← Value.isText_iff.1 named]
  exact List.mem_of_find?_eq_some found

/-- An entry under another key does not matter for a name. -/
lemma get?_cons_of_not {r : Record} {entry : Value × Value} {name}
    (other : ¬entry.1.isText name) : Record.get? (entry :: r) name = Record.get? r name := by
  simp [Record.get?, other]

/-- Where keys are distinct, so are the texts among them. -/
lemma distinct_of_nodup {r : Record} (nodup : (Record.keys r).Nodup) : Distinct r := by
  apply nodup.imp
  intro key other ne name same same'
  exact ne (same.trans same'.symm)

/-- Where all keys are texts, no two of a mapping are the same. -/
lemma nodup_of_distinct {r : Record} (distinct : Distinct r)
    (texts : ∀ entry ∈ r, ∃ name, entry.1 = Value.text name) : (Record.keys r).Nodup := by
  have texts : ∀ key ∈ Record.keys r, ∃ name, key = Value.text name := by
    exact List.forall_mem_map.2 texts
  refine List.Pairwise.imp_of_mem ?_ distinct
  rintro key _ mem - apart rfl
  obtain ⟨name, e⟩ := texts key mem
  exact apart name e e

/-- Where keys are distinct, an entry is what is found under its key. -/
lemma get?_of_mem {r : Record} {name v} (distinct : Distinct r)
    (mem : (Value.text name, v) ∈ r) : Record.get? r name = some v := by
  induction r with
  | nil => cases mem
  | cons entry rest ih =>
    obtain ⟨out, distinct⟩ := List.pairwise_cons.1 distinct
    rcases List.mem_cons.1 mem with rfl | mem
    · simp [Record.get?, Value.isText]
    · have other : ¬entry.1.isText name :=
        fun same => out _ (List.mem_map_of_mem mem) name (Value.isText_iff.1 same) rfl
      rw [get?_cons_of_not other]
      exact ih distinct mem

/-- Where keys are distinct, the order of entries does not matter to what is found. -/
lemma get?_perm {r r' : Record} (distinct : Distinct r) (perm : r.Perm r') (name : Text) :
    Record.get? r' name = Record.get? r name := by
  have distinct' : Distinct r' := by
    apply ((perm.map Prod.fst).pairwise_iff ?_).1 distinct
    intro key other ne name same same'
    exact ne name same' same
  apply Option.ext
  intro v
  constructor
  · exact fun e => get?_of_mem distinct (perm.mem_iff.2 (mem_of_get? e))
  · exact fun e => get?_of_mem distinct' (perm.mem_iff.1 (mem_of_get? e))

/-- Records with the same distinct texts as keys are related entry by entry when what they have under
each name is. -/
lemma forall₂_of_keys {R : Value × Value → Value × Value → Prop} {old new : Record}
    (texts : ∀ entry ∈ old, ∃ name, entry.1 = Value.text name)
    (same : Record.keys new = Record.keys old) (distinct : (Record.keys old).Nodup)
    (rel : ∀ name v w, Record.get? old name = some v → Record.get? new name = some w →
      R (.text name, v) (.text name, w)) : List.Forall₂ R old new := by
  -- The records are taken apart together, since their keys are the same list.
  induction old generalizing new with
  | nil =>
    cases List.map_eq_nil_iff.1 same
    exact .nil
  | cons entry rest ih =>
    obtain ⟨⟨key, w⟩, others, rfl, ek, tail⟩ := List.map_eq_cons_iff.1 same
    obtain ⟨name, et⟩ := texts entry List.mem_cons_self
    obtain ⟨key', v⟩ := entry
    cases et
    cases ek
    obtain ⟨out, distinct⟩ := List.nodup_cons.1 distinct
    refine .cons (rel name v w (by simp [Record.get?, Value.isText])
      (by simp [Record.get?, Value.isText])) (ih ?_ tail distinct ?_)
    · intro other mem
      exact texts other (List.mem_cons_of_mem _ mem)
    · intro other v' w' ev ew
      have ne : ¬(Value.text name).isText other := by
        intro named
        obtain rfl : name = other := by simpa [Value.isText] using named
        exact out (List.mem_map.2 ⟨_, mem_of_get? ev, rfl⟩)
      apply rel
      · rwa [get?_cons_of_not ne]
      · rwa [get?_cons_of_not ne]

/-- Setting a name that is there keeps the keys and their order. -/
lemma keys_set {r : Record} {name v} (w : Value) (e : Record.get? r name = some v) :
    Record.keys (Record.set r name w) = Record.keys r :=
  keys_set_of_contains (contains_iff.2 ⟨v, e⟩) w

/-- Putting back the value that is already there changes nothing. -/
lemma set_get? {r : Record} {name v} (e : Record.get? r name = some v) :
    Record.set r name v = r := by
  induction r with
  | nil => cases e
  | cons entry rest ih =>
    by_cases h : entry.1.isText name
    · have ev : entry.2 = v := by simpa [Record.get?, h] using e
      simp [Record.set, h, ← ev]
    · have er : Record.get? rest name = some v := by simpa [Record.get?, h] using e
      simp [Record.set, h, ih er]

/-- Two names that are there may be set in either order. -/
lemma set_comm {r : Record} {a b : Text} {v w} (ne : a ≠ b) (ea : Record.get? r a = some v)
    (eb : Record.get? r b = some w) (x y : Value) :
    Record.set (Record.set r a x) b y = Record.set (Record.set r b y) a x := by
  induction r with
  | nil => cases ea
  | cons entry rest ih =>
    by_cases ha : entry.1.isText a
    · have hb : ¬entry.1.isText b := fun hb => ne (isText_unique hb ha)
      simp [Record.set, ha, hb]
    · rw [get?_cons_of_not ha] at ea
      by_cases hb : entry.1.isText b
      · simp [Record.set, ha, hb]
      · rw [get?_cons_of_not hb] at eb
        simp [Record.set, ha, hb, ih ea eb]

/-- The entries whose keys are none of some names. -/
def outside (names : List Text) (r : Record) : Record :=
  r.filter fun entry => !names.any entry.1.isText

/-- Setting one of some names keeps the entries outside of them. -/
lemma outside_set {r : Record} {names : List Text} {name v} (w : Value) (mem : name ∈ names)
    (e : Record.get? r name = some v) :
    outside names (Record.set r name w) = outside names r := by
  induction r with
  | nil => cases e
  | cons entry rest ih =>
    by_cases h : entry.1.isText name
    · have inside : names.any entry.1.isText = true := List.any_eq_true.2 ⟨name, mem, h⟩
      simp [Record.set, h, outside, inside]
    · have er : Record.get? rest name = some v := by simpa [Record.get?, h] using e
      have ih := ih er
      simp only [outside] at ih
      simp [Record.set, h, outside, List.filter_cons, ih]

end Record

namespace Value

/-- The value under a name is no deeper than the entries. -/
lemma depth_le_of_get? {r : Record} {name v} (e : Record.get? r name = some v) :
    v.depth ≤ entriesDepth r := by
  induction r with
  | nil => cases e
  | cons entry rest ih =>
    rw [entriesDepth]
    by_cases h : entry.1.isText name
    · have ev : entry.2 = v := by simpa [Record.get?, h] using e
      rw [ev]
      omega
    · have er : Record.get? rest name = some v := by simpa [Record.get?, h] using e
      have := ih er
      omega

/-- Setting a name deepens the entries to no more than the new value. -/
lemma entriesDepth_set_le (r : Record) (name : Text) (w : Value) :
    entriesDepth (Record.set r name w) ≤ max (entriesDepth r) w.depth := by
  induction r with
  | nil => simp [Record.set, entriesDepth]
  | cons entry rest ih =>
    rw [Record.set]
    split
    · simp only [entriesDepth]
      omega
    · simp only [entriesDepth]
      omega

end Value

end RecordSchema
