import Mathlib.Data.List.Induction
import RecordSchema.Slots

/-!
# Registries as ordered maps

A registry is made by registering functions one after another. What it shows of them (`Registry.Shows`) are
their names, each of them once and in the order in which they came first, and for each name the function that
came last. Every registry shows the functions that it was made from (`Registry.shows_ofList`), and a copy is
made from those of the original, so it shows the same (`Registry.copy_eq`).
-/

namespace RecordSchema

variable {α : Type}

/-- The names of functions that were registered one after another. -/
abbrev namesIn (log : List (Text × α)) : List Text :=
  log.map (·.1)

/-- The names of a log are put down in order. -/
lemma namesIn_append {log : List (Text × α)} {last} :
    namesIn (log ++ [last]) = namesIn log ++ [last.1] :=
  List.map_append

/-- The function that was registered last under a name. -/
def latest? (log : List (Text × α)) (name : Text) : Option α :=
  log.reverse.lookup name

/-- The latest function of a name is the last one that was put down for it. -/
lemma latest?_append {log : List (Text × α)} {name f other} :
    latest? (log ++ [(name, f)]) other = if other = name then some f else latest? log other := by
  rw [latest?, List.reverse_append, List.reverse_singleton, List.singleton_append, List.lookup_cons]
  by_cases same : other = name
  · rw [beq_iff_eq.2 same, if_pos same]
  · rw [beq_eq_false_iff_ne.2 same, if_neg same, latest?]

/-- A new name is put at the end. -/
lemma putEntry_of_notMem {name : Text} {f : α} {entries} (new : name ∉ namesIn entries) :
    putEntry name f entries = entries ++ [(name, f)] := by
  induction entries with
  | nil => rfl
  | cons entry rest ih =>
    obtain ⟨other, rest_new⟩ := not_or.1 (mt List.mem_cons.2 new)
    rw [putEntry, if_neg (Ne.symm other), ih rest_new, List.cons_append]

namespace Registry

variable {r : Registry α} {log : List (Text × α)} {name : Text} {f : α}

/-- What a registry shows of functions that were registered one after another. -/
structure Shows (r : Registry α) (log : List (Text × α)) : Prop where
  /-- No name is there twice. -/
  nodup : r.names.Nodup
  /-- The names are those that functions were registered under. -/
  mem_names : ∀ name, name ∈ r.names ↔ name ∈ namesIn log
  /-- They are in the order in which they came first. -/
  ordered : r.names.Pairwise fun a b => (namesIn log).idxOf a < (namesIn log).idxOf b
  /-- Asking for a name gives whether it is one of the names. -/
  contains : ∀ name, r.contains name = true ↔ name ∈ r.names
  /-- Asking for any value gives the same, where only texts are names. -/
  containsValue : ∀ v, r.containsValue v = .ok true ↔ ∃ name ∈ r.names, v = .text name
  /-- Asking for a text always gives an answer. -/
  containsValue_text : ∀ name, r.containsValue (.text name) = .ok (r.contains name)
  /-- Each name has the function that came last. -/
  get? : ∀ name, r.get? name = latest? log name

/-- A function that is registered last is put into the registry of those before. -/
lemma ofList_append : ofList (log ++ [(name, f)]) = (ofList log).put name f := by
  rw [ofList, ofList, List.foldl_append, List.foldl_cons, List.foldl_nil]

/-- The names of a registry are those that functions were registered under. -/
lemma mem_names_ofList : name ∈ (ofList log).names ↔ name ∈ namesIn log := by
  induction log using List.reverseRecOn with
  | nil => rfl
  | append_singleton log last ih =>
    rw [ofList_append, names_put, namesIn_append, List.mem_append, ← ih]
    split
    case isTrue known =>
      constructor
      · exact .inl
      · rintro (mem | mem)
        · exact mem
        · rwa [List.mem_singleton.1 mem]
    case isFalse new => rw [List.mem_append]

/-- The names are in the order in which they came first. -/
lemma names_ofList_ordered :
    (ofList log).names.Pairwise fun a b => (namesIn log).idxOf a < (namesIn log).idxOf b := by
  induction log using List.reverseRecOn with
  | nil => exact .nil
  | append_singleton log last ih =>
    -- What came before comes first where it did.
    have kept : ∀ a ∈ (ofList log).names,
        (namesIn (log ++ [last])).idxOf a = (namesIn log).idxOf a := by
      intro a mem
      rw [namesIn_append, List.idxOf_append, if_pos (mem_names_ofList.1 mem)]
    have before : (ofList log).names.Pairwise fun a b =>
        (namesIn (log ++ [last])).idxOf a < (namesIn (log ++ [last])).idxOf b := by
      refine ih.imp_of_mem ?_
      intro a b ha hb lt
      rwa [kept a ha, kept b hb]
    rw [ofList_append, names_put]
    split
    case isTrue known => exact before
    case isFalse new =>
      refine List.pairwise_append.2 ⟨before, List.pairwise_singleton _ _, ?_⟩
      intro a ha b hb
      obtain rfl := List.mem_singleton.1 hb
      have after : (namesIn log).length ≤ (namesIn (log ++ [last])).idxOf last.1 := by
        rw [namesIn_append, List.idxOf_append, if_neg (mt mem_names_ofList.2 new)]
        exact Nat.le_add_left _ _
      rw [kept a ha]
      exact Nat.lt_of_lt_of_le (List.idxOf_lt_length_iff.2 (mem_names_ofList.1 ha)) after

/-- A name has the function that was registered last. -/
lemma get?_ofList : (ofList log).get? name = latest? log name := by
  induction log using List.reverseRecOn with
  | nil => rfl
  | append_singleton log last ih =>
    rw [ofList_append, latest?_append]
    split
    case isTrue same =>
      subst same
      exact get?_put_self ..
    case isFalse other => rw [get?_put_of_ne _ other, ih]

/-- A registry contains its names. -/
lemma contains_iff : r.contains name = true ↔ name ∈ r.names := by
  rw [contains, Registry.get?, List.lookup_isSome_iff]
  simp [names]

/-- A text can always be asked for. -/
lemma containsValue_text : r.containsValue (.text name) = .ok (r.contains name) := rfl

/-- Only texts are names. -/
lemma containsValue_iff {v : Value} :
    r.containsValue v = .ok true ↔ ∃ name ∈ r.names, v = .text name := by
  unfold Registry.containsValue
  split
  case h_1 typeName e =>
    constructor
    · exact nofun
    · rintro ⟨name, -, rfl⟩
      cases e
  case h_2 s _ =>
    rw [Except.ok.injEq, contains_iff]
    constructor
    · exact fun mem => ⟨s, mem, rfl⟩
    · rintro ⟨name, mem, e⟩
      cases e
      exact mem
  case h_3 other _ =>
    constructor
    · exact nofun
    · rintro ⟨name, -, rfl⟩
      exact (other name rfl).elim

/-- A registry shows the functions that it is made from. -/
theorem shows_ofList : (ofList log).Shows log where
  nodup := (ofList log).distinct
  mem_names _ := mem_names_ofList
  ordered := names_ofList_ordered
  contains _ := contains_iff
  containsValue _ := containsValue_iff
  containsValue_text _ := containsValue_text
  get? _ := get?_ofList

example : (ofList [("a", 1), ("b", 2), ("a", 3)]).entries =
    ([("a", 3), ("b", 2)] : List (Text × Nat)) := by decide

/-- Functions under different names are kept as they come. -/
lemma entries_ofList (distinct : (namesIn log).Nodup) : (ofList log).entries = log := by
  induction log using List.reverseRecOn with
  | nil => rfl
  | append_singleton log last ih =>
    rw [namesIn_append] at distinct
    obtain ⟨rest, -, new⟩ := List.nodup_append.1 distinct
    have entries := ih rest
    rw [ofList_append, put]
    dsimp only
    rw [entries, putEntry_of_notMem]
    exact fun mem => new _ mem _ (List.mem_singleton_self _) rfl

/-- A copy is equal to the original. -/
theorem copy_eq (r : Registry α) : r.copy = r := by
  have same : r.copy.entries = r.entries := entries_ofList r.distinct
  obtain ⟨entries, distinct⟩ := r
  generalize Registry.copy _ = copied at same
  obtain ⟨copied, _⟩ := copied
  subst same
  rfl

end Registry

end RecordSchema
