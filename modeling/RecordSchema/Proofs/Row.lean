import RecordSchema.Proofs.Walk

/-!
# Rows of properties

What a row of properties does to a record, whatever lies below. It keeps the keys in order
(`row_keys`), every name that none of the properties has (`row_get?`) and the entries outside of
their names (`row_outside`). When the names are distinct the order of the properties does not
matter: each of them settles the value that the record has at the start (`row_settles`), the row gives
a record as soon as each of them does (`row_exists`), and it gives the same one in any other order
(`row_perm`). Properties that settle every value as
it is leave the record as it is (`row_fixed`).
-/

namespace RecordSchema.Assertion

variable {F : Functions} {T : Table} {next : Descent}

/-- What a property makes of the value under its name, if there is one: an optional property leaves
nothing as it is. -/
inductive Settles (F : Functions) (T : Table) (next : Descent) (p : Property) :
    Option Value → Option Value → Prop where
  | absent :
    p.optional = true →
    Settles F T next p none none
  | present {v x} :
    settle F T next p v = .ok x →
    Settles F T next p (some v) (some x)

/-- A property settles what is under its name. -/
lemma step_settles {record p last} (e : step (tableServices T) F next record p = .ok last) :
    Settles F T next p (Record.get? record p.name) (Record.get? last p.name) := by
  obtain ⟨en, eo, rfl⟩ | ⟨v, x, ev, es, rfl⟩ := step_ok_iff.1 e
  · rw [en]
    exact .absent eo
  · rw [ev, Record.get?_set_self]
    exact .present es

/-- A property makes something of a record when it settles what is under its name. -/
lemma step_exists {record p new} (s : Settles F T next p (Record.get? record p.name) new) :
    ∃ mid, step (tableServices T) F next record p = .ok mid := by
  cases ev : Record.get? record p.name with
  | none =>
    rw [ev] at s
    cases s with
    | absent eo => exact ⟨record, step_ok_iff.2 (.inl ⟨ev, eo, rfl⟩)⟩
  | some v =>
    rw [ev] at s
    cases s with
    | present es => exact ⟨_, step_ok_iff.2 (.inr ⟨_, _, ev, es, rfl⟩)⟩

/-- A step changes nothing under other names. -/
lemma step_get? {record p last name} (e : step (tableServices T) F next record p = .ok last)
    (ne : name ≠ p.name) : Record.get? last name = Record.get? record name := by
  obtain ⟨_, _, rfl⟩ | ⟨v, x, _, _, rfl⟩ := step_ok_iff.1 e
  · rfl
  · exact Record.get?_set_of_ne record ne x

/-- A step keeps the keys and their order. -/
lemma step_keys {record p last} (e : step (tableServices T) F next record p = .ok last) :
    Record.keys last = Record.keys record := by
  obtain ⟨_, _, rfl⟩ | ⟨v, x, ev, _, rfl⟩ := step_ok_iff.1 e
  · rfl
  · exact Record.keys_set x ev

/-- A row of properties keeps what is under the names that none of them has. -/
lemma row_get? {properties record last name}
    (e : List.foldlM (step (tableServices T) F next) record properties = .ok last)
    (out : name ∉ properties.map Property.name) :
    Record.get? last name = Record.get? record name := by
  apply foldlM_invariant (fun r => Record.get? r name = Record.get? record name) e rfl
  intro p mem mid last same es
  rw [step_get? es ?_, same]
  rintro rfl
  exact out (List.mem_map_of_mem mem)

/-- A row keeps the keys and their order. -/
lemma row_keys {properties record last}
    (e : List.foldlM (step (tableServices T) F next) record properties = .ok last) :
    Record.keys last = Record.keys record := by
  apply foldlM_invariant (fun r => Record.keys r = Record.keys record) e rfl
  intro p _ mid last same es
  rw [step_keys es, same]

/-- A row of properties keeps the entries outside of their names. -/
lemma row_outside {properties record last names}
    (e : List.foldlM (step (tableServices T) F next) record properties = .ok last)
    (inside : ∀ p ∈ properties, p.name ∈ names) :
    Record.outside names last = Record.outside names record := by
  apply foldlM_invariant (fun r => Record.outside names r = Record.outside names record) e rfl
  intro p mem mid last same es
  obtain ⟨_, _, rfl⟩ | ⟨v, x, ev, _, rfl⟩ := step_ok_iff.1 es
  · exact same
  · rw [Record.outside_set x (inside p mem) ev, same]

/-- Each property of a row with distinct names settles what is under its name at the start, and the
result has what it makes of it. -/
lemma row_settles {properties record last}
    (e : List.foldlM (step (tableServices T) F next) record properties = .ok last)
    (distinct : (properties.map Property.name).Nodup) :
    ∀ p ∈ properties,
      Settles F T next p (Record.get? record p.name) (Record.get? last p.name) := by
  induction properties generalizing record with
  | nil => nofun
  | cons q rest ih =>
    rw [List.foldlM_cons, bind_ok_iff] at e
    obtain ⟨mid, es, e⟩ := e
    rw [List.map_cons, List.nodup_cons] at distinct
    obtain ⟨out, distinct⟩ := distinct
    intro p mem
    rcases List.mem_cons.1 mem with rfl | mem
    · -- The properties after it have other names and leave its value alone.
      rw [row_get? e out]
      exact step_settles es
    · have ne : p.name ≠ q.name := fun same => out (same ▸ List.mem_map_of_mem mem)
      rw [← step_get? es ne]
      exact ih e distinct p mem

/-- A row of properties with distinct names gives a record as soon as each of them settles what is
under its name at the start. -/
lemma row_exists {properties record} (distinct : (properties.map Property.name).Nodup)
    (each : ∀ p ∈ properties, ∃ new, Settles F T next p (Record.get? record p.name) new) :
    ∃ last, List.foldlM (step (tableServices T) F next) record properties = .ok last := by
  induction properties generalizing record with
  | nil => exact ⟨record, rfl⟩
  | cons q rest ih =>
    rw [List.map_cons, List.nodup_cons] at distinct
    obtain ⟨out, distinct⟩ := distinct
    obtain ⟨new, s⟩ := each q List.mem_cons_self
    obtain ⟨mid, es⟩ := step_exists s
    have later : ∀ p ∈ rest, ∃ new, Settles F T next p (Record.get? mid p.name) new := by
      intro p mem
      have ne : p.name ≠ q.name := fun same => out (same ▸ List.mem_map_of_mem mem)
      rw [step_get? es ne]
      exact each p (List.mem_cons_of_mem _ mem)
    obtain ⟨last, e⟩ := ih distinct later
    refine ⟨last, ?_⟩
    rw [List.foldlM_cons, es]
    exact e

/-- Properties with different names may be processed in either order. -/
lemma step_comm {record mid last p q} (ne : p.name ≠ q.name)
    (ep : step (tableServices T) F next record p = .ok mid)
    (eq : step (tableServices T) F next mid q = .ok last) :
    ∃ mid', step (tableServices T) F next record q = .ok mid' ∧
      step (tableServices T) F next mid' p = .ok last := by
  have eg : Record.get? mid q.name = Record.get? record q.name := step_get? ep ne.symm
  obtain ⟨en, eo, rfl⟩ | ⟨w, y, ew, et, rfl⟩ := step_ok_iff.1 eq
  · exact ⟨record, step_ok_iff.2 (.inl ⟨eg.symm.trans en, eo, rfl⟩), ep⟩
  · have found : Record.get? record q.name = some w := eg.symm.trans ew
    refine ⟨Record.set record q.name y, step_ok_iff.2 (.inr ⟨w, y, found, et, rfl⟩), ?_⟩
    have kept : Record.get? (Record.set record q.name y) p.name = Record.get? record p.name :=
      Record.get?_set_of_ne record ne y
    obtain ⟨en, eo, rfl⟩ | ⟨v, x, ev, es, rfl⟩ := step_ok_iff.1 ep
    · exact step_ok_iff.2 (.inl ⟨kept.trans en, eo, rfl⟩)
    · exact step_ok_iff.2 (.inr ⟨v, x, kept.trans ev, es, Record.set_comm ne ev found x y⟩)

/-- A row of properties with distinct names makes the same record in any order. -/
lemma row_perm {properties properties' : Schema} {record last} (perm : properties.Perm properties')
    (distinct : (properties.map Property.name).Nodup)
    (e : List.foldlM (step (tableServices T) F next) record properties = .ok last) :
    List.foldlM (step (tableServices T) F next) record properties' = .ok last := by
  induction perm generalizing record with
  | nil => exact e
  | cons p _ ih =>
    rw [List.map_cons, List.nodup_cons] at distinct
    rw [List.foldlM_cons, bind_ok_iff] at e ⊢
    obtain ⟨mid, ep, e⟩ := e
    exact ⟨mid, ep, ih distinct.2 e⟩
  | swap q p rest =>
    obtain ⟨out, _⟩ := List.nodup_cons.1 distinct
    have ne : p.name ≠ q.name := fun same => out (same ▸ List.mem_cons_self)
    rw [List.foldlM_cons, bind_ok_iff] at e
    obtain ⟨mid, ep, e⟩ := e
    rw [List.foldlM_cons, bind_ok_iff] at e
    obtain ⟨later, eq, e⟩ := e
    obtain ⟨mid', eq', ep'⟩ := step_comm ne ep eq
    rw [List.foldlM_cons, eq']
    refine bind_ok_iff.2 ⟨mid', rfl, ?_⟩
    rw [List.foldlM_cons, ep']
    exact e
  | trans first _ ih ih' =>
    exact ih' ((first.map Property.name).nodup_iff.1 distinct) (ih distinct e)

/-- A row of properties that all settle what is under their names as it is leaves the record as it is. -/
lemma row_fixed {properties : Schema} {record}
    (each : ∀ p ∈ properties,
      Settles F T next p (Record.get? record p.name) (Record.get? record p.name)) :
    List.foldlM (step (tableServices T) F next) record properties = .ok record := by
  induction properties with
  | nil => rfl
  | cons p rest ih =>
    have same : step (tableServices T) F next record p = .ok record := by
      have s := each p List.mem_cons_self
      cases ev : Record.get? record p.name with
      | none =>
        rw [ev] at s
        cases s with
        | absent eo => exact step_ok_iff.2 (.inl ⟨ev, eo, rfl⟩)
      | some v =>
        rw [ev] at s
        cases s with
        | present es => exact step_ok_iff.2 (.inr ⟨v, v, ev, es, (Record.set_get? ev).symm⟩)
    rw [List.foldlM_cons, same]
    exact ih fun q mem => each q (List.mem_cons_of_mem _ mem)

end RecordSchema.Assertion
