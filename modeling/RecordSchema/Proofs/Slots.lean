import Mathlib.Logic.Function.Basic
import RecordSchema.Proofs.Registry
import RecordSchema.Proofs.Stateful

/-!
# Runs on slots

Every operation has one of a few outcomes (`step_outcome`). Slots that are made and changed by operations
never share a cell (`Separate`), so an operation shows in no slot but its target (`Outcome.elsewhere`), and
one that is refused shows nowhere (`Outcome.unchanged`). What is in a slot is therefore told by what was
accepted there: a `History` keeps for each slot the functions that it was given, where a copy goes on from
those of its source. After any run, each slot has the registry of the functions of its history
(`recorded_run`) and answers as the ordered map of them (`run_answers`).
-/

namespace RecordSchema

open Assertion (run_bind)

namespace Kind

variable {kind : Kind}

/-- Both kinds register alike. -/
lemma register_eq {catalogue} :
    kind.register catalogue = Registry.register kind.role (kind.ofFunction catalogue) := by
  cases kind <;> rfl

/-- Both kinds call the function that a registry has for a name. -/
lemma invoke_eq {r : Registry kind.Function} {name v argument} :
    kind.invoke r name v argument =
      match r.get? name with
      | some f => kind.call f v argument
      | none => .error (.mishap (.missingKey (.text name))) := by
  cases kind with
  | rule =>
    unfold invoke Rule.invoke
    dsimp only
    cases r.get? name <;> rfl
  | transform =>
    unfold invoke Transform.invoke
    dsimp only
    cases r.get? name <;> rfl

end Kind

namespace Slots

section Cells

variable {α : Type} {s : Slots α} {slot other : Text} {r old : Registry α}

/-- No two slots have the same cell, and all their cells are in the store. -/
structure Separate (s : Slots α) : Prop where
  inStore : ∀ {slot cell}, s.places.lookup slot = some cell → cell < s.store.length
  apart : ∀ {slot other cell}, s.places.lookup slot = some cell →
    s.places.lookup other = some cell → slot = other

/-- Without slots none share a cell. -/
lemma separate_empty : (empty : Slots α).Separate :=
  ⟨nofun, nofun⟩

/-- A slot that is given a new cell has the registry in it. -/
lemma slot?_hold : (s.hold slot r).slot? slot = some r := by
  rw [slot?, hold, lookup_putEntry_self, Option.bind_some, List.getElem?_concat_length]

/-- The other slots have the cells that they had. -/
lemma slot?_hold_of_ne (separate : s.Separate) (ne : other ≠ slot) :
    (s.hold slot r).slot? other = s.slot? other := by
  rw [slot?, slot?, hold, lookup_putEntry_of_ne ne]
  cases place : s.places.lookup other with
  | none => rfl
  | some cell => exact List.getElem?_append_left (separate.inStore place)

/-- A new cell is not the cell of another slot. -/
lemma Separate.hold (separate : s.Separate) : (s.hold slot r).Separate := by
  -- Where a slot is afterwards: in the new cell, or where it was before.
  have cases_of {other cell} (place : (s.hold slot r).places.lookup other = some cell) :
      other = slot ∧ cell = s.store.length ∨ s.places.lookup other = some cell := by
    by_cases same : other = slot
    · subst same
      rw [Slots.hold, lookup_putEntry_self] at place
      exact .inl ⟨rfl, (Option.some.inj place).symm⟩
    · rw [Slots.hold, lookup_putEntry_of_ne same] at place
      exact .inr place
  constructor
  · intro other cell place
    rw [Slots.hold, List.length_append, List.length_singleton]
    obtain ⟨-, rfl⟩ | before := cases_of place
    · exact Nat.lt_succ_self _
    · exact Nat.lt_succ_of_lt (separate.inStore before)
  · intro first second cell place place'
    obtain ⟨rfl, rfl⟩ | before := cases_of place <;> obtain ⟨rfl, e⟩ | before' := cases_of place'
    · rfl
    · exact absurd (separate.inStore before') (Nat.lt_irrefl _)
    · exact absurd (separate.inStore before) (e ▸ Nat.lt_irrefl _)
    · exact separate.apart before before'

/-- A slot that is written to has what was written. -/
lemma slot?_write (there : s.slot? slot = some old) : (s.write slot r).slot? slot = some r := by
  obtain ⟨cell, place, held⟩ := Option.bind_eq_some_iff.1 there
  obtain ⟨inStore, -⟩ := List.getElem?_eq_some_iff.1 held
  rw [slot?, write, place]
  dsimp only
  rw [place, Option.bind_some, List.getElem?_set_self inStore]

/-- The other slots have other cells. -/
lemma slot?_write_of_ne (separate : s.Separate) (ne : other ≠ slot) :
    (s.write slot r).slot? other = s.slot? other := by
  unfold write
  split
  case h_1 cell place =>
    rw [slot?, slot?]
    cases place' : s.places.lookup other with
    | none => rfl
    | some cell' =>
      have apart : cell ≠ cell' := by
        rintro rfl
        exact ne (separate.apart place' place)
      exact List.getElem?_set_ne apart
  case h_2 => rfl

/-- Writing moves no slot. -/
lemma Separate.write (separate : s.Separate) : (s.write slot r).Separate := by
  unfold Slots.write
  split
  case h_1 cell _ =>
    constructor
    · intro other cell place
      rw [List.length_set]
      exact separate.inStore place
    · exact separate.apart
  case h_2 => exact separate

end Cells

variable {kind : Kind} {catalogue : Catalogue} {s : Slots kind.Function}
  {operation : Operation kind.Function} {result : Except Fault Unit × Slots kind.Function}
  {slot other : Text}

/-- What an operation can come to: it does what it says, or it is refused and leaves the slots. -/
inductive Outcome (kind : Kind) (catalogue : Catalogue) (s : Slots kind.Function) :
    Operation kind.Function → Except Fault Unit × Slots kind.Function → Prop where
  | constructed {slot functions} :
    Outcome kind catalogue s (.construct slot functions) (.ok (), s.hold slot (.ofList functions))
  | copied {source target r} :
    s.slot? source = some r →
    Outcome kind catalogue s (.copy source target) (.ok (), s.hold target r)
  | registered {slot name function r} :
    s.slot? slot = some r →
    Outcome kind catalogue s (.register slot name (.function function))
      (.ok (), s.write slot (r.put name (kind.ofFunction catalogue function)))
  | notCallable {slot name v r} :
    s.slot? slot = some r → (∀ function, v ≠ .function function) →
    Outcome kind catalogue s (.register slot name v)
      (.error (.mishap (.notCallable kind.role name v.typeName)), s)
  | noSource {source target} :
    s.slot? source = none →
    Outcome kind catalogue s (.copy source target) (.error (.mishap (.missingKey (.text source))), s)
  | noSlot {slot name v} :
    s.slot? slot = none →
    Outcome kind catalogue s (.register slot name v)
      (.error (.mishap (.missingKey (.text slot))), s)

/-- Reading a slot gives its registry, if it is there, and changes nothing. -/
lemma run_read {slot} :
    (read slot).run.run s =
      match s.slot? slot with
      | some r => (.ok r, s)
      | none => (.error (.mishap (.missingKey (.text slot))), s) := by
  unfold read
  have got : (get : InSlots kind.Function _).run.run s = (.ok s, s) := rfl
  rw [run_bind, got]
  dsimp only
  cases s.slot? slot <;> rfl

/-- Every step is one of the outcomes. -/
lemma step_outcome : Outcome kind catalogue s operation (step kind catalogue s operation) := by
  cases operation with
  | construct slot functions => exact .constructed
  | copy source target =>
    rw [step, perform, run_bind, run_read]
    cases there : s.slot? source with
    | none => exact .noSource there
    | some r =>
      dsimp only
      rw [Registry.copy_eq]
      exact .copied there
  | register slot name v =>
    rw [step, perform, run_bind, run_read]
    cases there : s.slot? slot with
    | none => exact .noSlot there
    | some r =>
      dsimp only
      rw [Kind.register_eq]
      unfold Registry.register
      split
      case h_1 function => exact .registered there
      case h_2 other => exact .notCallable there other

namespace Outcome

/-- What is refused changes nothing. -/
lemma unchanged {fault} (outcome : Outcome kind catalogue s operation result)
    (refused : result.1 = .error fault) : result.2 = s := by
  cases outcome with
  | constructed => cases refused
  | copied => cases refused
  | registered => cases refused
  | notCallable => rfl
  | noSource => rfl
  | noSlot => rfl

/-- A slot that is there takes functions, and nothing else. -/
lemma ok_iff {name v} (outcome : Outcome kind catalogue s (.register slot name v) result)
    (there : (s.slot? slot).isSome) : result.1 = .ok () ↔ ∃ function, v = .function function := by
  cases outcome with
  | registered => exact iff_of_true rfl ⟨_, rfl⟩
  | notCallable _ other =>
    refine iff_of_false nofun ?_
    rintro ⟨function, e⟩
    exact other function e
  | noSlot absent =>
    rw [absent] at there
    cases there

/-- The cells of slots stay apart. -/
lemma separate (outcome : Outcome kind catalogue s operation result) (separate : s.Separate) :
    result.2.Separate := by
  cases outcome with
  | constructed => exact separate.hold
  | copied => exact separate.hold
  | registered => exact separate.write
  | notCallable => exact separate
  | noSource => exact separate
  | noSlot => exact separate

/-- An operation shows in no slot but its target. -/
lemma elsewhere (outcome : Outcome kind catalogue s operation result) (separate : s.Separate)
    (ne : operation.target ≠ other) : result.2.slot? other = s.slot? other := by
  cases outcome with
  | constructed => exact slot?_hold_of_ne separate ne.symm
  | copied => exact slot?_hold_of_ne separate ne.symm
  | registered => exact slot?_write_of_ne separate ne.symm
  | notCallable => rfl
  | noSource => rfl
  | noSlot => rfl

end Outcome

/-! ### Runs -/

variable {operations later : List (Operation kind.Function)}

/-- The last of some operations is carried out on what those before leave. -/
lemma run_append_singleton :
    run kind catalogue (operations ++ [operation]) =
      (step kind catalogue (run kind catalogue operations) operation).2 := by
  rw [run, run, List.foldl_append, List.foldl_cons, List.foldl_nil]

/-- No run makes two slots share a cell. -/
lemma separate_run : (run kind catalogue operations).Separate := by
  induction operations using List.reverseRecOn with
  | nil => exact separate_empty
  | append_singleton operations operation ih =>
    rw [run_append_singleton]
    exact step_outcome.separate ih

/-- However a run goes on, it shows in no slot but the targets of its operations. -/
lemma slot?_run_append (untouched : ∀ operation ∈ later, operation.target ≠ slot) :
    (run kind catalogue (operations ++ later)).slot? slot =
      (run kind catalogue operations).slot? slot := by
  induction later using List.reverseRecOn with
  | nil => rw [List.append_nil]
  | append_singleton later operation ih =>
    have before := ih fun operation mem => untouched operation (List.mem_append_left _ mem)
    have last := untouched operation (List.mem_append_right _ (List.mem_singleton_self _))
    rw [← List.append_assoc, run_append_singleton, step_outcome.elsewhere separate_run last, before]

/-! ### Histories -/

/-- For each slot that is there, the functions accepted in it, oldest first. -/
abbrev History (α : Type) := Text → Option (List (Text × α))

/-- A history goes on with an operation: a slot starts with the functions it is made from or with those of
the source of a copy, and takes the functions that are registered in it. -/
def History.after (kind : Kind) (catalogue : Catalogue) (history : History kind.Function) :
    Operation kind.Function → History kind.Function
  | .construct slot functions => Function.update history slot (some functions)
  | .copy source target =>
    match history source with
    | some log => Function.update history target (some log)
    | none => history
  | .register slot name (.function function) =>
    match history slot with
    | some log =>
      Function.update history slot (some (log ++ [(name, kind.ofFunction catalogue function)]))
    | none => history
  | .register _ _ _ => history

/-- What was accepted in a run, there being no slots at first. -/
def history (kind : Kind) (catalogue : Catalogue) (operations : List (Operation kind.Function)) :
    History kind.Function :=
  operations.foldl (History.after kind catalogue) fun _ => none

/-- The last of some operations adds to the history of those before. -/
lemma history_append_singleton :
    history kind catalogue (operations ++ [operation]) =
      (history kind catalogue operations).after kind catalogue operation := by
  rw [history, history, List.foldl_append, List.foldl_cons, List.foldl_nil]

/-- Each slot has the registry of the functions of its history. -/
def Recorded {α : Type} (s : Slots α) (h : History α) : Prop :=
  ∀ slot, s.slot? slot = (h slot).map .ofList

/-- What a history has of a slot that is there. -/
lemma Recorded.log {h : History kind.Function} {r} (recorded : Recorded s h)
    (there : s.slot? slot = some r) : ∃ log, h slot = some log ∧ r = .ofList log := by
  rw [recorded slot] at there
  obtain ⟨log, e, rfl⟩ := Option.map_eq_some_iff.1 there
  exact ⟨log, e, rfl⟩

/-- What is not there has no history. -/
lemma Recorded.absent {h : History kind.Function} (recorded : Recorded s h)
    (absent : s.slot? slot = none) : h slot = none := by
  rwa [recorded slot, Option.map_eq_none_iff] at absent

/-- Slots are recorded when the target of an operation is and the others are as they were. -/
lemma Recorded.update {h : History kind.Function} {s' log} (recorded : Recorded s h)
    (target : s'.slot? slot = some (.ofList log))
    (others : ∀ other ≠ slot, s'.slot? other = s.slot? other) :
    Recorded s' (Function.update h slot (some log)) := by
  intro other
  by_cases same : other = slot
  · subst same
    rw [target, Function.update_self, Option.map_some]
  · rw [others other same, recorded other, Function.update_of_ne same]

/-- An operation does to the slots what it does to the history. -/
lemma Outcome.recorded {h : History kind.Function}
    (outcome : Outcome kind catalogue s operation result) (recorded : Recorded s h)
    (separate : s.Separate) : Recorded result.2 (h.after kind catalogue operation) := by
  cases outcome with
  | constructed => exact recorded.update slot?_hold fun _ => slot?_hold_of_ne separate
  | copied there =>
    obtain ⟨log, e, rfl⟩ := recorded.log there
    rw [History.after, e]
    exact recorded.update slot?_hold fun _ => slot?_hold_of_ne separate
  | registered there =>
    obtain ⟨log, e, rfl⟩ := recorded.log there
    rw [History.after, e, ← Registry.ofList_append]
    exact recorded.update (slot?_write there) fun _ => slot?_write_of_ne separate
  | notCallable _ other =>
    rw [History.after]
    · exact recorded
    · exact other
  | noSource absent =>
    rw [History.after, recorded.absent absent]
    exact recorded
  | @noSlot slot name v absent =>
    cases v with
    | function =>
      rw [History.after, recorded.absent absent]
      exact recorded
    | _ => exact recorded

/-- After a run, each slot has the registry of what was accepted in it. -/
theorem recorded_run :
    Recorded (run kind catalogue operations) (history kind catalogue operations) := by
  induction operations using List.reverseRecOn with
  | nil => exact fun _ => rfl
  | append_singleton operations operation ih =>
    rw [run_append_singleton, history_append_singleton]
    exact step_outcome.recorded ih separate_run

/-- After any run of operations on either kind of registries, each slot that is there shows the functions
accepted in it, those before a copy included, and calls the last one of a name. What is refused changes
nothing, which of all values that are registered happens to those that are no functions, and whatever is
done to other slots later on does not show. -/
theorem run_answers (kind : Kind) (catalogue : Catalogue)
    (operations : List (Operation kind.Function)) :
    let slots := run kind catalogue operations
    (∀ slot, slots.slot? slot = none ↔ history kind catalogue operations slot = none) ∧
    (∀ slot log, history kind catalogue operations slot = some log →
      ∃ r, slots.slot? slot = some r ∧ r.Shows log ∧
        ∀ name v argument, kind.invoke r name v argument =
          match latest? log name with
          | some f => kind.call f v argument
          | none => .error (.mishap (.missingKey (.text name)))) ∧
    (∀ operation fault, (step kind catalogue slots operation).1 = .error fault →
      (step kind catalogue slots operation).2 = slots) ∧
    (∀ slot name v, (slots.slot? slot).isSome →
      ((step kind catalogue slots (.register slot name v)).1 = .ok () ↔
        ∃ function, v = .function function)) ∧
    ∀ slot later, (∀ operation ∈ later, operation.target ≠ slot) →
      (run kind catalogue (operations ++ later)).slot? slot = slots.slot? slot := by
  intro slots
  have recorded : Recorded slots (history kind catalogue operations) := recorded_run
  refine ⟨?_, ?_, ?_, ?_, ?_⟩
  · intro slot
    rw [recorded slot, Option.map_eq_none_iff]
  · intro slot log e
    have there : slots.slot? slot = some (.ofList log) := by rw [recorded slot, e, Option.map_some]
    refine ⟨_, there, Registry.shows_ofList, ?_⟩
    intro name v argument
    rw [Kind.invoke_eq, Registry.get?_ofList]
  · exact fun _ _ => step_outcome.unchanged
  · exact fun _ _ _ => step_outcome.ok_iff
  · exact fun _ _ => slot?_run_append

/-- Functions that only tell their names. -/
def echoes : Catalogue := fun function _ => .ok (.text function)

/-- A registry is copied, then one of its transforms is replaced, and the copy refuses a number. -/
def replacing : List (Operation Kind.transform.Function) := [
  .construct "main"
    [("a", Transform.ofFunction echoes "f"), ("b", Transform.ofFunction echoes "g")],
  .copy "main" "spare",
  .register "main" "a" (.function "h"), .register "spare" "c" (.int 1)]

/-- The copy goes on with the transform that was replaced in the original, and has no name for the number. -/
theorem run_answers_replacing :
    ∃ main spare : Registry Kind.transform.Function,
      (run .transform echoes replacing).slot? "main" = some main ∧
      (run .transform echoes replacing).slot? "spare" = some spare ∧
      Kind.transform.invoke main "a" .null .null = .ok (.text "h") ∧
      Kind.transform.invoke spare "a" .null .null = .ok (.text "f") ∧
      ("c" : Text) ∉ spare.names := by
  obtain ⟨-, shown, -⟩ := run_answers .transform echoes replacing
  obtain ⟨main, main_there, -, main_calls⟩ := shown "main" _ rfl
  obtain ⟨spare, spare_there, spare_shows, spare_calls⟩ := shown "spare" _ rfl
  refine ⟨main, spare, main_there, spare_there, ?_, ?_, ?_⟩
  · rw [main_calls]
    rfl
  · rw [spare_calls]
    rfl
  · rw [spare_shows.mem_names]
    decide

end Slots

end RecordSchema
