import RecordSchema.Proofs.Reach

/-!
# Outcomes of assertions

An assertion comes to an outcome when budgets that are large enough all give it (`Ends`). Any budget
that is not used up gives the outcome (`ends_iff`), and there is no other (`Ends.unique`). Outcomes are
compared by `Alike`: the same fault, or related results.
-/

namespace RecordSchema

section Alike

/-- Two computations fail alike or give related results. -/
inductive Alike {α β : Type} (R : α → β → Prop) : Except Fault α → Except Fault β → Prop where
  | error {fault} :
    Alike R (.error fault) (.error fault)
  | ok {a b} :
    R a b →
    Alike R (.ok a) (.ok b)

/-- Anything is like itself, under a relation that holds of the same. -/
lemma Alike.refl {α : Type} {R : α → α → Prop} (each : ∀ a, R a a) (x : Except Fault α) :
    Alike R x x := by
  cases x with
  | error fault => exact .error
  | ok a => exact .ok (each a)

/-- What is alike under a relation is so under a wider one. -/
lemma Alike.mono {α β : Type} {R S : α → β → Prop} {x y} (alike : Alike R x y)
    (imp : ∀ a b, R a b → S a b) : Alike S x y := by
  cases alike with
  | error => exact .error
  | ok rel => exact .ok (imp _ _ rel)

/-- Related results are results. -/
lemma Alike.results {α β : Type} {R : α → β → Prop} {x y} (alike : Alike R x y) :
    Alike (fun a b => R a b ∧ x = .ok a ∧ y = .ok b) x y := by
  cases alike with
  | error => exact .error
  | ok rel => exact .ok ⟨rel, rfl, rfl⟩

/-- Likeness goes both ways. -/
lemma Alike.symm {α β : Type} {R : α → β → Prop} {x y} (alike : Alike R x y) :
    Alike (flip R) y x := by
  cases alike with
  | error => exact .error
  | ok rel => exact .ok rel

/-- Computations are alike when they start alike and go on alike. -/
lemma Alike.bind {α β γ δ : Type} {R : α → β → Prop} {S : γ → δ → Prop} {x y}
    {f : α → Except Fault γ} {g : β → Except Fault δ} (first : Alike R x y)
    (rest : ∀ a b, R a b → Alike S (f a) (g b)) : Alike S (x >>= f) (y >>= g) := by
  cases first with
  | error => exact .error
  | ok rel => exact rest _ _ rel

end Alike

namespace Assertion

variable {F : Functions} {T : Table}

/-- Compiling never runs out of a budget. -/
lemma compile_ne_exhausted {source : Source} : source.compile T.resolves ≠ .error .exhausted := by
  intro e
  cases source with
  | compiled => cases e
  | document v =>
    obtain ⟨flaw, ef⟩ := Schema.compile_error e
    cases ef

/-- An assertion uses up its budget exactly when the walk with its compiled schema does. -/
lemma sanitizeWithin_exhausted_iff {budget source v} :
    sanitizeWithin budget F T source v = .error .exhausted ↔
      ∃ schema, source.compile T.resolves = .ok schema ∧
        walk (tableServices T) F budget (some schema) v = .error .exhausted := by
  constructor
  · intro e
    obtain ec | walked := bind_error_iff.1 e
    · exact (compile_ne_exhausted ec).elim
    · exact walked
  · rintro ⟨schema, ec, e⟩
    rw [sanitizeWithin_eq ec, e]

/-- What an assertion comes to, it also comes to with greater budgets. -/
lemma sanitizeWithin_mono {budget budget' source v result} (le : budget ≤ budget')
    (e : sanitizeWithin budget F T source v = result) (ne : result ≠ .error .exhausted) :
    sanitizeWithin budget' F T source v = result := by
  cases ec : source.compile T.resolves with
  | error fault =>
    rw [sanitizeWithin, ec] at e ⊢
    exact e
  | ok schema =>
    rw [sanitizeWithin_eq ec] at e ⊢
    exact walk_mono le e ne

/-- An assertion comes to an outcome: budgets that are large enough give it, and are not used up. -/
def Ends (F : Functions) (T : Table) (source : Source) (v : Value)
    (result : Except Fault Record) : Prop :=
  result ≠ .error .exhausted ∧ Eventually (fun budget => sanitizeWithin budget F T source v) result

/-- The outcome of an assertion is what any budget gives that is not used up. -/
lemma ends_iff {source v result} :
    Ends F T source v result ↔
      result ≠ .error .exhausted ∧ ∃ budget, sanitizeWithin budget F T source v = result := by
  apply and_congr_right
  intro ne
  constructor
  · rintro ⟨budget, e⟩
    exact ⟨budget, e budget (Nat.le_refl _)⟩
  · rintro ⟨budget, e⟩
    exact ⟨budget, fun budget' le => sanitizeWithin_mono le e ne⟩

/-- An assertion ends in one way only. -/
lemma Ends.unique {source v result result'} (ends : Ends F T source v result)
    (ends' : Ends F T source v result') : result = result' := by
  obtain ⟨_, budget, e⟩ := ends
  obtain ⟨_, budget', e'⟩ := ends'
  rw [← e (max budget budget') (Nat.le_max_left _ _), e' _ (Nat.le_max_right _ _)]

/-- Sources that compile to the same end in the same way. -/
lemma ends_congr {source source' v result}
    (e : source.compile T.resolves = source'.compile T.resolves) :
    Ends F T source v result ↔ Ends F T source' v result := by
  unfold Ends sanitizeWithin
  rw [e]

/-- An assertion that is alike another one within every budget comes to an outcome when that does, and
to one that is alike. -/
lemma Ends.alike {R : Record → Record → Prop} {T' source source' v v' result}
    (within : ∀ budget, Alike R (sanitizeWithin budget F T source v)
      (sanitizeWithin budget F T' source' v')) (ends : Ends F T source v result) :
    ∃ result', Ends F T' source' v' result' ∧ Alike R result result' := by
  obtain ⟨ne, budget, e⟩ := ends_iff.1 ends
  have alike := within budget
  rw [e] at alike
  refine ⟨_, ends_iff.2 ⟨?_, budget, rfl⟩, alike⟩
  generalize sanitizeWithin budget F T' source' v' = result' at alike
  cases alike with
  | error => exact ne
  | ok => nofun

/-- Assertions that are alike within every budget have outcomes that are alike. -/
lemma outcomes_alike {R : Record → Record → Prop} {T' source source' v v'}
    (within : ∀ budget, Alike R (sanitizeWithin budget F T source v)
      (sanitizeWithin budget F T' source' v')) :
    ((∃ result, Ends F T source v result) ↔ ∃ result', Ends F T' source' v' result') ∧
    ∀ result result', Ends F T source v result → Ends F T' source' v' result' →
      Alike R result result' := by
  refine ⟨⟨?_, ?_⟩, ?_⟩
  · rintro ⟨result, ends⟩
    obtain ⟨result', ends', _⟩ := ends.alike within
    exact ⟨result', ends'⟩
  · rintro ⟨result', ends'⟩
    obtain ⟨result, ends, _⟩ := ends'.alike fun budget => (within budget).symm
    exact ⟨result, ends⟩
  · intro result result' ends ends'
    obtain ⟨other, reached, alike⟩ := ends.alike within
    rwa [ends'.unique reached]

end Assertion

end RecordSchema
