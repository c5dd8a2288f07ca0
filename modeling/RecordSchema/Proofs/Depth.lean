import RecordSchema.Proofs.Acceptance
import RecordSchema.Proofs.Builtin
import RecordSchema.Proofs.Outcome

/-!
# How deeply assertions are nested

An assertion opens others below it. `Opens` says how many can be open at once, whatever the budget,
and a budget is used up exactly when more have to be (`exhausted_iff_opens`). Schemas that refer to
themselves do not shrink on the way down, but the data does, as long as no transform deepens it: there
are never more assertions open than the data has levels of mappings, and one (`Opens.le_depth`). So
every assertion comes to an outcome, and a budget of that size is as good as any greater one
(`terminates_within_depth`).
-/

namespace RecordSchema.Assertion

/-- Asserting a value against a schema comes to have some number of assertions open at once, itself
and those below it: a property that the walk gets to descends into its transformed value, which opens
one less. -/
inductive Opens (F : Functions) (T : Table) : Option Schema → Value → Nat → Prop where
  | here {schema? v} :
    Opens F T schema? v 1
  | nested {before p after v record mid w schema? n} :
    v.entries? = some record →
    Passes F T before record mid →
    Transforms F p mid w →
    Descends T p w schema? →
    Opens F T schema? w n →
    Opens F T (some (before ++ p :: after)) v (n + 1)

variable {F : Functions} {T : Table}

/-- A row of properties that makes something of a record with some budget makes it with any budget
that is not used up. -/
lemma Passes.row {properties record mid} (passes : Passes F T properties record mid) (budget : Nat) :
    Approximates
      (List.foldlM (step (tableServices T) F (walk (tableServices T) F budget)) record properties)
      (.ok mid) := by
  obtain ⟨enough, e⟩ := passes
  rw [← foldlM_step_mono (Nat.le_max_right budget enough) e]
  exact row_approximates (Nat.le_max_left budget enough)

/-- A walk that comes to have more assertions open than its budget uses it up. -/
lemma Opens.exhausts {schema? v n} (opens : Opens F T schema? v n) {budget} (less : budget < n) :
    walk (tableServices T) F budget schema? v = .error .exhausted := by
  induction opens generalizing budget with
  | here =>
    obtain rfl : budget = 0 := by omega
    rfl
  | @nested before p after v record mid w schema? n ev passes t d _ ih =>
    cases budget with
    | zero => rfl
    | succ budget =>
      rw [walk_succ, level_record ev]
      obtain spent | row := passes.row budget
      · rw [List.foldlM_append, spent]
        rfl
      · obtain ⟨u, eg, et⟩ := t
        have below : walk (tableServices T) F budget schema? w = .error .exhausted :=
          ih (by omega)
        have descent : DescentFails T (walk (tableServices T) F budget) p w .exhausted :=
          .nested d below
        have fails : step (tableServices T) F (walk (tableServices T) F budget) mid p =
            .error .exhausted :=
          step_error_iff.2 (.inr ⟨u, eg, settle_error_iff.2 (.descent et descent)⟩)
        exact foldlM_fails row fails

/-- A walk that runs out of its budget has opened one assertion more than that. -/
lemma opens_of_exhausted (never : NeverExhausts F) {budget schema? v}
    (e : walk (tableServices T) F budget schema? v = .error .exhausted) :
    Opens F T schema? v (budget + 1) := by
  induction budget generalizing schema? v with
  | zero => exact .here
  | succ budget ih =>
    rw [walk_succ] at e
    cases ev : v.entries? with
    | none =>
      rw [level_notRecord ev] at e
      cases e
    | some record =>
      cases schema? with
      | none =>
        rw [level_noSchema ev] at e
        cases e
      | some schema =>
        rw [level_record ev] at e
        -- What uses up the budget is an assertion that one of the properties descends into.
        obtain ⟨before, p, after, mid, rfl, em, ep⟩ := foldlM_error e
        obtain ⟨_, _, ex⟩ | ⟨u, eg, es⟩ := step_error_iff.1 ep
        · cases ex
        · obtain ⟨w, schema?, et, d, eu⟩ := settle_exhausted never es
          exact .nested ev ⟨budget, em⟩ ⟨u, eg, et⟩ d (ih eu)

/-- A budget is used up exactly when a walk comes to have more assertions open. -/
lemma exhausted_iff_opens (never : NeverExhausts F) {budget schema? v} :
    walk (tableServices T) F budget schema? v = .error .exhausted ↔
      Opens F T schema? v (budget + 1) := by
  constructor
  · exact opens_of_exhausted never
  · intro opens
    exact opens.exhausts (Nat.lt_succ_self _)

/-- Where no transform deepens a value, there are never more assertions open than the data has levels
of mappings, and one. -/
lemma Opens.le_depth (keeps : KeepsDepth F.transforms) {schema? v n}
    (opens : Opens F T schema? v n) : n ≤ v.depth + 1 := by
  induction opens with
  | here => omega
  | @nested before p after v record mid w schema? n ev passes t d _ ih =>
    -- The properties before may have replaced the value, by one that is no deeper.
    obtain ⟨budget, em⟩ := passes
    have kept := foldlM_entriesDepth_le keeps (walk_depth_le keeps) em
    obtain ⟨u, eg, et⟩ := t
    have found := Value.depth_le_of_get? eg
    have transformed := applyAll_depth_le keeps et
    cases v with
    | record frozen entries =>
      cases ev
      rw [Value.depth]
      omega
    | _ => cases ev

/-- A budget beyond the depth of the data gives what the budget of an assertion gives. -/
lemma sanitizeWithin_eq_sanitize (keeps : KeepsDepth F.transforms) {budget source v}
    (deep : v.depth < budget) :
    sanitizeWithin budget F T source v = sanitize F T source v := by
  cases ec : source.compile T.resolves with
  | error fault =>
    rw [sanitize, sanitizeWithin, sanitizeWithin, ec]
    rfl
  | ok schema =>
    rw [sanitize, sanitizeWithin_eq ec, sanitizeWithin_eq ec,
      walk_stable keeps deep (budgetFor v), walk_stable keeps depth_lt_budgetFor budget,
      Nat.add_comm]

/-- With functions that come to an end, and transforms none of which deepens a value, as the built-in
ones are, every assertion comes to an outcome, however its schemas refer to each other. It never has
more assertions open at once than the data has levels of mappings, and one, and every budget of at
least that size gives its outcome. -/
theorem terminates_within_depth :
    (KeepsDepth Functions.builtin.transforms ∧ NeverExhausts .builtin) ∧
    ∀ F T source v, KeepsDepth F.transforms → NeverExhausts F →
      Ends F T source v (sanitize F T source v) ∧
      (∀ schema n, source.compile T.resolves = .ok schema → Opens F T (some schema) v n →
        n ≤ v.depth + 1) ∧
      ∀ budget, v.depth + 1 ≤ budget →
        sanitizeWithin budget F T source v = sanitize F T source v := by
  refine ⟨⟨builtin_keepsDepth, builtin_neverExhausts⟩, ?_⟩
  intro F T source v keeps never
  have reached : sanitize F T source v ≠ .error .exhausted := by
    intro e
    obtain ⟨schema, _, spent⟩ := sanitizeWithin_exhausted_iff.1 e
    have opens := (exhausted_iff_opens never).1 spent
    have le := opens.le_depth keeps
    unfold budgetFor at le
    omega
  refine ⟨⟨reached, v.depth + 1, ?_⟩, ?_, ?_⟩
  · intro budget le
    exact sanitizeWithin_eq_sanitize keeps le
  · intro schema n _ opens
    exact opens.le_depth keeps
  · intro budget le
    exact sanitizeWithin_eq_sanitize keeps le

/-- Two linked nodes come to an outcome with three assertions open at most. -/
theorem terminates_linkedNodes :
    KeepsDepth Functions.builtin.transforms ∧ NeverExhausts .builtin ∧ linkedNodes.depth = 2 ∧
      Ends .builtin linkedTable (.document linked) linkedNodes
        (.ok [(.text "next", .record false [(.text "name", .text "b")]),
          (.text "name", .text "a")]) ∧
      ∀ schema n, Schema.compile linkedTable.resolves linked = .ok schema →
        Opens .builtin linkedTable (some schema) linkedNodes n → n ≤ 3 := by
  have deep : linkedNodes.depth = 2 := rfl
  obtain ⟨ends, few, enough⟩ := terminates_within_depth.2 .builtin linkedTable (.document linked)
    linkedNodes builtin_keepsDepth builtin_neverExhausts
  have run : sanitizeWithin 3 .builtin linkedTable (.document linked) linkedNodes =
      .ok [(.text "next", .record false [(.text "name", .text "b")]), (.text "name", .text "a")] := by
    cbv
  rw [← enough 3 (by rw [deep]), run] at ends
  exact ⟨builtin_keepsDepth, builtin_neverExhausts, deep, ends, few⟩

/-- The transform that makes a value the next one of a node. -/
def wrapping : Functions :=
  ⟨.empty, .ofList [("wrap", fun v => .ok (.record false [(.text "next", v)]))]⟩

/-- The next node is wrapped before it is asserted. -/
def wrappedNext : Property :=
  ⟨"next", false, ["wrap"], .reference "node", []⟩

/-- The table of nodes whose next one is wrapped. -/
def wrappingTable : Table :=
  ⟨[(.text "node", .record false [
    (.text "next", .record false [(.text "transform", .list [.text "wrap"]),
      (.text "type", .text "node")])])]⟩

/-- A transform that deepens values may open any number of assertions, so that no budget is
enough. -/
lemma wrapping_exhausts {budget v} :
    walk (tableServices wrappingTable) wrapping budget (some [wrappedNext])
      (.record false [(.text "next", v)]) = .error .exhausted := by
  have opens : ∀ n v, Opens wrapping wrappingTable (some [wrappedNext])
      (.record false [(.text "next", v)]) (n + 1) := by
    intro n
    induction n with
    | zero => exact fun v => .here
    | succ n ih =>
      intro v
      have descends : Descends wrappingTable wrappedNext (.record false [(.text "next", v)])
          (some [wrappedNext]) :=
        .reference rfl rfl
      have nested : Opens wrapping wrappingTable (some ([] ++ wrappedNext :: []))
          (.record false [(.text "next", v)]) (n + 1 + 1) :=
        .nested rfl ⟨0, rfl⟩ ⟨v, rfl, rfl⟩ descends (ih _)
      exact nested
  exact (opens budget v).exhausts (Nat.lt_succ_self _)

end RecordSchema.Assertion
