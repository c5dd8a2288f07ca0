import RecordSchema.Proofs.Acceptance
import RecordSchema.Proofs.Outcome

/-!
# Unfolding references

A property that refers to a named schema may as well have the document of that schema as its inner
one. `Unfolds` relates two documents of which the second does so in one place. They compile alike, to
schemas that differ in how one property descends (`Unfolds.compile`), and walks along such schemas come
to the same (`Trades.walk_tracks`), but for the message where the value to descend into is no mapping.
So the assertions have the same outcome (`unfolded_outcome`).
-/

namespace RecordSchema

namespace RuleSet

/-- A rule set has no other keys than `transform` and `type`. -/
def OnlyRefers (fields : Record) : Prop :=
  ∀ field ∈ fields, field.1 = .text "transform" ∨ field.1 = .text "type"

/-- A rule set with an inner document in the place of its reference. -/
def unfold (document : Value) (fields : Record) : Record :=
  fields.map fun field => if field.1.isText "type" then (.text "properties", document) else field

variable {fields : Record}

/-- An unfolded rule set has the same transforms, and the document in place of the reference. -/
lemma OnlyRefers.get?_unfold (only : OnlyRefers fields) (document : Value) :
    Record.get? (unfold document fields) "transform" = Record.get? fields "transform" ∧
      Record.get? (unfold document fields) "type" = none ∧
      Record.get? (unfold document fields) "properties" =
        (Record.get? fields "type").map fun _ => document := by
  induction fields with
  | nil => exact ⟨rfl, rfl, rfl⟩
  | cons field rest ih =>
    obtain ⟨first, others⟩ := List.forall_mem_cons.1 only
    obtain ⟨transform, type, properties⟩ := ih others
    obtain ⟨key, v⟩ := field
    rcases first with rfl | rfl
    · exact ⟨rfl, type, properties⟩
    · exact ⟨transform, type, rfl⟩

/-- A rule set that only refers has no rules, and neither has its unfolding. -/
lemma OnlyRefers.rules_unfold (only : OnlyRefers fields) (document : Value) :
    Schema.rulesOf (unfold document fields) = [] ∧
      Schema.ruleIssues (unfold document fields) = [] := by
  induction fields with
  | nil => exact ⟨rfl, rfl⟩
  | cons field rest ih =>
    obtain ⟨first, others⟩ := List.forall_mem_cons.1 only
    obtain ⟨rules, issues⟩ := ih others
    obtain ⟨key, v⟩ := field
    rcases first with rfl | rfl
    · exact ⟨rules, issues⟩
    · exact ⟨rules, issues⟩

/-- Only what stands under their key matters to transforms. -/
lemma transformsOf_congr {fields fields' : Record}
    (e : Record.get? fields' "transform" = Record.get? fields "transform") :
    Schema.transformsOf fields' = Schema.transformsOf fields := by
  rw [Schema.transformsOf, Schema.transformsOf, e]

end RuleSet

/-- A document, and the same with one reference unfolded: that of the property at a path of keys, which
lead there through inner documents. -/
inductive Unfolds (T : Table) : List Text → Text → Value → Value → Prop where
  | here {frozen before key readOnly fields after target document} :
    RuleSet.OnlyRefers fields →
    RuleSet.target? T.contains fields = some target →
    Record.get? T.entries target = some document →
    WellFormed T.contains document →
    Unfolds T [key] target
      (.record frozen (before ++ (.text key, .record readOnly fields) :: after))
      (.record frozen
        (before ++ (.text key, .record readOnly (RuleSet.unfold document fields)) :: after))
  | inside {frozen before key readOnly fields after path target document document'} :
    Record.get? fields "properties" = some document →
    Unfolds T path target document document' →
    Unfolds T (key :: path) target
      (.record frozen (before ++ (.text key, .record readOnly fields) :: after))
      (.record frozen
        (before ++ (.text key, .record readOnly (Record.set fields "properties" document')) ::
          after))

variable {T : Table}

/-- Two ways to descend: into a named schema, or into the same one as an inner schema. -/
inductive Twins (T : Table) : Nesting Property → Nesting Property → Prop where
  | unfolded {target inner} :
    T.schema? target = .ok (some inner) →
    Twins T (.reference target) (.inline inner)
  | folded {target inner} :
    T.schema? target = .ok (some inner) →
    Twins T (.inline inner) (.reference target)

/-- Two schemas that differ in how one property descends, which is reached through a chain of
properties with inner schemas. -/
inductive Trades (T : Table) : List Property → Property → Schema → Schema → Prop where
  | here {before p nesting after} :
    Twins T p.nesting nesting →
    Trades T [] p (before ++ p :: after) (before ++ { p with nesting } :: after)
  | inside {before q inner inner' after chain p} :
    q.nesting = .inline inner →
    Trades T chain p inner inner' →
    Trades T (q :: chain) p (before ++ q :: after)
      (before ++ { q with nesting := .inline inner' } :: after)

/-- What is equally nested is so the other way round. -/
lemma Twins.symm {nesting nesting'} (twins : Twins T nesting nesting') :
    Twins T nesting' nesting := by
  cases twins with
  | unfolded es => exact .folded es
  | folded es => exact .unfolded es

/-- What is traded can be traded back. -/
lemma Trades.symm {chain p schema schema'} (t : Trades T chain p schema schema') :
    ∃ chain' p', Trades T chain' p' schema' schema := by
  induction t with
  | @here before p nesting after twins =>
    obtain ⟨name, optional, transforms, folded, rules⟩ := p
    exact ⟨[], ⟨name, optional, transforms, nesting, rules⟩, .here twins.symm⟩
  | @inside before q inner inner' after chain p en _ ih =>
    obtain ⟨chain', p', back⟩ := ih
    obtain ⟨name, optional, transforms, nesting, rules⟩ := q
    cases en
    exact ⟨⟨name, optional, transforms, .inline inner', rules⟩ :: chain', p', .inside rfl back⟩

section Compile

/-- Documents with entries that compile alike in one place, and the same entries around it, compile
alike. -/
lemma compileEntries_alike {R : Schema → Schema → Prop} {resolves before key v v' after}
    (each : Alike (fun p p' => ∀ before after, R (before ++ p :: after) (before ++ p' :: after))
      (Schema.compileRuleSet resolves key v) (Schema.compileRuleSet resolves key v')) :
    Alike R (Schema.compileEntries resolves (before ++ (key, v) :: after))
      (Schema.compileEntries resolves (before ++ (key, v') :: after)) := by
  induction before generalizing R with
  | nil =>
    rw [List.nil_append, List.nil_append, Schema.compileEntries, Schema.compileEntries]
    apply each.bind
    intro p p' rel
    apply (Alike.refl (fun _ => rfl) (Schema.compileEntries resolves after)).bind
    rintro rest _ rfl
    exact .ok (rel [] rest)
  | cons entry rest ih =>
    obtain ⟨other, w⟩ := entry
    rw [List.cons_append, List.cons_append, Schema.compileEntries, Schema.compileEntries]
    apply (Alike.refl (fun _ => rfl) (Schema.compileRuleSet resolves other w)).bind
    rintro q _ rfl
    -- What the entries after the first one come to is related with it put in front.
    have later := ih (R := fun s s' => R (q :: s) (q :: s'))
      (each.mono fun p p' rel before after => rel (q :: before) after)
    apply later.bind
    intro s s' rel
    exact .ok rel

/-- The property at a path of keys: it is reached through a chain of properties with inner schemas. -/
def At (path : List Text) (chain : List Property) (p : Property) : Prop :=
  (chain ++ [p]).map Property.key = path ∧ ∀ q ∈ chain, ∃ inner, q.nesting = .inline inner

/-- Two schemas are the same, or differ in how the property at a path descends, which in the first one
refers to a named schema. -/
def Swapped (T : Table) (path : List Text) (target : Text) (schema schema' : Schema) : Prop :=
  schema = schema' ∨
    ∃ chain p, Trades T chain p schema schema' ∧ At path chain p ∧ p.nesting = .reference target

/-- A rule set compiles as it does with its reference unfolded. -/
lemma unfold_compile {key readOnly fields target frozen entries inner}
    (only : RuleSet.OnlyRefers fields) (et : RuleSet.target? T.contains fields = some target)
    (eg : Record.get? T.entries target = some (.record frozen entries))
    (ec : Schema.compile (.total T.contains) (.record frozen entries) = .ok inner) :
    Alike (fun p p' => ∀ before after,
        Swapped T [key] target (before ++ p :: after) (before ++ p' :: after))
      (Schema.compileRuleSet (.total T.contains) (.text key) (.record readOnly fields))
      (Schema.compileRuleSet (.total T.contains) (.text key)
        (.record readOnly (RuleSet.unfold (.record frozen entries) fields))) := by
  obtain ⟨transform, type, properties⟩ := only.get?_unfold (.record frozen entries)
  obtain ⟨rules, issues⟩ := only.rules_unfold (.record frozen entries)
  have ei : RuleSet.inner? (RuleSet.unfold (.record frozen entries) fields) =
      some (.record frozen entries) := by
    rw [RuleSet.inner?, properties, (RuleSet.of_target? et).1]
    rfl
  have unresolved : RuleSet.target? T.contains
      (RuleSet.unfold (.record frozen entries) fields) = none := by
    rw [RuleSet.target?, type]
  have same := RuleSet.transformsOf_congr transform
  rw [Schema.compileRuleSet, Schema.compileRuleSet, Schema.ruleSet_reference et,
    Schema.ruleSet_unresolved unresolved, Schema.compileInner_eq, ei]
  dsimp only
  rw [ec]
  dsimp only [Except.map]
  rw [← Schema.transformsOf_fst, ← Schema.transformsOf_fst, same, rules, issues]
  -- There are no rules on either side, so only the transforms can be at fault.
  by_cases sound : (Schema.transformsOf fields).2 = []
  · rw [if_pos sound, if_pos ⟨sound, rfl⟩]
    refine .ok ?_
    intro before after
    refine .inr ⟨[], _, .here (.unfolded ?_), ⟨?_, List.forall_mem_nil _⟩, rfl⟩
    · exact Table.schema?_ok_iff.2 (.inr ⟨_, _, eg, ec, rfl⟩)
    · exact congrArg (fun k => [k]) key_splitKey
  · rw [if_neg sound, if_neg (fun both => sound both.1), List.append_nil]
    exact .error

/-- A swap within an inner document is one within the whole. -/
lemma set_compile {key readOnly fields path target frozen entries frozen' entries'}
    (ei : Record.get? fields "properties" = some (.record frozen entries))
    (inner : Alike (Swapped T path target)
      (Schema.compile (.total T.contains) (.record frozen entries))
      (Schema.compile (.total T.contains) (.record frozen' entries'))) :
    Alike (fun p p' => ∀ before after,
        Swapped T (key :: path) target (before ++ p :: after) (before ++ p' :: after))
      (Schema.compileRuleSet (.total T.contains) (.text key) (.record readOnly fields))
      (Schema.compileRuleSet (.total T.contains) (.text key)
        (.record readOnly (Record.set fields "properties" (.record frozen' entries')))) := by
  have others : ∀ {name : Text}, name ≠ "properties" →
      Record.get? (Record.set fields "properties" (.record frozen' entries')) name =
        Record.get? fields name :=
    fun ne => Record.get?_set_of_ne fields ne _
  have same := RuleSet.transformsOf_congr (others (show ("transform" : Text) ≠ "properties" by decide))
  have refers : RuleSet.target? T.contains
      (Record.set fields "properties" (.record frozen' entries')) =
        RuleSet.target? T.contains fields := by
    rw [RuleSet.target?, RuleSet.target?, others (by decide)]
  obtain ⟨rules, issues⟩ := RuleSet.rules_set_properties fields (.record frozen' entries')
  rw [Schema.compileRuleSet, Schema.compileRuleSet]
  cases et : RuleSet.target? T.contains fields with
  | some other =>
    -- The inner documents are not even looked at.
    rw [Schema.ruleSet_reference et, Schema.ruleSet_reference (refers.trans et),
      ← Schema.transformsOf_fst, ← Schema.transformsOf_fst, same]
    exact .refl (fun p before after => .inl rfl) _
  | none =>
    have here : RuleSet.inner? fields = some (.record frozen entries) := by
      rw [RuleSet.inner?, ei]
    rw [Schema.ruleSet_unresolved et, Schema.ruleSet_unresolved (refers.trans et),
      Schema.compileInner_eq, Schema.compileInner_eq, here, RuleSet.inner?_set_properties,
      ← Schema.transformsOf_fst, ← Schema.transformsOf_fst, same, rules, issues]
    dsimp only
    generalize Schema.compile (.total T.contains) (.record frozen entries) = x at inner
    generalize Schema.compile (.total T.contains) (.record frozen' entries') = y at inner
    cases inner with
    | error => exact .error
    | ok swapped =>
      dsimp only [Except.map]
      split
      · refine .ok ?_
        intro before after
        rcases swapped with rfl | ⟨chain, p, trades, ⟨leads, inline⟩, er⟩
        · exact .inl rfl
        · refine .inr ⟨_ :: chain, p, .inside rfl trades, ⟨?_, ?_⟩, er⟩
          · rw [List.cons_append, List.map_cons, key_splitKey, leads]
          · exact List.forall_mem_cons.2 ⟨⟨_, rfl⟩, inline⟩
      · exact .error

/-- A document compiles as it does with a reference unfolded. -/
lemma Unfolds.compile {path target document document'}
    (u : Unfolds T path target document document') :
    Alike (Swapped T path target) (Schema.compile T.resolves document)
      (Schema.compile T.resolves document') := by
  induction u with
  | @here frozen before key readOnly fields after target document only et eg wf =>
    obtain ⟨inner, ec⟩ := wf.compile
    obtain ⟨⟩ := wf
    exact compileEntries_alike (unfold_compile only et eg ec)
  | @inside frozen before key readOnly fields after path target document document' ei u ih =>
    cases u with
    | here => exact compileEntries_alike (set_compile ei ih)
    | inside => exact compileEntries_alike (set_compile ei ih)

end Compile

namespace Assertion

variable {F : Functions}

/-- Two computations have the same outcome, or related faults. -/
inductive Agrees {α : Type} (R : Fault → Fault → Prop) : Except Fault α → Except Fault α → Prop where
  | same {x} :
    Agrees R x x
  | differ {fault fault'} :
    R fault fault' →
    Agrees R (.error fault) (.error fault')

/-- The second computation agrees with the first one, unless the budget of that is used up. -/
def Tracks {α : Type} (R : Fault → Fault → Prop) (x y : Except Fault α) : Prop :=
  x = .error .exhausted ∨ Agrees R x y

section Tracks

variable {α β : Type} {R : Fault → Fault → Prop}

/-- A computation tracks itself. -/
lemma Tracks.same {x : Except Fault α} : Tracks R x x :=
  .inr .same

/-- What is approximated is tracked. -/
lemma Approximates.tracks {x y : Except Fault α} (a : Approximates x y) : Tracks R x y := by
  rcases a with spent | rfl
  · exact .inl spent
  · exact .same

/-- Agreement up to a relation of faults is one up to a wider relation. -/
lemma Agrees.mono {S : Fault → Fault → Prop} {x y : Except Fault α} (a : Agrees R x y)
    (imp : ∀ fault fault', R fault fault' → S fault fault') : Agrees S x y := by
  cases a with
  | same => exact .same
  | differ rel => exact .differ (imp _ _ rel)

/-- Tracking up to a relation of faults is one up to a wider relation. -/
lemma Tracks.mono {S : Fault → Fault → Prop} {x y : Except Fault α} (t : Tracks R x y)
    (imp : ∀ fault fault', R fault fault' → S fault fault') : Tracks S x y :=
  Or.imp_right (fun agrees => agrees.mono imp) t

/-- Computations that track each other have continuations that do where both give the same. -/
lemma Tracks.bind {x y : Except Fault α} {f g : α → Except Fault β} (first : Tracks R x y)
    (rest : ∀ a, x = .ok a → Tracks R (f a) (g a)) : Tracks R (x >>= f) (y >>= g) := by
  rcases first with rfl | ⟨_⟩ | differ
  · exact .inl rfl
  · cases x with
    | error fault => exact .same
    | ok a => exact rest a rfl
  · exact .inr (.differ differ)

/-- Tracking is kept by what is made of the results. -/
lemma Tracks.map {x y : Except Fault α} {f : α → β} (t : Tracks R x y) :
    Tracks R (x.map f) (y.map f) := by
  rcases t with rfl | ⟨_⟩ | differ
  · exact .inl rfl
  · exact .same
  · exact .inr (.differ differ)

/-- Tracking is kept when results are enclosed. -/
lemma Tracks.enclose {S : Fault → Fault → Prop} {x y : Except Fault Record} {name}
    (t : Tracks R x y)
    (imp : ∀ fault fault', R fault fault' → S (fault.within name) (fault'.within name)) :
    Tracks S (enclose name x) (enclose name y) := by
  rcases t with rfl | ⟨_⟩ | differ
  · exact .inl rfl
  · exact .same
  · exact .inr (.differ (imp _ _ differ))

/-- Processing a property tracks processing it with another way to descend when descending does. -/
lemma step_tracks {next next' : Descent} {q : Property} {nesting mid}
    (descent : ∀ w, Transforms F q mid w →
      Tracks R (descend (tableServices T) next q w)
        (descend (tableServices T) next' { q with nesting } w)) :
    Tracks R (step (tableServices T) F next mid q)
      (step (tableServices T) F next' mid { q with nesting }) := by
  rw [step_eq, step_eq]
  dsimp only
  cases eg : Record.get? mid q.name with
  | none => exact .same
  | some v =>
    apply Tracks.map
    apply Tracks.bind .same
    intro w et
    apply Tracks.bind (descent w ⟨v, eg, et⟩)
    intro x _
    exact .same

/-- Walks along schemas that differ in one property track each other when processing it does, with one
more level of budget for the second. -/
lemma walk_tracks {before q q' after budget v}
    (steps : ∀ budget record mid, v.entries? = some record → Passes F T before record mid →
      Tracks R (step (tableServices T) F (walk (tableServices T) F budget) mid q)
        (step (tableServices T) F (walk (tableServices T) F (budget + 1)) mid q')) :
    Tracks R (walk (tableServices T) F budget (some (before ++ q :: after)) v)
      (walk (tableServices T) F (budget + 1) (some (before ++ q' :: after)) v) := by
  cases budget with
  | zero => exact .inl rfl
  | succ budget =>
    rw [walk_succ, walk_succ]
    cases en : v.entries? with
    | none =>
      rw [level_notRecord en, level_notRecord en]
      exact .same
    | some record =>
      rw [level_record en, level_record en, List.foldlM_append, List.foldlM_append]
      apply Tracks.bind (row_approximates (Nat.le_succ budget)).tracks
      intro mid em
      rw [List.foldlM_cons, List.foldlM_cons]
      apply Tracks.bind (steps budget record mid en ⟨budget, em⟩)
      intro last _
      exact (row_approximates (Nat.le_succ budget)).tracks

end Tracks

/-- Two faults differ in their message at most: they are failures at one place, of one rule and
value. -/
inductive Reworded : Fault → Fault → Prop where
  | intro {failure failure' : Failure} :
    failure'.path = failure.path →
    failure'.rule? = failure.rule? →
    failure'.value = failure.value →
    Reworded (.failure failure) (.failure failure')

/-- Faults that differ in words do so outside of a property. -/
lemma Reworded.within {fault fault'} (r : Reworded fault fault') (name : Text) :
    Reworded (fault.within name) (fault'.within name) := by
  obtain ⟨path, rule, value⟩ := r
  exact .intro (congrArg (List.cons name) path) rule value

end Assertion

section Outcome

open Assertion

variable {F : Functions}

/-- Both ways to descend come to the same, but for the message about a value that is no mapping. -/
lemma Twins.descend_tracks {p : Property} {nesting w budget} (twins : Twins T p.nesting nesting) :
    Tracks (fun fault fault' => w.entries? = none ∧ Reworded fault fault')
      (descend (tableServices T) (walk (tableServices T) F budget) p w)
      (descend (tableServices T) (walk (tableServices T) F (budget + 1)) { p with nesting } w) := by
  generalize en : p.nesting = before at twins
  cases twins with
  | @unfolded target inner es =>
    rw [descend_reference en, es, descend_inline rfl]
    dsimp only
    cases ew : w.entries? with
    | none =>
      -- Only the reference takes a level of the budget to find out.
      cases budget with
      | zero => exact .inl rfl
      | succ budget =>
        rw [walk_succ, level_notRecord ew]
        exact .inr (.differ ⟨rfl, .intro rfl rfl rfl⟩)
    | some entries => exact (walk_approximates 1).enclose.tracks
  | @folded target inner es =>
    rw [descend_inline en, descend_reference rfl, es]
    dsimp only
    cases ew : w.entries? with
    | none =>
      rw [walk_succ, level_notRecord ew]
      exact .inr (.differ ⟨rfl, .intro rfl rfl rfl⟩)
    | some entries => exact (walk_approximates 1).enclose.tracks

/-- An assertion gets to a property, and its transformed value is no mapping. -/
def Misfits (F : Functions) (T : Table) (schema : Schema) (v : Value) (chain : List Property)
    (p : Property) : Prop :=
  ∃ record mid w, v.entries? = some record ∧ Reaches F T schema record chain p mid ∧
    Transforms F p mid w ∧ w.entries? = none

/-- Walks along schemas that differ in how one property descends come to the same, but for the message
about a value there that is no mapping. -/
lemma Trades.walk_tracks {chain p schema schema'} (t : Trades T chain p schema schema')
    (budget : Nat) (v : Value) :
    Tracks (fun fault fault' => Misfits F T schema v chain p ∧ Reworded fault fault')
      (walk (tableServices T) F budget (some schema) v)
      (walk (tableServices T) F (budget + 1) (some schema') v) := by
  -- Along the chain, which ends at the property: what comes before it is the same on both sides.
  induction t generalizing budget v with
  | @here before p nesting after twins =>
    apply Assertion.walk_tracks
    intro budget record mid en passes
    apply step_tracks
    intro w transforms
    apply twins.descend_tracks.mono
    rintro fault fault' ⟨ew, reworded⟩
    exact ⟨⟨record, mid, w, en, .here passes, transforms, ew⟩, reworded⟩
  | @inside before q inner inner' after chain p er _ ih =>
    apply Assertion.walk_tracks
    intro budget record mid en passes
    apply step_tracks
    intro w transforms
    rw [descend_inline er, descend_inline rfl]
    cases ew : w.entries? with
    | none => exact .same
    | some entries =>
      apply (ih budget w).enclose
      rintro fault fault' ⟨⟨nested, last, u, eu, reaches, deep, misfit⟩, reworded⟩
      cases ew.symm.trans eu
      exact ⟨⟨record, last, u, en, .nested passes transforms (.inline er ew) ew reaches, deep,
        misfit⟩, reworded.within q.name⟩

/-- An assertion that comes to an outcome comes to one that agrees with it when one property of its
schema descends in the other way. -/
lemma Trades.ends {chain p schema schema' source source' v result}
    (t : Trades T chain p schema schema') (ec : source.compile T.resolves = .ok schema)
    (ec' : source'.compile T.resolves = .ok schema') (ends : Ends F T source v result) :
    ∃ result', Ends F T source' v result' ∧
      Agrees (fun fault fault' => Misfits F T schema v chain p ∧ Reworded fault fault')
        result result' := by
  obtain ⟨ne, budget, e⟩ := ends_iff.1 ends
  rw [sanitizeWithin_eq ec] at e
  obtain spent | agrees := t.walk_tracks (F := F) budget v
  · exact (ne (e.symm.trans spent)).elim
  · rw [e, ← sanitizeWithin_eq ec'] at agrees
    refine ⟨_, ends_iff.2 ⟨?_, budget + 1, rfl⟩, agrees⟩
    generalize sanitizeWithin (budget + 1) F T source' v = result' at agrees
    rcases agrees with ⟨_⟩ | ⟨_, ⟨_⟩⟩
    · exact ne
    · nofun

/-- Assertions have outcomes that agree when each outcome of the one leads to one of the other. -/
lemma outcomes_agree {R source source' v}
    (there : ∀ result, Ends F T source v result →
      ∃ result', Ends F T source' v result' ∧ Agrees R result result')
    (back : ∀ result', Ends F T source' v result' → ∃ result, Ends F T source v result) :
    ((∃ result, Ends F T source v result) ↔ ∃ result', Ends F T source' v result') ∧
    ∀ result result', Ends F T source v result → Ends F T source' v result' →
      Agrees R result result' := by
  refine ⟨⟨?_, ?_⟩, ?_⟩
  · rintro ⟨result, ends⟩
    obtain ⟨result', ends', _⟩ := there result ends
    exact ⟨result', ends'⟩
  · rintro ⟨result', ends'⟩
    exact back result' ends'
  · intro result result' ends ends'
    obtain ⟨other, reached, agrees⟩ := there result ends
    rw [ends'.unique reached]
    exact agrees

/-- Sources that compile to the same have outcomes that agree. -/
lemma outcomes_same {R source source' v}
    (e : source.compile T.resolves = source'.compile T.resolves) :
    ((∃ result, Ends F T source v result) ↔ ∃ result', Ends F T source' v result') ∧
    ∀ result result', Ends F T source v result → Ends F T source' v result' →
      Agrees R result result' := by
  apply outcomes_agree
  · intro result ends
    exact ⟨result, (ends_congr e).1 ends, .same⟩
  · intro result' ends'
    exact ⟨result', (ends_congr e).2 ends'⟩

/-- An assertion against a document gets to the property at a path of keys, which refers to a named
schema, and its transformed value is no mapping. -/
def MisfitsAt (F : Functions) (T : Table) (document v : Value) (path : List Text)
    (target : Text) : Prop :=
  ∃ schema chain p, Schema.compile T.resolves document = .ok schema ∧ At path chain p ∧
    p.nesting = .reference target ∧ Misfits F T schema v chain p

/-- A property that refers to a named schema may as well have the document of that schema as its inner
one: an assertion comes to an outcome with the one exactly when it does with the other. They are the
same, or failures at one place, of one rule and value, which only differ in their message, and then
the transformed value of the property is no mapping. -/
theorem unfolded_outcome {path target document document' v}
    (u : Unfolds T path target document document') :
    ((∃ result, Ends F T (.document document) v result) ↔
      ∃ result', Ends F T (.document document') v result') ∧
    ∀ result result', Ends F T (.document document) v result →
      Ends F T (.document document') v result' →
      Agrees (fun fault fault' => MisfitsAt F T document v path target ∧ Reworded fault fault')
        result result' := by
  have compiled : Alike (Swapped T path target)
      ((Source.document document).compile T.resolves)
      ((Source.document document').compile T.resolves) := u.compile
  -- Either both do not compile, or their schemas are the same, or these differ in one property.
  generalize ec : (Source.document document).compile T.resolves = x at compiled
  generalize ec' : (Source.document document').compile T.resolves = x' at compiled
  cases compiled with
  | error => exact outcomes_same (ec.trans ec'.symm)
  | @ok schema schema' swapped =>
    rcases swapped with rfl | ⟨chain, p, t, leads, er⟩
    · exact outcomes_same (ec.trans ec'.symm)
    · apply outcomes_agree
      · intro result ends
        obtain ⟨result', ends', agrees⟩ := t.ends ec ec' ends
        refine ⟨result', ends', agrees.mono ?_⟩
        rintro fault fault' ⟨misfits, reworded⟩
        exact ⟨⟨schema, chain, p, ec, leads, er, misfits⟩, reworded⟩
      · intro result' ends'
        -- The other way round nothing is known of the place, and nothing needs to be.
        obtain ⟨chain', p', back⟩ := t.symm
        obtain ⟨result, ends, _⟩ := back.ends ec' ec ends'
        exact ⟨result, ends⟩

/-- A document with an inner one, of one property with a rule set. -/
def listOf (fields : Record) : Value :=
  .record false [(.text "list", .record false [
    (.text "properties", .record false [(.text "head", .record false fields)])])]

/-- A list whose head is no mapping. -/
def numberList : Value :=
  .record false [(.text "list", .record false [(.text "head", .int 1)])]

/-- A list of nodes may as well have the document of nodes in it, which refers to itself. With a head
that is no mapping it fails at the same place and rule, in other words. -/
theorem unfolded_numberList :
    Unfolds linkedTable ["list", "head"] "node" (listOf [(.text "type", .text "node")])
        (listOf [(.text "properties", linked)]) ∧
      Ends .builtin linkedTable (.document (listOf [(.text "type", .text "node")])) numberList
        (.error (.violated ["list", "head"] .notRecord)) ∧
      Ends .builtin linkedTable (.document (listOf [(.text "properties", linked)])) numberList
        (.error (.violated ["list", "head"] (.notObject "head"))) ∧
      MisfitsAt .builtin linkedTable (listOf [(.text "type", .text "node")]) numberList
        ["list", "head"] "node" := by
  have only : RuleSet.OnlyRefers [(.text "type", .text "node")] := by
    intro field mem
    cases List.mem_singleton.1 mem
    exact .inr rfl
  have wf : WellFormed linkedTable.contains linked := wellFormed_iff.2 ⟨_, rfl⟩
  have head : Unfolds linkedTable ["head"] "node"
      (.record false ([] ++ (.text "head", .record false [(.text "type", .text "node")]) :: []))
      (.record false ([] ++ (.text "head", .record false
        (RuleSet.unfold linked [(.text "type", .text "node")])) :: [])) := .here only rfl rfl wf
  have unfolds : Unfolds linkedTable ["list", "head"] "node"
      (listOf [(.text "type", .text "node")]) (listOf [(.text "properties", linked)]) :=
    @Unfolds.inside linkedTable false [] "list" false _ [] _ _ _ _ rfl head
  have ends : Ends .builtin linkedTable (.document (listOf [(.text "type", .text "node")]))
      numberList (.error (.violated ["list", "head"] .notRecord)) := by
    refine ends_iff.2 ⟨?_, 3, by cbv⟩
    intro e
    cases e
  have ends' : Ends .builtin linkedTable (.document (listOf [(.text "properties", linked)]))
      numberList (.error (.violated ["list", "head"] (.notObject "head"))) := by
    refine ends_iff.2 ⟨?_, 3, by cbv⟩
    intro e
    cases e
  have agrees := (unfolded_outcome unfolds).2 _ _ ends ends'
  cases agrees with
  | differ why => exact ⟨unfolds, ends, ends', why.1⟩

end Outcome

end RecordSchema
