import RecordSchema.Proofs.Acceptance
import RecordSchema.Proofs.Escape
import RecordSchema.Proofs.Location
import RecordSchema.Proofs.Lowercase

/-!
# Sanitizing again

What the built-in transforms have made of a value, they leave alone (`Transform.applyAll_again`), unless
it is an integer that is too large for `toInt` and was read from a text. So a record that was sanitized
stays as it is when it is sanitized again, unless it holds such an integer (`Oversized`), which then ends
the run (`walk_again`, `sanitize_again`). Names have to be distinct and `enum` has to be stated apart from
inner schemas (`PlainEnums`).
-/

namespace RecordSchema

namespace Transform

/-- A value on which a built-in transform has nothing left to do, however the other ones change it. -/
structure Done (name : Text) (v : Value) : Prop where
  trimmed : name = "trim" → ∀ s, v = .text s → Text.Trimmed s.toList
  lowered : name = "toLowerCase" → ∀ s, v = .text s → Text.Lowered s.toList
  numeric : name = "toInt" → (∃ n, v = .int n) ∨ v = notANumber

variable {name other : Text} {f : Transform} {v w : Value}

/-- Of a name that is none of a built-in transform, nothing is left to do. -/
lemma Done.of_ne (trim : name ≠ "trim") (toLowerCase : name ≠ "toLowerCase") (toInt : name ≠ "toInt") :
    Done name v :=
  ⟨fun e => (trim e).elim, fun e => (toLowerCase e).elim, fun e => (toInt e).elim⟩

/-- On a mapping no transform but `toInt` has anything to do. -/
lemma Done.of_mapping {entries} (mapping : v.entries? = some entries) (ne : name ≠ "toInt") :
    Done name v := by
  refine ⟨?_, ?_, fun e => (ne e).elim⟩
  · rintro _ s rfl
    cases mapping
  · rintro _ s rfl
    cases mapping

/-- A value is a text that is rewritten in some way, or stays as it is. -/
inductive Rewrites (g : List Point → List Point) : Value → Value → Prop where
  | text {s} :
    Rewrites g (.text s) (.text (Text.ofList (g s.toList)))
  | other {u} :
    (∀ s, u ≠ .text s) →
    Rewrites g u u

/-- The transform `trim` rewrites texts and leaves other values alone. -/
lemma trim_ok (e : trim v = .ok w) : Rewrites Text.trim v w := by
  cases v <;> cases e
  case text => exact .text
  all_goals exact .other nofun

/-- The transform `toLowerCase` rewrites texts and leaves other values alone. -/
lemma toLowerCase_ok (e : toLowerCase v = .ok w) : Rewrites Text.lower v w := by
  cases v <;> cases e
  case text => exact .text
  all_goals exact .other nofun

/-- What is rewritten in a way that keeps it trimmed or in lower case stays done. -/
lemma Done.rewrite {g} (done : Done name v) (rewrites : Rewrites g v w)
    (trimmed : ∀ cs, Text.Trimmed cs → Text.Trimmed (g cs))
    (lowered : ∀ cs, Text.Lowered cs → Text.Lowered (g cs)) : Done name w := by
  cases rewrites with
  | @text s =>
    refine ⟨?_, ?_, ?_⟩
    · rintro en _ ⟨⟩
      rw [Text.toList_ofList]
      exact trimmed _ (done.trimmed en s rfl)
    · rintro en _ ⟨⟩
      rw [Text.toList_ofList]
      exact lowered _ (done.lowered en s rfl)
    · intro en
      obtain ⟨n, ev⟩ | ev := done.numeric en <;> cases ev
  | other => exact done

/-- The transform `toInt` gives an integer or not-a-number. -/
lemma toInt_ok (e : toInt v = .ok w) : (∃ n, w = .int n) ∨ w = notANumber := by
  unfold toInt at e
  split at e
  · split at e
    · cases e
    · cases e
      exact .inl ⟨_, rfl⟩
  · split at e <;> cases e
    · exact .inl ⟨_, rfl⟩
    · exact .inr rfl
  · split at e <;> cases e
    · exact .inl ⟨_, rfl⟩
    · exact .inr rfl
  · cases e
    exact .inr rfl

/-- A transform is done with what it gives. -/
lemma done_of_step (ef : builtin.get? name = some f) (e : f v = .ok w) : Done name w := by
  obtain ⟨rfl, rfl⟩ | ⟨rfl, rfl⟩ | ⟨rfl, rfl⟩ := builtin_cases ef
  · refine ⟨?_, by simp, by simp⟩
    rintro _ s rfl
    cases trim_ok e with
    | text =>
      rw [Text.toList_ofList]
      exact Text.trimmed_trim
    | other plain => exact (plain s rfl).elim
  · refine ⟨by simp, ?_, by simp⟩
    rintro _ s rfl
    cases toLowerCase_ok e with
    | text =>
      rw [Text.toList_ofList]
      exact Text.lowered_lower
    | other plain => exact (plain s rfl).elim
  · exact ⟨by simp, by simp, fun _ => toInt_ok e⟩

/-- What one transform is done with, it is also done with after another one. -/
lemma Done.step (done : Done name v) (ef : builtin.get? other = some f) (e : f v = .ok w) :
    Done name w := by
  obtain ⟨rfl, rfl⟩ | ⟨rfl, rfl⟩ | ⟨rfl, rfl⟩ := builtin_cases ef
  · exact done.rewrite (trim_ok e) (fun _ _ => Text.trimmed_trim) fun _ => Text.Lowered.trim
  · exact done.rewrite (toLowerCase_ok e) (fun _ => Text.Trimmed.lower) fun _ _ => Text.lowered_lower
  · obtain ⟨n, rfl⟩ | rfl := toInt_ok e
    · exact ⟨nofun, nofun, fun _ => .inl ⟨n, rfl⟩⟩
    · exact ⟨nofun, nofun, fun _ => .inr rfl⟩

/-- What a transform is done with, it is also done with after a row of others. -/
lemma Done.applyAll {names : List Text} (done : Done name v)
    (e : applyAll builtin names v = .ok w) : Done name w := by
  induction names generalizing v with
  | nil =>
    cases e
    exact done
  | cons first rest ih =>
    obtain ⟨_, e⟩ | ⟨f, u, ef, eu, e⟩ := Assertion.applyAll_cons_ok e
    · exact ih done e
    · exact ih (done.step ef eu) e

/-- Each of a row of transforms is done with what they give. -/
lemma applyAll_done {names : List Text} (e : applyAll builtin names v = .ok w) :
    ∀ name ∈ names, Done name w := by
  induction names generalizing v with
  | nil => nofun
  | cons first rest ih =>
    obtain ⟨none, e⟩ | ⟨f, u, ef, eu, e⟩ := Assertion.applyAll_cons_ok e
    · refine List.forall_mem_cons.2 ⟨.of_ne ?_ ?_ ?_, ih e⟩ <;>
        · rintro rfl
          cases none
    · exact List.forall_mem_cons.2 ⟨(done_of_step ef eu).applyAll e, ih e⟩

/-- A transform leaves a value alone that it is done with, unless it is too large for `toInt`. -/
lemma Done.fixed (done : Done name v) (ef : builtin.get? name = some f) :
    f v = .ok v ∨ name = "toInt" ∧ ∃ n, v = .int n ∧ Double.overflows n = true := by
  obtain ⟨rfl, rfl⟩ | ⟨rfl, rfl⟩ | ⟨rfl, rfl⟩ := builtin_cases ef
  · refine .inl ?_
    cases v with
    | text s => rw [trim, Text.trim_of_trimmed (done.trimmed rfl s rfl), Text.ofList_toList]
    | _ => rfl
  · refine .inl ?_
    cases v with
    | text s =>
      rw [toLowerCase, Text.lower, Text.lower_of_lowered (done.lowered rfl s rfl),
        Text.ofList_toList]
    | _ => rfl
  · obtain ⟨n, rfl⟩ | rfl := done.numeric rfl
    · by_cases large : Double.overflows n = true
      · exact .inr ⟨rfl, n, rfl, large⟩
      · rw [toInt, if_neg large]
        exact .inl rfl
    · exact .inl rfl

/-- Transforms leave a value alone that they are done with, unless it is too large for `toInt`. -/
lemma applyAll_again {names : List Text} (done : ∀ name ∈ names, Done name v) :
    applyAll builtin names v = .ok v ∨
      ("toInt" : Text) ∈ names ∧ ∃ n, v = .int n ∧ Double.overflows n = true := by
  induction names with
  | nil => exact .inl rfl
  | cons first rest ih =>
    obtain ⟨here, others⟩ := List.forall_mem_cons.1 done
    obtain again | ⟨mem, large⟩ := ih others
    · rw [applyAll]
      cases ef : builtin.get? first with
      | none => exact .inl again
      | some f =>
        obtain same | ⟨rfl, large⟩ := here.fixed ef
        · dsimp only
          rw [same]
          exact .inl again
        · exact .inr ⟨List.mem_cons_self, large⟩
    · exact .inr ⟨List.mem_cons_of_mem _ mem, large⟩

/-- Transforms that give a mapping leave all mappings alone. -/
lemma applyAll_mapping {names : List Text} {u entries entries'}
    (e : applyAll builtin names v = .ok w) (mapping : w.entries? = some entries)
    (mapping' : u.entries? = some entries') : applyAll builtin names u = .ok u := by
  have done := applyAll_done e
  have free : ∀ name ∈ names, name ≠ "toInt" := by
    rintro name mem rfl
    obtain ⟨n, rfl⟩ | rfl := (done _ mem).numeric rfl <;> cases mapping
  obtain same | ⟨mem, _⟩ := applyAll_again fun name mem => Done.of_mapping mapping' (free name mem)
  · exact same
  · exact (free _ mem rfl).elim

/-- Transforms with `toInt` among them stop a run for an integer that is too large for it. -/
lemma applyAll_overflows {names : List Text} {n} (mem : ("toInt" : Text) ∈ names)
    (large : Double.overflows n = true) :
    applyAll builtin names (.int n) = .error (.mishap .integerTooLarge) := by
  induction names with
  | nil => cases mem
  | cons first rest ih =>
    rw [applyAll]
    cases ef : builtin.get? first with
    | none =>
      rcases List.mem_cons.1 mem with rfl | mem
      · cases ef
      · exact ih mem
    | some f =>
      obtain ⟨rfl, rfl⟩ | ⟨rfl, rfl⟩ | ⟨rfl, rfl⟩ := builtin_cases ef
      · exact ih (List.mem_of_ne_of_mem (by decide) mem)
      · exact ih (List.mem_of_ne_of_mem (by decide) mem)
      · simp only [toInt, large, if_true]

end Transform

/-- The built-in rules but `enum` do not tell one mapping from another. -/
lemma Rule.builtin_mapping {name holds v w entries entries' argument}
    (eh : Rule.builtin.get? name = some holds) (ne : name ≠ "enum")
    (ev : Value.entries? v = some entries) (ew : Value.entries? w = some entries') :
    holds v argument = holds w argument := by
  cases v with
  | record =>
    cases w with
    | record =>
      obtain ⟨rfl, rfl⟩ | ⟨rfl, rfl⟩ | ⟨rfl, rfl⟩ | ⟨rfl, rfl⟩ | ⟨rfl, rfl⟩ | ⟨rfl, rfl⟩ |
        ⟨rfl, rfl⟩ | ⟨rfl, rfl⟩ | ⟨rfl, rfl⟩ := Rule.builtin_cases eh
      case inr.inr.inr.inr.inr.inr.inr.inl => exact (ne rfl).elim
      all_goals rfl
    | _ => cases ew
  | _ => cases ev

/-- On every level of a schema document, the rule `enum` is only stated where there is no inner
schema. -/
inductive PlainEnums (named : Text → Bool) : Value → Prop where
  | intro {frozen entries} :
    (∀ key frozen fields document argument, (key, .record frozen fields) ∈ entries →
      RuleSet.target? named fields = none → RuleSet.inner? fields = some document →
      ¬RuleSet.States fields "enum" argument) →
    (∀ key frozen fields document, (key, .record frozen fields) ∈ entries →
      RuleSet.target? named fields = none → RuleSet.inner? fields = some document →
      PlainEnums named document) →
    PlainEnums named (.record frozen entries)

namespace Assertion

variable {T : Table}

/-- A schema is compiled from a document with distinct names, and with `enum` apart from inner
schemas. -/
def Repeatable (T : Table) (schema : Schema) : Prop :=
  ∃ document, Schema.compile (.total T.contains) document = .ok schema ∧
    DistinctNames T.contains document ∧ PlainEnums T.contains document

/-- The names of a repeatable schema are distinct. -/
lemma Repeatable.nodup {schema} (r : Repeatable T schema) :
    (schema.map Property.name).Nodup := by
  obtain ⟨_, ec, distinct, _⟩ := r
  obtain ⟨_, _, rfl, all⟩ := Schema.compile_ok_iff.1 ec
  cases distinct with
  | intro nodup => rwa [Schema.names_eq all]

/-- A property that descends into its value does not state `enum`. -/
lemma Repeatable.enum {schema p} (r : Repeatable T schema) (mem : p ∈ schema)
    (nested : p.nesting ≠ .plain) {rule} (stated : rule ∈ p.rules) : rule.1 ≠ "enum" := by
  obtain ⟨_, ec, _, plain⟩ := r
  obtain ⟨_, _, rfl, all⟩ := Schema.compile_ok_iff.1 ec
  obtain ⟨_, within, ⟨c⟩⟩ := exists_left_of_mem all mem
  cases plain with
  | intro free =>
    cases c with
    | reference => cases stated
    | inline _ _ et ei =>
      obtain ⟨name, argument⟩ := rule
      rintro rfl
      exact free _ _ _ _ argument within et ei (Schema.mem_rulesOf_iff.1 stated)
    | plain => exact (nested rfl).elim

/-- A property descends into its value with a schema of the same kind. -/
lemma Repeatable.descends {schema p v schema?} (r : Repeatable T schema)
    (distincts : T.All (DistinctNames T.contains)) (plains : T.All (PlainEnums T.contains))
    (mem : p ∈ schema) (d : Descends T p v schema?) :
    ∃ inner, schema? = some inner ∧ Repeatable T inner := by
  obtain ⟨document, ec, distinct, plain⟩ := r
  obtain ⟨_, _, rfl, all⟩ := Schema.compile_ok_iff.1 ec
  obtain ⟨_, within, ⟨c⟩⟩ := exists_left_of_mem all mem
  cases distinct with
  | intro _ distinct =>
    cases plain with
    | intro _ plain =>
      cases c with
      | reference _ er =>
        cases d with
        | reference en es =>
          cases en
          have named := (RuleSet.of_target? er).2
          obtain ⟨_, inner, eg, ec, rfl⟩ := Table.schema?_of_contains named es
          exact ⟨inner, rfl, _, ec, distincts _ _ eg, plains _ _ eg⟩
        | inline en => cases en
      | inline _ _ et ei ec =>
        cases d with
        | reference en => cases en
        | inline en =>
          cases en
          exact ⟨_, rfl, _, ec, distinct _ _ _ _ within et ei, plain _ _ _ _ within et ei⟩
      | plain =>
        cases d with
        | reference en => cases en
        | inline en => cases en

/-- A record holds, below some properties, an integer that is too large for `toInt` under the name of a
property with that transform. -/
inductive Oversized (T : Table) : Schema → Record → List Property → Prop where
  | here {schema record p n} :
    p ∈ schema →
    ("toInt" : Text) ∈ p.transforms →
    Record.get? record p.name = some (.int n) →
    Double.overflows n = true →
    Oversized T schema record []
  | nested {schema record q v entries inner chain} :
    q ∈ schema →
    Record.get? record q.name = some v →
    v.entries? = some entries →
    Descends T q v (some inner) →
    Oversized T inner entries chain →
    Oversized T schema record (q :: chain)

/-- A fault is that of `toInt` on an integer that a record holds below some properties. -/
def Overflows (T : Table) (schema : Schema) (record : Record) (fault : Fault) : Prop :=
  ∃ chain, Oversized T schema record chain ∧
    fault = (Fault.mishap .integerTooLarge).beneath chain

/-- A property descends into a value with one schema only. -/
lemma Descends.unique {p : Property} {v schema? schema?'} (d : Descends T p v schema?)
    (d' : Descends T p v schema?') : schema? = schema?' := by
  cases d with
  | reference en es =>
    cases d' with
    | reference en' es' =>
      cases en.symm.trans en'
      exact Except.ok.inj (es.symm.trans es')
    | inline en' => cases en.symm.trans en'
  | inline en =>
    cases d' with
    | reference en' => cases en.symm.trans en'
    | inline en' =>
      cases en.symm.trans en'
      rfl

/-- A property that descends into a value descends into every mapping with the same schema. -/
lemma Descends.mapping {p : Property} {v w schema? entries} (d : Descends T p v schema?)
    (mapping : w.entries? = some entries) : Descends T p w schema? := by
  cases d with
  | reference en es => exact .reference en es
  | inline en _ => exact .inline en mapping

/-- Only a mapping is walked to a record. -/
lemma walk_entries {F : Functions} {budget schema? v record}
    (e : walk (tableServices T) F budget schema? v = .ok record) :
    ∃ entries, v.entries? = some entries := by
  cases budget with
  | zero => cases e
  | succ budget =>
    cases en : v.entries? with
    | none =>
      rw [walk_succ, level_notRecord en] at e
      cases e
    | some entries => exact ⟨entries, rfl⟩

/-- A row of properties that each leave a record as it is, or fail in some way, leaves it as it is or
fails in that way. -/
lemma row_again {F : Functions} {next : Descent} {P : Fault → Prop} {properties : Schema} {record}
    (each : ∀ p ∈ properties, step (tableServices T) F next record p = .ok record ∨
      ∃ fault, step (tableServices T) F next record p = .error fault ∧ P fault) :
    List.foldlM (step (tableServices T) F next) record properties = .ok record ∨
      ∃ fault, List.foldlM (step (tableServices T) F next) record properties = .error fault ∧
        P fault := by
  induction properties with
  | nil => exact .inl rfl
  | cons p rest ih =>
    rw [List.foldlM_cons]
    obtain ⟨here, others⟩ := List.forall_mem_cons.1 each
    obtain same | ⟨fault, e, holds⟩ := here
    · rw [same]
      exact ih others
    · exact .inr ⟨fault, bind_error_iff.2 (.inl e), holds⟩

section Again

variable (distincts : T.All (DistinctNames T.contains)) (plains : T.All (PlainEnums T.contains))
  {next : Descent}
  (mappings : ∀ {schema? w record}, next schema? w = .ok record →
    ∃ entries, w.entries? = some entries)
  (again : ∀ {schema w record}, Repeatable T schema → next (some schema) w = .ok record →
    next (some schema) (.record false record) = .ok record ∨
      ∃ fault, next (some schema) (.record false record) = .error fault ∧
        Overflows T schema record fault)

include distincts plains mappings again

/-- What a property settles a value as, it settles as itself, unless it holds an integer that is too
large for `toInt`. -/
lemma settle_again {schema p v x record} (r : Repeatable T schema) (mem : p ∈ schema)
    (held : Record.get? record p.name = some x) (e : settle .builtin T next p v = .ok x) :
    settle .builtin T next p x = .ok x ∨
      ∃ fault, settle .builtin T next p x = .error fault ∧ Overflows T schema record fault := by
  obtain ⟨w, et, ed, hold⟩ := settle_ok_iff.1 e
  obtain ⟨plain, rfl⟩ | ⟨schema?, inside, d, en, rfl⟩ := descend_ok_iff.1 ed
  · have done := Transform.applyAll_done et
    obtain same | ⟨toInt, n, rfl, large⟩ := Transform.applyAll_again done
    · exact .inl (settle_ok_iff.2 ⟨x, same, ed, hold⟩)
    · have raises := Transform.applyAll_overflows toInt large
      refine .inr ⟨_, settle_error_iff.2 (.transform raises), [], ?_, rfl⟩
      exact .here mem toInt held large
  · obtain ⟨inner, rfl, inner_r⟩ := r.descends distincts plains mem d
    obtain ⟨entries, mapping⟩ := mappings en
    have same : Transform.applyAll Transform.builtin p.transforms (.record false inside) =
        .ok (.record false inside) :=
      Transform.applyAll_mapping et mapping rfl
    have d' : Descends T p (.record false inside) (some inner) := d.mapping rfl
    have hold : ∀ rule ∈ p.rules, Holds Functions.builtin.rules (.record false inside) rule := by
      intro rule stated
      obtain ⟨holds, eh, ok⟩ := hold rule stated
      have ne := r.enum mem d.ne_plain stated
      exact ⟨holds, eh, (Rule.builtin_mapping eh ne rfl mapping).trans ok⟩
    obtain en' | ⟨fault, ef, chain, oversized, rfl⟩ := again inner_r en
    · exact .inl (settle_ok_iff.2 ⟨_, same, descend_ok_iff.2 (.inr ⟨_, _, d', en', rfl⟩), hold⟩)
    · refine .inr ⟨_, settle_error_iff.2 (.descent same (.nested d' ef)), p :: chain, ?_, rfl⟩
      exact .nested mem held rfl d' oversized

/-- A property that a record has been settled with leaves it as it is, unless it holds an integer that
is too large for `toInt`. -/
lemma step_again {schema p old record} (r : Repeatable T schema) (mem : p ∈ schema)
    (settles : Settles .builtin T next p old (Record.get? record p.name)) :
    step (tableServices T) .builtin next record p = .ok record ∨
      ∃ fault, step (tableServices T) .builtin next record p = .error fault ∧
        Overflows T schema record fault := by
  generalize held : Record.get? record p.name = new at settles
  cases settles with
  | absent optional => exact .inl (step_ok_iff.2 (.inl ⟨held, optional, rfl⟩))
  | present es =>
    obtain same | ⟨fault, ef, overflows⟩ :=
      settle_again distincts plains mappings again r mem held es
    · exact .inl (step_ok_iff.2 (.inr ⟨_, _, held, same, (Record.set_get? held).symm⟩))
    · exact .inr ⟨fault, step_error_iff.2 (.inr ⟨_, held, ef⟩), overflows⟩

end Again

/-- A record that a walk gives, it gives again, unless the record holds an integer that is too large
for `toInt`. -/
lemma walk_again (distincts : T.All (DistinctNames T.contains))
    (plains : T.All (PlainEnums T.contains)) {budget schema v record} (r : Repeatable T schema)
    (e : walk (tableServices T) .builtin budget (some schema) v = .ok record) :
    walk (tableServices T) .builtin budget (some schema) (.record false record) = .ok record ∨
      ∃ fault, walk (tableServices T) .builtin budget (some schema) (.record false record) =
        .error fault ∧ Overflows T schema record fault := by
  induction budget generalizing schema v record with
  | zero => cases e
  | succ budget ih =>
    obtain ⟨entries, mapping⟩ := walk_entries e
    rw [walk_succ, level_record mapping] at e
    rw [walk_succ, level_record rfl]
    apply row_again
    intro p mem
    exact step_again distincts plains walk_entries ih r mem (row_settles e r.nodup p mem)

/-- A walk that gives a record meets no integer that is too large for `toInt`. -/
lemma not_oversized (distincts : T.All (DistinctNames T.contains))
    (plains : T.All (PlainEnums T.contains)) {budget schema v record result chain}
    (r : Repeatable T schema) (mapping : v.entries? = some record)
    (e : walk (tableServices T) .builtin budget (some schema) v = .ok result) :
    ¬Oversized T schema record chain := by
  intro oversized
  induction oversized generalizing budget v result with
  | @here _ _ p n mem toInt held large =>
    cases budget with
    | zero => cases e
    | succ budget =>
      -- The property has been settled, which it could not be with an integer that large.
      rw [walk_succ, level_record mapping] at e
      have settles := row_settles e r.nodup p mem
      rw [held] at settles
      generalize Record.get? result p.name = new at settles
      cases settles with
      | present es =>
        obtain ⟨w, et, _⟩ := settle_ok_iff.1 es
        cases et.symm.trans (Transform.applyAll_overflows toInt large)
  | @nested _ _ q w entries inner chain mem held mapping' d _ ih =>
    cases budget with
    | zero => cases e
    | succ budget =>
      rw [walk_succ, level_record mapping] at e
      have settles := row_settles e r.nodup q mem
      rw [held] at settles
      generalize Record.get? result q.name = new at settles
      cases settles with
      | present es =>
        obtain ⟨w', et, ed, _⟩ := settle_ok_iff.1 es
        obtain ⟨plain, _⟩ | ⟨schema?, inside, d', en, _⟩ := descend_ok_iff.1 ed
        · exact (d.ne_plain plain).elim
        · -- Transforms that give a mapping have left the one that is there alone.
          obtain ⟨_, mapping''⟩ := walk_entries en
          cases et.symm.trans (Transform.applyAll_mapping et mapping'' mapping')
          obtain ⟨inner', rfl, inner_r⟩ := r.descends distincts plains mem d'
          cases d.unique d'
          exact ih inner_r mapping' en

/-- With distinct names, and with `enum` apart from inner schemas, sanitizing a sanitized record gives
exactly that record, unless it holds an integer that is too large for `toInt` where that is applied.
Then it is the overflow that ends the run, as it is seen from outside of the properties that lead
there. -/
theorem sanitize_again {document v record} (distinct : DistinctNames T.contains document)
    (distincts : T.All (DistinctNames T.contains)) (plain : PlainEnums T.contains document)
    (plains : T.All (PlainEnums T.contains))
    (e : sanitize .builtin T (.document document) v = .ok record) :
    ∃ schema, Schema.compile T.resolves document = .ok schema ∧
      (sanitize .builtin T (.document document) (.record false record) = .ok record ↔
        ∀ chain, ¬Oversized T schema record chain) ∧
      ((∃ chain, Oversized T schema record chain) → ∃ chain, Oversized T schema record chain ∧
        sanitize .builtin T (.document document) (.record false record) =
          .error ((Fault.mishap .integerTooLarge).beneath chain)) := by
  obtain ⟨schema, ec, ew⟩ := sanitizeWithin_ok_iff.1 e
  have r : Repeatable T schema := ⟨document, ec, distinct, plain⟩
  -- The record is no deeper than the value, so the budget of the value is enough for it too.
  have run : sanitize .builtin T (.document document) (.record false record) =
      walk (tableServices T) .builtin (budgetFor v) (some schema) (.record false record) := by
    have shallow := walk_depth_le builtin_keepsDepth _ _ _ ew
    obtain ⟨more, enough⟩ : ∃ more, budgetFor v = budgetFor (.record false record) + more := by
      apply Nat.exists_eq_add_of_le
      unfold budgetFor
      omega
    rw [sanitize, sanitizeWithin_eq ec, enough]
    exact walk_stable builtin_keepsDepth depth_lt_budgetFor more
  have once : ∀ chain, sanitize .builtin T (.document document) (.record false record) = .ok record →
      ¬Oversized T schema record chain := by
    intro chain e
    exact not_oversized distincts plains r rfl (run.symm.trans e)
  refine ⟨schema, ec, ⟨fun e chain => once chain e, ?_⟩, ?_⟩
  · intro fits
    rw [run]
    obtain same | ⟨_, _, chain, oversized, _⟩ := walk_again distincts plains r ew
    · exact same
    · exact (fits chain oversized).elim
  · rintro ⟨chain, oversized⟩
    obtain same | ⟨_, ef, chain, there, rfl⟩ := walk_again distincts plains r ew
    · exact (once chain (run.trans same) oversized).elim
    · exact ⟨chain, there, run.trans ef⟩

/-- A document of persons, who may have an age and a child. -/
def person : Value :=
  .record false [
    (.text "name", .record false [
      (.text "transform", .tuple [.text "trim", .text "toLowerCase"]), (.text "type", .text "string")]),
    (.text "age?", .record false [(.text "transform", .list [.text "toInt"])]),
    (.text "child?", .record false [(.text "type", .text "person")])]

/-- The table with that document. -/
def personTable : Table :=
  ⟨[(.text "person", person)]⟩

/-- What the document compiles to. -/
def personSchema : Schema :=
  [⟨"name", false, ["trim", "toLowerCase"], .plain, [("type", .text "string")]⟩,
    ⟨"age", true, ["toInt"], .plain, []⟩, ⟨"child", true, [], .reference "person", []⟩]

/-- A person with a child, and with an age that is a text. -/
def mother : Value :=
  .record false [
    (.text "age", .text " 36 years"),
    (.text "child", .record true [(.text "name", .text "Byron\t")]),
    (.text "name", .text "ADA")]

/-- The record in lower case, the number read. -/
def sanitizedMother : Record :=
  [(.text "age", .int 36), (.text "child", .record false [(.text "name", .text "byron")]),
    (.text "name", .text "ada")]

/-- A document without inner documents has distinct names when the ones at the top are, and states
`enum` nowhere near one. -/
lemma flat_sound {named frozen entries} (nodup : (Schema.entryNames entries).Nodup)
    (flat : ∀ entry ∈ entries, ∀ frozen fields, entry.2 = Value.record frozen fields →
      RuleSet.inner? fields = none) :
    DistinctNames named (.record frozen entries) ∧ PlainEnums named (.record frozen entries) := by
  have none : ∀ {key frozen fields document}, (key, .record frozen fields) ∈ entries →
      RuleSet.inner? fields ≠ some document := by
    intro key frozen fields document mem ei
    cases (flat _ mem frozen fields rfl).symm.trans ei
  refine ⟨.of_flat nodup flat, .intro ?_ ?_⟩
  · exact fun _ _ _ _ _ mem _ ei => (none mem ei).elim
  · exact fun _ _ _ _ mem _ ei => (none mem ei).elim

/-- What a person or a child of a person holds is not too large. -/
lemma not_oversized_person {record chain}
    (small : ∀ n, Record.get? record "age" = some (.int n) → Double.overflows n = false)
    (below : ∀ v entries chain, Record.get? record "child" = some v → v.entries? = some entries →
      ¬Oversized personTable personSchema entries chain) :
    ¬Oversized personTable personSchema record chain := by
  intro oversized
  cases oversized with
  | @here _ _ p n mem toInt held large =>
    simp only [personSchema, List.mem_cons, List.not_mem_nil, or_false] at mem
    rcases mem with rfl | rfl | rfl
    · simp at toInt
    · cases large.symm.trans (small n held)
    · cases toInt
  | nested mem held mapping d deep =>
    simp only [personSchema, List.mem_cons, List.not_mem_nil, or_false] at mem
    rcases mem with rfl | rfl | rfl
    · exact d.ne_plain rfl
    · exact d.ne_plain rfl
    · have compiled : personTable.schema? "person" = .ok (some personSchema) := rfl
      cases d.unique (.reference rfl compiled)
      exact below _ _ _ held mapping deep

/-- A sanitized person stays as it is when it is sanitized again. -/
theorem sanitize_again_mother :
    DistinctNames personTable.contains person ∧ personTable.All (DistinctNames personTable.contains) ∧
      PlainEnums personTable.contains person ∧ personTable.All (PlainEnums personTable.contains) ∧
      sanitize .builtin personTable (.document person) mother = .ok sanitizedMother ∧
      (∀ chain, ¬Oversized personTable personSchema sanitizedMother chain) ∧
      sanitize .builtin personTable (.document person) (.record false sanitizedMother) =
        .ok sanitizedMother := by
  obtain ⟨distinct, plain⟩ : DistinctNames personTable.contains person ∧
      PlainEnums personTable.contains person := by
    apply flat_sound (by decide)
    intro entry mem frozen fields e
    simp only [List.mem_cons, List.not_mem_nil, or_false] at mem
    rcases mem with rfl | rfl | rfl <;> cases e <;> rfl
  have distincts : personTable.All (DistinctNames personTable.contains) :=
    Table.all_singleton distinct
  have plains : personTable.All (PlainEnums personTable.contains) :=
    Table.all_singleton plain
  have sanitized : sanitize .builtin personTable (.document person) mother = .ok sanitizedMother :=
    rfl
  have fits : ∀ chain, ¬Oversized personTable personSchema sanitizedMother chain := by
    intro chain
    apply not_oversized_person
    · rintro n ⟨⟩
      decide +kernel
    · -- The child has neither an age nor a child.
      rintro _ _ chain ⟨⟩ ⟨⟩
      exact not_oversized_person nofun nofun
  obtain ⟨schema, ec, again, _⟩ := sanitize_again distinct distincts plain plains sanitized
  have compiled : Schema.compile personTable.resolves person = .ok personSchema := rfl
  cases compiled.symm.trans ec
  exact ⟨distinct, distincts, plain, plains, sanitized, fits, again.2 fits⟩

/-- A document that wants an integer. -/
def counts : Value :=
  .record false [(.text "x", .record false [(.text "transform", .list [.text "toInt"])])]

/-- What the document compiles to. -/
def countsSchema : Schema :=
  [⟨"x", false, ["toInt"], .plain, []⟩]

/-- A one and more zeros than the greatest finite number has digits. -/
def manyDigits : List Point :=
  '1' :: List.replicate 309 '0'

/-- The text of the example starts with a large power of ten. -/
lemma leadingInteger_manyDigits : Text.leadingInteger manyDigits = .integer (10 ^ 309) := by
  decide +kernel

/-- That power of ten is too large for a binary64 number. -/
lemma overflows_manyDigits : Double.overflows (10 ^ 309) = true := by
  decide +kernel

/-- The example reports the integer that `toInt` makes of its text. -/
lemma sanitize_counts {v n} (e : Transform.toInt v = .ok (.int n)) :
    sanitize .builtin ⟨[]⟩ (.document counts) (.record false [(.text "x", v)]) =
      .ok [(.text "x", .int n)] := by
  have compiled : (Source.document counts).compile (Table.resolves ⟨[]⟩) = .ok countsSchema := rfl
  have found : Functions.builtin.transforms.get? "toInt" = some Transform.toInt := rfl
  have transformed : Transform.applyAll Functions.builtin.transforms ["toInt"] v = .ok (.int n) := by
    simp only [Transform.applyAll, found, e]
  rw [sanitize, sanitizeWithin_eq compiled, budgetFor, Nat.succ_add, walk_succ, level_record rfl]
  refine bind_ok_iff.2 ⟨_, step_ok_iff.2 (.inr ⟨v, .int n, rfl, ?_, rfl⟩), rfl⟩
  exact settle_ok_iff.2 ⟨_, transformed, rfl, List.forall_mem_nil _⟩

/-- Sanitizing need not be idempotent: an integer that is read from a text may be too large for `toInt`
to be read again. -/
theorem not_idempotent_manyDigits :
    DistinctNames (Table.contains ⟨[]⟩) counts ∧ Table.All ⟨[]⟩ (DistinctNames (Table.contains ⟨[]⟩)) ∧
      PlainEnums (Table.contains ⟨[]⟩) counts ∧ Table.All ⟨[]⟩ (PlainEnums (Table.contains ⟨[]⟩)) ∧
      sanitize .builtin ⟨[]⟩ (.document counts)
          (.record false [(.text "x", .text (Text.ofList manyDigits))]) =
        .ok [(.text "x", .int (10 ^ 309))] ∧
      sanitize .builtin ⟨[]⟩ (.document counts) (.record false [(.text "x", .int (10 ^ 309))]) =
        .error (.mishap .integerTooLarge) := by
  obtain ⟨distinct, plain⟩ : DistinctNames (Table.contains ⟨[]⟩) counts ∧
      PlainEnums (Table.contains ⟨[]⟩) counts := by
    apply flat_sound (by decide)
    intro entry mem frozen fields e
    simp only [List.mem_cons, List.not_mem_nil, or_false] at mem
    subst mem
    cases e
    rfl
  refine ⟨distinct, nofun, plain, nofun, ?_, ?_⟩
  · apply sanitize_counts
    rw [Transform.toInt, Text.toList_ofList, leadingInteger_manyDigits]
  · -- The integer is raised about at the property of the document itself.
    have escapes : Escapes ⟨[]⟩ counts (.record false [(.text "x", .int (10 ^ 309))])
        .integerTooLarge := by
      refine ⟨countsSchema, _, ⟨"x", false, ["toInt"], .plain, []⟩, _, rfl, rfl,
        @Reaches.here _ _ [] _ [] _ _ ⟨0, rfl⟩, ?_⟩
      exact @Uncaught.transform _ _ _ [] [] _ _ rfl rfl rfl (.integer overflows_manyDigits)
    exact (sanitize_escapes_iff.2 escapes).1

end Assertion

end RecordSchema
