import RecordSchema.Proofs.Record
import RecordSchema.Schema.Table

/-!
# Schema documents

What a rule set says, read off the document itself (`RuleSet.target?`, `RuleSet.inner?`,
`RuleSet.transforms`, `RuleSet.States`), when a document is well formed (`WellFormed`), and what
compiling has to do with both: `compile_ok_iff` and `compileRuleSet_ok_iff` take a compiled schema
apart entry by entry, and `wellFormed_iff` says that the well-formed documents are those that
compile.
-/

namespace RecordSchema

section Forall₂

variable {α β : Type} {R : α → β → Prop}

/-- Every member on the left of a pointwise relation has a related one on the right. -/
lemma exists_right_of_mem {xs ys} (all : List.Forall₂ R xs ys) {x} (mem : x ∈ xs) :
    ∃ y ∈ ys, R x y := by
  induction all with
  | nil => cases mem
  | @cons a b _ _ rel _ ih =>
    rcases List.mem_cons.1 mem with rfl | mem
    · exact ⟨b, List.mem_cons_self, rel⟩
    · obtain ⟨y, my, ry⟩ := ih mem
      exact ⟨y, List.mem_cons_of_mem _ my, ry⟩

/-- What stands on the right of related lists is related to something on the left. -/
lemma exists_left_of_mem {xs ys} (all : List.Forall₂ R xs ys) {y} (mem : y ∈ ys) :
    ∃ x ∈ xs, R x y :=
  exists_right_of_mem (R := flip R) (List.Forall₂.flip all) mem

/-- A list whose members are all related to something is related to a list pointwise. -/
lemma exists_forall₂ {xs : List α} (each : ∀ x ∈ xs, ∃ y, R x y) :
    ∃ ys, List.Forall₂ R xs ys := by
  induction xs with
  | nil => exact ⟨[], .nil⟩
  | cons x rest ih =>
    obtain ⟨y, rel⟩ := each x List.mem_cons_self
    obtain ⟨ys, all⟩ := ih fun x mem => each x (List.mem_cons_of_mem _ mem)
    exact ⟨y :: ys, .cons rel all⟩

/-- Two relations that hold pointwise hold together. -/
lemma forall₂_and {S : α → β → Prop} {xs ys} (first : List.Forall₂ R xs ys)
    (second : List.Forall₂ S xs ys) : List.Forall₂ (fun x y => R x y ∧ S x y) xs ys := by
  induction first with
  | nil => exact .nil
  | cons rel _ ih =>
    cases second with
    | cons rel' second => exact .cons ⟨rel, rel'⟩ (ih second)

/-- Lists related through a third one are related pointwise through its members. -/
lemma forall₂_trans {γ : Type} {S : β → γ → Prop} {xs ys zs} (first : List.Forall₂ R xs ys)
    (second : List.Forall₂ S ys zs) : List.Forall₂ (fun x z => ∃ y, R x y ∧ S y z) xs zs := by
  induction first generalizing zs with
  | nil =>
    cases second
    exact .nil
  | cons rel _ ih =>
    cases second with
    | cons rel' second => exact .cons ⟨_, rel, rel'⟩ (ih second)

/-- Lists that are related to a third one pointwise are related pointwise when members that are related
to one of its members are. -/
lemma forall₂_across {γ : Type} {S : α → γ → Prop} {P : β → γ → Prop} {xs ys zs}
    (left : List.Forall₂ R xs ys) (right : List.Forall₂ S xs zs)
    (each : ∀ x ∈ xs, ∀ y z, R x y → S x z → P y z) : List.Forall₂ P ys zs := by
  induction left generalizing zs with
  | nil =>
    cases right
    exact .nil
  | cons rel _ ih =>
    obtain ⟨here, others⟩ := List.forall_mem_cons.1 each
    cases right with
    | cons rel' right => exact .cons (here _ _ rel rel') (ih right others)

/-- Members of two lists that share something have a list of what they share. -/
lemma exists_shared {γ : Type} {S : α → γ → Prop} {S' : β → γ → Prop} {xs ys}
    (all : List.Forall₂ (fun x y => ∃ z, S x z ∧ S' y z) xs ys) :
    ∃ zs, List.Forall₂ S xs zs ∧ List.Forall₂ S' ys zs := by
  induction all with
  | nil => exact ⟨[], .nil, .nil⟩
  | cons shared _ ih =>
    obtain ⟨z, left, right⟩ := shared
    obtain ⟨zs, lefts, rights⟩ := ih
    exact ⟨z :: zs, .cons left lefts, .cons right rights⟩

end Forall₂

/-- The key of a required property is its name. -/
lemma splitKey_required {key} (required : (splitKey key).2 = false) : (splitKey key).1 = key := by
  unfold splitKey at required ⊢
  split at required
  · split at required
    · cases required
    · rw [if_neg ‹_›]
  · rfl

/-- A property has the key that it is compiled from. -/
lemma key_splitKey {key transforms nesting rules} :
    Property.key ⟨(splitKey key).1, (splitKey key).2, transforms, nesting, rules⟩ = key := by
  cases required : (splitKey key).2 with
  | false =>
    rw [Property.key, if_neg Bool.false_ne_true]
    exact splitKey_required required
  | true =>
    rw [Property.key, if_pos rfl]
    unfold splitKey at required ⊢
    cases e : key.toList.reverse with
    | nil => simp [e] at required
    | cons c rest =>
      have spelled : key.toList = rest.reverse ++ [c] := by
        rw [← List.reverse_reverse key.toList, e, List.reverse_cons]
      by_cases mark : c = optionalMark
      · apply Text.toList_injective
        simp [spelled, mark]
      · simp [e, mark] at required

/-- The resolver of a set of names, which can always be asked. -/
def Resolver.total (named : Text → Bool) : Resolver := fun name =>
  .ok (named name)

namespace RuleSet

/-- The named schema that a rule set refers to. -/
def target? (named : Text → Bool) (fields : Record) : Option Text :=
  match Record.get? fields "type" with
  | some (.text name) => if named name then some name else none
  | _ => none

/-- The name that a rule set refers to is its `type`, and is one that resolves. -/
lemma of_target? {named fields target} (e : target? named fields = some target) :
    Record.get? fields "type" = some (.text target) ∧ named target = true := by
  unfold target? at e
  split at e
  · split at e
    · cases e
      exact ⟨‹_›, ‹_›⟩
    · cases e
  · cases e

/-- The document of the inner schema of a rule set; nothing counts as none. -/
def inner? (fields : Record) : Option Value :=
  match Record.get? fields "properties" with
  | some .null => none
  | found => found

/-- The names of the transforms of a rule set. -/
def transforms (fields : Record) : List Text :=
  match Record.get? fields "transform" with
  | some (.list items) => Schema.textItems items
  | some (.tuple items) => Schema.textItems items
  | _ => []

/-- A rule set states a rule with an argument: its key is neither of the other reserved ones. -/
def States (fields : Record) (name : Text) (argument : Value) : Prop :=
  (.text name, argument) ∈ fields ∧ name ≠ "transform" ∧ name ≠ "properties"

/-- The transforms of a rule set count as false or are a list or tuple of names. -/
def NamesTransforms (fields : Record) : Prop :=
  ∀ v, Record.get? fields "transform" = some v → v.truthy = true →
    ∃ items, (v = .list items ∨ v = .tuple items) ∧ ∀ item ∈ items, ∃ name, item = .text name

/-- All keys of a rule set are texts. -/
def KeysText (fields : Record) : Prop :=
  ∀ field ∈ fields, ∃ name, field.1 = .text name

end RuleSet

/-- A schema document is well formed: it is a mapping of texts to rule sets with transforms that are
names, and whatever refers to no named schema has texts as keys and a well-formed inner schema, if
it has one. -/
inductive WellFormed (named : Text → Bool) : Value → Prop where
  | intro {frozen entries} :
    (∀ entry ∈ entries, ∃ key frozen fields, entry = (.text key, .record frozen fields)) →
    (∀ key frozen fields, (key, .record frozen fields) ∈ entries →
      RuleSet.NamesTransforms fields) →
    (∀ key frozen fields, (key, .record frozen fields) ∈ entries →
      RuleSet.target? named fields = none → RuleSet.KeysText fields) →
    (∀ key frozen fields document, (key, .record frozen fields) ∈ entries →
      RuleSet.target? named fields = none → RuleSet.inner? fields = some document →
      WellFormed named document) →
    WellFormed named (.record frozen entries)

/-- The names of the properties of a schema document, marks stripped. -/
def Schema.entryNames (entries : Record) : List Text :=
  (Schema.textItems (Record.keys entries)).map fun key => (splitKey key).1

/-- The names of the properties of a schema document are distinct on each of its levels. -/
inductive DistinctNames (named : Text → Bool) : Value → Prop where
  | intro {frozen entries} :
    (Schema.entryNames entries).Nodup →
    (∀ key frozen fields document, (key, .record frozen fields) ∈ entries →
      RuleSet.target? named fields = none → RuleSet.inner? fields = some document →
      DistinctNames named document) →
    DistinctNames named (.record frozen entries)

/-- A document without inner documents has distinct names when the ones at the top are. -/
lemma DistinctNames.of_flat {named frozen entries} (nodup : (Schema.entryNames entries).Nodup)
    (flat : ∀ entry ∈ entries, ∀ frozen fields, entry.2 = Value.record frozen fields →
      RuleSet.inner? fields = none) : DistinctNames named (.record frozen entries) := by
  refine .intro nodup ?_
  intro key frozen fields document mem _ ei
  cases (flat _ mem frozen fields rfl).symm.trans ei

namespace Schema

/-- The transforms of a compiled rule set are those that the document names. -/
lemma transformsOf_fst {fields} : (transformsOf fields).1 = RuleSet.transforms fields := by
  unfold transformsOf RuleSet.transforms
  cases Record.get? fields "transform" with
  | none => rfl
  | some v =>
    cases v with
    | list items => cases items <;> rfl
    | tuple items => cases items <;> rfl
    | _ =>
      dsimp only
      split <;> rfl

/-- A list of names has no issues exactly when all of them are texts. -/
lemma nameIssues_eq_nil_iff {position items} :
    nameIssues position items = [] ↔ ∀ item ∈ items, ∃ name, item = Value.text name := by
  induction items generalizing position with
  | nil => simp [nameIssues]
  | cons item rest ih => cases item <;> simp [nameIssues, ih]

/-- The transforms of a rule set have no issues exactly when they are names. -/
lemma transformsOf_snd_eq_nil_iff {fields} :
    (transformsOf fields).2 = [] ↔ RuleSet.NamesTransforms fields := by
  unfold transformsOf RuleSet.NamesTransforms
  cases Record.get? fields "transform" with
  | none => simp
  | some v =>
    by_cases t : v.truthy = true
    · cases v <;> simp [t, nameIssues_eq_nil_iff]
    · simp [t]

/-- There are no issues with rules exactly when all keys are texts. -/
lemma ruleIssues_eq_nil_iff {fields} : ruleIssues fields = [] ↔ RuleSet.KeysText fields := by
  unfold ruleIssues RuleSet.KeysText
  induction fields with
  | nil => simp
  | cons field rest ih =>
    obtain ⟨key, v⟩ := field
    cases key <;> simp [ih]

/-- The rules of a compiled rule set are those that the document states. -/
lemma mem_rulesOf_iff {fields name argument} :
    (name, argument) ∈ rulesOf fields ↔ RuleSet.States fields name argument := by
  unfold rulesOf RuleSet.States
  rw [List.mem_filterMap]
  constructor
  · rintro ⟨⟨key, v⟩, mem, e⟩
    cases key with
    | text s =>
      by_cases h : isRuleKey (.text s) = true
      · obtain ⟨rfl, rfl⟩ : s = name ∧ v = argument := by simpa [h] using e
        refine ⟨mem, ?_⟩
        simpa [isRuleKey, Value.isText] using h
      · simp [h] at e
    | _ => cases e
  · rintro ⟨mem, h⟩
    refine ⟨_, mem, ?_⟩
    have key : isRuleKey (.text name) = true := by simpa [isRuleKey, Value.isText] using h
    simp [key]

/-- Asking which schema a rule set refers to always has an answer. -/
lemma referenceOf_total {named fields} :
    referenceOf (.total named) fields = .ok (RuleSet.target? named fields) := by
  unfold referenceOf RuleSet.target?
  cases Record.get? fields "type" with
  | none => rfl
  | some v =>
    cases v with
    | text name =>
      dsimp only [Resolver.total]
      cases named name <;> rfl
    | _ => rfl

/-- The inner document of a rule set is compiled if there is one. -/
lemma compileInner_eq {resolves fields} :
    compileInner resolves fields =
      match RuleSet.inner? fields with
      | none => .ok none
      | some document => (compile resolves document).map some := by
  induction fields with
  | nil => rfl
  | cons field rest ih =>
    obtain ⟨key, v⟩ := field
    rw [compileInner]
    by_cases h : key.isText "properties" = true
    · have found : Record.get? ((key, v) :: rest) "properties" = some v := by
        simp [Record.get?, h]
      cases v with
      | null => simp [h, RuleSet.inner?, found, Value.isNull]
      | _ =>
        simp only [h, if_true, RuleSet.inner?, found, Value.isNull, Bool.false_eq_true, if_false]
        cases compile resolves _ <;> rfl
    · have skipped : Record.get? ((key, v) :: rest) "properties" =
          Record.get? rest "properties" := by
        simp [Record.get?, h]
      simp only [h, RuleSet.inner?, skipped]
      exact ih

/-- What compiling makes of a rule set under its key. -/
inductive CompilesTo (named : Text → Bool) (key : Text) (fields : Record) : Property → Prop where
  | reference {target} :
    RuleSet.NamesTransforms fields →
    RuleSet.target? named fields = some target →
    CompilesTo named key fields
      ⟨(splitKey key).1, (splitKey key).2, RuleSet.transforms fields, .reference target, []⟩
  | inline {document properties} :
    RuleSet.NamesTransforms fields →
    RuleSet.KeysText fields →
    RuleSet.target? named fields = none →
    RuleSet.inner? fields = some document →
    compile (.total named) document = .ok properties →
    CompilesTo named key fields
      ⟨(splitKey key).1, (splitKey key).2, RuleSet.transforms fields, .inline properties,
        rulesOf fields⟩
  | plain :
    RuleSet.NamesTransforms fields →
    RuleSet.KeysText fields →
    RuleSet.target? named fields = none →
    RuleSet.inner? fields = none →
    CompilesTo named key fields
      ⟨(splitKey key).1, (splitKey key).2, RuleSet.transforms fields, .plain, rulesOf fields⟩

/-- A rule set that refers to a named schema compiles when its transforms are names. -/
lemma ruleSet_reference {named key fields inner target}
    (e : RuleSet.target? named fields = some target) :
    ruleSet (.total named) key fields inner =
      if (transformsOf fields).2 = [] then
        .ok ⟨(splitKey key).1, (splitKey key).2, RuleSet.transforms fields, .reference target, []⟩
      else .error (.schema (.invalidRuleSet key (transformsOf fields).2)) := by
  simp only [ruleSet, referenceOf_total, e, ← transformsOf_fst, bind, Except.bind, pure,
    Except.pure, List.isEmpty_iff]
  rfl

/-- A rule set that refers to no named schema compiles when its inner schema does and neither its
transforms nor its rules have issues. -/
lemma ruleSet_unresolved {named key fields inner} (e : RuleSet.target? named fields = none) :
    ruleSet (.total named) key fields inner =
      match inner () with
      | .error fault => .error fault
      | .ok inner? =>
        if (transformsOf fields).2 = [] ∧ ruleIssues fields = [] then
          .ok ⟨(splitKey key).1, (splitKey key).2, RuleSet.transforms fields,
            (match inner? with
              | some properties => .inline properties
              | none => .plain), rulesOf fields⟩
        else
          .error (.schema (.invalidRuleSet key ((transformsOf fields).2 ++ ruleIssues fields))) := by
  simp only [ruleSet, referenceOf_total, e, ← transformsOf_fst, bind, Except.bind, pure,
    Except.pure]
  cases inner () with
  | error fault => rfl
  | ok inner? =>
    cases inner? <;> simp only [List.isEmpty_iff, List.append_eq_nil_iff] <;> rfl

/-- A rule set compiles to a property exactly in the ways of `CompilesTo`. -/
lemma ruleSet_ok_iff {named key fields p} :
    ruleSet (.total named) key fields (fun _ => compileInner (.total named) fields) = .ok p ↔
      CompilesTo named key fields p := by
  constructor
  · intro e
    cases et : RuleSet.target? named fields with
    | some target =>
      rw [ruleSet_reference et] at e
      split at e
      · cases e
        exact .reference (transformsOf_snd_eq_nil_iff.1 ‹_›) et
      · cases e
    | none =>
      -- With no schema referred to, the rules are looked at and an inner document has to compile.
      rw [ruleSet_unresolved et, compileInner_eq] at e
      cases ei : RuleSet.inner? fields with
      | none =>
        rw [ei] at e
        dsimp only at e
        split at e
        · cases e
          rename_i sound
          exact .plain (transformsOf_snd_eq_nil_iff.1 sound.1) (ruleIssues_eq_nil_iff.1 sound.2)
            et ei
        · cases e
      | some document =>
        rw [ei] at e
        dsimp only at e
        cases ec : compile (.total named) document with
        | error fault =>
          rw [ec] at e
          cases e
        | ok properties =>
          rw [ec] at e
          dsimp only [Except.map] at e
          split at e
          · cases e
            rename_i sound
            exact .inline (transformsOf_snd_eq_nil_iff.1 sound.1)
              (ruleIssues_eq_nil_iff.1 sound.2) et ei ec
          · cases e
  · intro c
    cases c with
    | reference names et =>
      rw [ruleSet_reference et, if_pos (transformsOf_snd_eq_nil_iff.2 names)]
    | inline names texts et ei ec =>
      rw [ruleSet_unresolved et, compileInner_eq, ei]
      dsimp only
      rw [ec]
      dsimp only [Except.map]
      rw [if_pos ⟨transformsOf_snd_eq_nil_iff.2 names, ruleIssues_eq_nil_iff.2 texts⟩]
    | plain names texts et ei =>
      rw [ruleSet_unresolved et, compileInner_eq, ei]
      dsimp only
      rw [if_pos ⟨transformsOf_snd_eq_nil_iff.2 names, ruleIssues_eq_nil_iff.2 texts⟩]

/-- A compiled rule set has the name of its key, is optional as its key says and applies the
transforms of its document. -/
lemma CompilesTo.head {named key fields p} (c : CompilesTo named key fields p) :
    p.name = (splitKey key).1 ∧ p.optional = (splitKey key).2 ∧
      p.transforms = RuleSet.transforms fields := by
  cases c <;> exact ⟨rfl, rfl, rfl⟩

/-- An entry of a document compiles to a property: its key is a text and its value a rule set. -/
inductive EntryCompiles (named : Text → Bool) : Value × Value → Property → Prop where
  | intro {key frozen fields p} :
    CompilesTo named key fields p →
    EntryCompiles named (.text key, .record frozen fields) p

/-- An entry compiles to a property exactly when it is a rule set under a text that does. -/
lemma compileRuleSet_ok_iff {named key v p} :
    compileRuleSet (.total named) key v = .ok p ↔ EntryCompiles named (key, v) p := by
  constructor
  · intro e
    cases v with
    | record frozen fields =>
      cases key with
      | text key => exact .intro (ruleSet_ok_iff.1 e)
      | _ => cases e
    | _ => cases key <;> cases e
  · rintro ⟨c⟩
    exact ruleSet_ok_iff.2 c

/-- Entries compile to properties exactly when they do so one by one. -/
lemma compileEntries_ok_iff {named entries schema} :
    compileEntries (.total named) entries = .ok schema ↔
      List.Forall₂ (EntryCompiles named) entries schema := by
  induction entries generalizing schema with
  | nil => cases schema <;> simp [compileEntries]
  | cons entry rest ih =>
    obtain ⟨key, v⟩ := entry
    rw [compileEntries]
    constructor
    · intro e
      cases ep : compileRuleSet (.total named) key v with
      | error fault =>
        rw [ep] at e
        cases e
      | ok p =>
        cases er : compileEntries (.total named) rest with
        | error fault =>
          rw [ep, er] at e
          cases e
        | ok properties =>
          rw [ep, er] at e
          cases e
          exact .cons (compileRuleSet_ok_iff.1 ep) (ih.1 er)
    · intro each
      cases each with
      | cons first others =>
        rw [compileRuleSet_ok_iff.2 first, ih.2 others]
        rfl

/-- A document compiles to a schema exactly when it is a mapping whose entries do so one by one. -/
lemma compile_ok_iff {named document schema} :
    compile (.total named) document = .ok schema ↔
      ∃ frozen entries, document = .record frozen entries ∧
        List.Forall₂ (EntryCompiles named) entries schema := by
  constructor
  · intro e
    cases document with
    | record frozen entries => exact ⟨frozen, entries, rfl, compileEntries_ok_iff.1 e⟩
    | _ => cases e
  · rintro ⟨frozen, entries, rfl, each⟩
    exact compileEntries_ok_iff.2 each

/-- The names of compiled properties are those of the entries of the document. -/
lemma names_eq {named entries schema}
    (all : List.Forall₂ (EntryCompiles named) entries schema) :
    schema.map Property.name = entryNames entries := by
  induction all with
  | nil => rfl
  | @cons _ p _ _ first _ ih =>
    obtain ⟨c⟩ := first
    rw [List.map_cons, ih, c.head.1]
    rfl

end Schema

namespace RuleSet

/-- Setting the inner document of a rule set leaves its rules as they are. -/
lemma rules_set_properties (fields : Record) (document : Value) :
    Schema.rulesOf (Record.set fields "properties" document) = Schema.rulesOf fields ∧
      Schema.ruleIssues (Record.set fields "properties" document) = Schema.ruleIssues fields := by
  induction fields with
  | nil => exact ⟨rfl, rfl⟩
  | cons field rest ih =>
    obtain ⟨key, v⟩ := field
    obtain ⟨rules, issues⟩ := ih
    unfold Schema.rulesOf at rules ⊢
    unfold Schema.ruleIssues at issues ⊢
    by_cases named : key.isText "properties" = true
    · cases key with
      | text name => simp [Record.set, named, Schema.isRuleKey]
      | _ => cases named
    · cases key <;> simp [Record.set, named, List.filterMap_cons, rules, issues]

/-- An inner document that has been set is the one that is found. -/
lemma inner?_set_properties {fields : Record} {frozen entries} :
    inner? (Record.set fields "properties" (.record frozen entries)) =
      some (.record frozen entries) := by
  rw [inner?, Record.get?_set_self]

end RuleSet

/-- The inner document of a rule set is a smaller value than the entries around it. -/
lemma RuleSet.sizeOf_inner?_lt {entries : Record} {key frozen fields document}
    (mem : (key, Value.record frozen fields) ∈ entries)
    (e : RuleSet.inner? fields = some document) :
    sizeOf document < sizeOf entries := by
  have stated : Record.get? fields "properties" = some document := by
    unfold RuleSet.inner? at e
    split at e
    · cases e
    · exact e
  have inside := List.sizeOf_lt_of_mem (Record.mem_of_get? stated)
  have around := List.sizeOf_lt_of_mem mem
  simp only [Prod.mk.sizeOf_spec, Value.record.sizeOf_spec] at inside around
  omega

/-- A document that compiles is well formed. -/
lemma WellFormed.of_compile {named document schema}
    (e : Schema.compile (.total named) document = .ok schema) : WellFormed named document := by
  obtain ⟨frozen, entries, rfl, each⟩ := Schema.compile_ok_iff.1 e
  have compiles : ∀ entry ∈ entries, ∃ p, Schema.EntryCompiles named entry p := by
    intro entry mem
    obtain ⟨p, _, c⟩ := exists_right_of_mem each mem
    exact ⟨p, c⟩
  refine .intro ?_ ?_ ?_ ?_
  · intro entry mem
    obtain ⟨p, ⟨c⟩⟩ := compiles entry mem
    exact ⟨_, _, _, rfl⟩
  · intro key frozen fields mem
    obtain ⟨p, ⟨c⟩⟩ := compiles _ mem
    cases c <;> assumption
  · intro key frozen fields mem et
    obtain ⟨p, ⟨c⟩⟩ := compiles _ mem
    cases c with
    | reference _ et' => rw [et] at et'; cases et'
    | inline _ texts => exact texts
    | plain _ texts => exact texts
  · intro key frozen fields document mem et ei
    obtain ⟨p, ⟨c⟩⟩ := compiles _ mem
    cases c with
    | reference _ et' => rw [et] at et'; cases et'
    | inline _ _ _ ei' ec =>
      obtain rfl : document = _ := Option.some.inj (ei.symm.trans ei')
      -- The recursion is on the document of the inner schema, which lies two levels down.
      have smaller := RuleSet.sizeOf_inner?_lt mem ei
      exact .of_compile ec
    | plain _ _ _ ei' => rw [ei] at ei'; cases ei'
termination_by sizeOf document
decreasing_by
  subst_vars
  rw [Value.record.sizeOf_spec]
  omega

/-- A well-formed document compiles. -/
lemma WellFormed.compile {named document} (wf : WellFormed named document) :
    ∃ schema, Schema.compile (.total named) document = .ok schema := by
  induction wf with
  | @intro frozen entries texts names keys _ ih =>
    have each : ∀ entry ∈ entries, ∃ p, Schema.EntryCompiles named entry p := by
      intro entry mem
      obtain ⟨key, frozen, fields, rfl⟩ := texts entry mem
      cases et : RuleSet.target? named fields with
      | some target => exact ⟨_, .intro (.reference (names _ _ _ mem) et)⟩
      | none =>
        cases ei : RuleSet.inner? fields with
        | none => exact ⟨_, .intro (.plain (names _ _ _ mem) (keys _ _ _ mem et) et ei)⟩
        | some document =>
          obtain ⟨schema, ec⟩ := ih _ _ _ _ mem et ei
          exact ⟨_, .intro (.inline (names _ _ _ mem) (keys _ _ _ mem et) et ei ec)⟩
    obtain ⟨schema, all⟩ := exists_forall₂ each
    exact ⟨schema, Schema.compile_ok_iff.2 ⟨frozen, entries, rfl, all⟩⟩

/-- The well-formed documents are those that compile. -/
lemma wellFormed_iff {named document} :
    WellFormed named document ↔ ∃ schema, Schema.compile (.total named) document = .ok schema := by
  constructor
  · exact WellFormed.compile
  · rintro ⟨schema, e⟩
    exact .of_compile e

namespace Schema

/-- What stops the entries of a document is what one of them is refused for. -/
lemma compileEntries_error {resolves entries fault}
    (e : compileEntries resolves entries = .error fault) :
    ∃ entry ∈ entries, compileRuleSet resolves entry.1 entry.2 = .error fault := by
  induction entries with
  | nil => cases e
  | cons entry rest ih =>
    obtain ⟨key, v⟩ := entry
    rw [compileEntries] at e
    cases ep : compileRuleSet resolves key v with
    | error other =>
      rw [ep] at e
      cases e
      exact ⟨_, List.mem_cons_self, ep⟩
    | ok p =>
      cases er : compileEntries resolves rest with
      | error other =>
        rw [ep, er] at e
        cases e
        obtain ⟨entry, mem, ee⟩ := ih er
        exact ⟨entry, List.mem_cons_of_mem _ mem, ee⟩
      | ok properties =>
        rw [ep, er] at e
        cases e

/-- A document that does not compile has a fault of its own, and no other kind of fault. -/
lemma compile_error {named document fault}
    (e : compile (.total named) document = .error fault) : ∃ flaw, fault = .schema flaw := by
  cases document with
  | record frozen entries =>
    obtain ⟨⟨key, v⟩, mem, er⟩ := compileEntries_error e
    cases v with
    | record frozen fields =>
      cases key with
      | text key =>
        change ruleSet _ key fields (fun _ => compileInner _ fields) = _ at er
        cases et : RuleSet.target? named fields with
        | some target =>
          rw [ruleSet_reference et] at er
          split at er <;> cases er
          exact ⟨_, rfl⟩
        | none =>
          rw [ruleSet_unresolved et, compileInner_eq] at er
          cases ei : RuleSet.inner? fields with
          | none =>
            rw [ei] at er
            dsimp only at er
            split at er <;> cases er
            exact ⟨_, rfl⟩
          | some document =>
            rw [ei] at er
            dsimp only at er
            cases ec : compile (.total named) document with
            | error other =>
              rw [ec] at er
              cases er
              -- The recursion goes by the size of the document, and the inner one is smaller.
              have smaller := RuleSet.sizeOf_inner?_lt mem ei
              exact compile_error ec
            | ok properties =>
              rw [ec] at er
              dsimp only [Except.map] at er
              split at er <;> cases er
              exact ⟨_, rfl⟩
      | _ =>
        cases er
        exact ⟨_, rfl⟩
    | _ =>
      cases key <;> cases er <;> exact ⟨_, rfl⟩
  | _ =>
    cases e
    exact ⟨_, rfl⟩
termination_by sizeOf document
decreasing_by
  subst_vars
  rw [Value.record.sizeOf_spec]
  omega

end Schema

namespace Table

/-- A table contains the names that it has documents for. -/
lemma contains_iff {T : Table} {name} :
    T.contains name = true ↔ ∃ document, Record.get? T.entries name = some document :=
  Record.contains_iff

/-- Looking a name up in a table gives nothing, or the schema that its document compiles to. -/
lemma schema?_ok_iff {T : Table} {name schema?} :
    T.schema? name = .ok schema? ↔
      (Record.get? T.entries name = none ∧ schema? = none) ∨
      ∃ document schema, Record.get? T.entries name = some document ∧
        Schema.compile (.total T.contains) document = .ok schema ∧ schema? = some schema := by
  unfold Table.schema?
  cases eg : Record.get? T.entries name with
  | none =>
    dsimp only
    constructor
    · intro e
      cases e
      exact .inl ⟨rfl, rfl⟩
    · rintro (⟨_, rfl⟩ | ⟨_, _, en, _⟩)
      · rfl
      · cases en
  | some document =>
    dsimp only
    constructor
    · intro e
      cases ec : Schema.compile T.resolves document with
      | error fault =>
        rw [ec] at e
        cases e
      | ok schema =>
        rw [ec] at e
        cases e
        exact .inr ⟨document, schema, rfl, ec, rfl⟩
    · rintro (⟨en, _⟩ | ⟨_, schema, en, ec, rfl⟩)
      · cases en
      · cases en
        have ec : Schema.compile T.resolves document = .ok schema := ec
        rw [ec]

/-- Looking up a name of the table gives the schema that its document compiles to. -/
lemma schema?_of_contains {T : Table} {name schema?} (named : T.contains name = true)
    (es : T.schema? name = .ok schema?) :
    ∃ document schema, Record.get? T.entries name = some document ∧
      Schema.compile (.total T.contains) document = .ok schema ∧ schema? = some schema := by
  obtain ⟨missing, _⟩ | found := schema?_ok_iff.1 es
  · obtain ⟨document, eg⟩ := contains_iff.1 named
    cases missing.symm.trans eg
  · exact found

/-- Looking a name up in a table fails only for a fault of its document. -/
lemma schema?_error {T : Table} {name fault} (e : T.schema? name = .error fault) :
    ∃ flaw, fault = .schema flaw := by
  unfold Table.schema? at e
  cases eg : Record.get? T.entries name with
  | none =>
    rw [eg] at e
    cases e
  | some document =>
    rw [eg] at e
    dsimp only at e
    cases ec : Schema.compile T.resolves document with
    | ok schema =>
      rw [ec] at e
      cases e
    | error other =>
      rw [ec] at e
      cases e
      exact Schema.compile_error ec

/-- A table is only refused by a fault of a schema. -/
lemma ofValue_error {v fault} (e : ofValue v = .error fault) : ∃ flaw, fault = .schema flaw := by
  unfold ofValue at e
  split at e
  · cases e
  · cases e
  · cases e
    exact ⟨_, rfl⟩

end Table

end RecordSchema
