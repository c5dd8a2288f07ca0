import RecordSchema.Proofs.Document
import RecordSchema.Proofs.Matching
import RecordSchema.Proofs.Row
import RecordSchema.Proofs.Transform
import RecordSchema.Trail

/-!
# Entries of manifests

What the schema of trails asks of an entry, said without patterns: `Trail.Trims` relates an entry to
the trail of its trimmed fields and `Trail.Valid` says which trails are good. Asserting an entry
succeeds exactly for those (`walkEntry_ok`, `walkEntry_exists`), leaves an entry that shows a good trail
(`walkEntry_shows`), so what it gave when it is done again (`walkEntry_again`), and otherwise fails at one of
the fields (`walkEntry_error`).
-/

namespace RecordSchema

/-- Integers are compared as numbers as they are by themselves. -/
lemma Number.le_int_iff {m n : Int} : Number.le (.int m) (.int n) = true ↔ m ≤ n := by
  have positive : (0 : Int) < twoPow Double.unitBits := Int.natCast_pos.2 (twoPow_pos _)
  simp only [Number.le, Number.position?, Position.le, Double.unitsOfInt, decide_eq_true_eq]
  constructor
  · intro le
    exact Int.le_of_mul_le_mul_right le positive
  · intro le
    exact Int.mul_le_mul_of_nonneg_right le (Int.le_of_lt positive)

namespace Pattern

/-- The pattern for the names of global variables. -/
def globalName : Pattern :=
  ⟨[.anchor .start, .set false [.range 65 90, .range 97 122, .code 95, .code 36],
    .repeated .greedy 0 none [.set false [.category .word false, .code 36]], .anchor .finish],
    { unicode := true }, []⟩

/-- The pattern for web addresses. -/
def webAddress : Pattern :=
  ⟨.anchor .start :: (("http" : Text).toList.map (.literal ·.toNat) ++
    .repeated .greedy 0 (some 1) [.literal (Point.char 's').toNat] ::
      (("://" : Text).toList.map (.literal ·.toNat) ++ [])), { unicode := true }, []⟩

/-- Whether a reading gives the pattern for the names of global variables. -/
def isGlobalName : Except Fault Pattern → Bool
  | .ok ⟨[.anchor .start, .set false first, .repeated .greedy 0 none [.set false later],
      .anchor .finish], flags, []⟩ =>
    first == [.range 65 90, .range 97 122, .code 95, .code 36] &&
      later == [.category .word false, .code 36] && flags == { unicode := true }
  | _ => false

/-- Whether a reading gives the pattern for web addresses. -/
def isWebAddress : Except Fault Pattern → Bool
  | .ok ⟨[.anchor .start, .literal 104, .literal 116, .literal 116, .literal 112,
      .repeated .greedy 0 (some 1) [.literal 115], .literal 58, .literal 47, .literal 47],
      flags, []⟩ => flags == { unicode := true }
  | _ => false

/-- The text for the names of global variables is read as that pattern. -/
lemma ofText_globalName : ofText ("^[A-Za-z_$][\\w$]*$" : Text).toList = .ok globalName := by
  -- Patterns have no decidable equality, so the parts of what is read are compared.
  have read : isGlobalName (ofText ("^[A-Za-z_$][\\w$]*$" : Text).toList) = true := by
    decide +kernel
  unfold isGlobalName at read
  split at read
  · rename_i e
    simp only [Bool.and_eq_true, beq_iff_eq] at read
    obtain ⟨⟨rfl, rfl⟩, rfl⟩ := read
    exact e
  · cases read

/-- The text for web addresses is read as that pattern. -/
lemma ofText_webAddress : ofText ("^https?://" : Text).toList = .ok webAddress := by
  have read : isWebAddress (ofText ("^https?://" : Text).toList) = true := by
    decide +kernel
  unfold isWebAddress at read
  split at read
  · rename_i e
    rw [e, eq_of_beq read]
    rfl
  · cases read

/-- The pattern for web addresses is found in texts that start with one of the two schemes. -/
lemma search_webAddress {cs} :
    webAddress.search cs = true ↔
      ∃ rest, cs = ("http://" : Text).toList ++ rest ∨ cs = ("https://" : Text).toList ++ rest := by
  have single : ({ unicode := true } : Flags).multiline = false := rfl
  have cased : ({ unicode := true } : Flags).ignoreCase = false := rfl
  have plain : ("http://" : Text).toList = ("http" : Text).toList ++ ("://" : Text).toList := rfl
  have secure : ("https://" : Text).toList = ("http" : Text).toList ++ .char 's' :: ("://" : Text).toList := rfl
  rw [webAddress, search_anchored single, plain, secure]
  simp only [literals_isSome_iff cased, optional_isSome_iff cased, List.append_assoc,
    List.cons_append]
  constructor
  · rintro ⟨zs, e, ⟨ys, rfl, rest, rfl, _⟩ | ⟨rest, rfl, _⟩⟩
    · exact ⟨rest, .inr e⟩
    · exact ⟨rest, .inl e⟩
  · rintro ⟨rest, e | e⟩
    · exact ⟨_, e, .inr ⟨rest, rfl, rfl⟩⟩
    · exact ⟨_, e, .inl ⟨_, rfl, rest, rfl, rfl⟩⟩

/-- The letters among the ASCII characters. -/
lemma satisfies_isAlpha {c : Point} :
    c.satisfies Char.isAlpha = true ↔
      65 ≤ c.toNat ∧ c.toNat ≤ 90 ∨ 97 ≤ c.toNat ∧ c.toNat ≤ 122 := by
  cases c with
  | char c =>
    change c.isAlpha = true ↔ 65 ≤ c.toNat ∧ c.toNat ≤ 90 ∨ 97 ≤ c.toNat ∧ c.toNat ≤ 122
    simp [Char.isAlpha, Char.isUpper, Char.isLower, UInt32.le_iff_toNat_le]
  | half bits =>
    have high : 0xD800 ≤ (Point.half bits).toNat := Nat.le_add_right _ _
    constructor
    · nofun
    · omega

/-- The first set of the pattern for global variables. -/
lemma setHolds_first {c : Point} :
    setHolds { unicode := true } false [.range 65 90, .range 97 122, .code 95, .code 36] c = true ↔
      c.satisfies Char.isAlpha ∨ c = .char '_' ∨ c = .char '$' := by
  have low : c = .char '_' ↔ c.toNat = 95 := ⟨fun e => e ▸ rfl, fun e => Point.toNat_inj.1 e⟩
  have dollar : c = .char '$' ↔ c.toNat = 36 := ⟨fun e => e ▸ rfl, fun e => Point.toNat_inj.1 e⟩
  rw [low, dollar, satisfies_isAlpha]
  simp [setHolds, SetItem.holds, or_assoc]

/-- After the first character of a global name may come a word character or a dollar sign. -/
lemma setHolds_later {c : Point} :
    setHolds { unicode := true } false [.category .word false, .code 36] c = true ↔
      Text.isWord c = true ∨ c = .char '$' := by
  have dollar : c = .char '$' ↔ c.toNat = 36 := ⟨fun e => e ▸ rfl, fun e => Point.toNat_inj.1 e⟩
  rw [dollar]
  simp [setHolds, SetItem.holds, Category.holds]

/-- Without switches the end of a text is its end, or the place before a line break there. -/
lemma finish_holds {flags : Flags} {c : Cursor} (single : flags.multiline = false)
    (holds : Anchor.finish.holds flags c = true) : c.after = [] ∨ c.after = ['\n'] := by
  simp only [Anchor.holds, single, Cursor.next] at holds
  cases ea : c.after with
  | nil => exact .inl rfl
  | cons x rest =>
    rw [ea] at holds
    cases rest with
    | nil =>
      right
      simpa [isLineBreak] using holds
    | cons y rest => simp at holds

/-- The pattern for global variables is found in texts without blanks at their ends that start with
an ASCII letter, an underscore or a dollar and go on with word characters and dollars. -/
lemma search_globalName {cs} (t : Text.Trimmed cs) :
    globalName.search cs = true ↔
      ∃ first rest, cs = first :: rest ∧ (first.satisfies Char.isAlpha ∨ first = '_' ∨ first = '$') ∧
        ∀ c ∈ rest, Text.isWord c = true ∨ c = .char '$' := by
  have single : ({ unicode := true } : Flags).multiline = false := rfl
  rw [globalName, search_anchored single, set_isSome_iff]
  constructor
  · rintro ⟨first, rest, e, opens, found⟩
    have e : cs = first :: rest := e
    rw [star_isSome_iff (by simp [e, Cursor.past, Subject.ofText])] at found
    obtain ⟨ys, zs, el, all, found⟩ := found
    have el : rest = ys ++ zs := el
    have ends : zs = [] ∨ zs = [.char '\n'] := finish_holds single (anchor_isSome_iff.1 found).1
    rcases ends with rfl | rfl
    · rw [List.append_nil] at el
      refine ⟨first, rest, e, setHolds_first.1 opens, ?_⟩
      intro c mem
      exact setHolds_later.1 (all c (el ▸ mem))
    · have blank := t.2 '\n' (first :: ys) (by rw [e, el, List.cons_append])
      cases blank
  · rintro ⟨first, rest, rfl, opens, all⟩
    refine ⟨first, rest, rfl, setHolds_first.2 opens, ?_⟩
    rw [star_isSome_iff (by simp [Cursor.past, Subject.ofText])]
    refine ⟨rest, [], (List.append_nil rest).symm, ?_, rfl⟩
    intro c mem
    exact setHolds_later.2 (all c mem)

end Pattern

namespace Trail

/-- A text without the blanks at its ends. -/
def trimmed (s : Text) : Text :=
  Text.ofList (Text.trim s.toList)

/-- A text is the name of a global variable. -/
def IsGlobalName (s : Text) : Prop :=
  ∃ first rest, s.toList = first :: rest ∧ (first.satisfies Char.isAlpha ∨ first = '_' ∨ first = '$') ∧
    ∀ c ∈ rest, Text.isWord c = true ∨ c = .char '$'

/-- A text starts as a web address does. -/
def IsWebAddress (s : Text) : Prop :=
  ∃ rest, s.toList = ("http://" : Text).toList ++ rest ∨ s.toList = ("https://" : Text).toList ++ rest

/-- A trail is good: its texts have no blanks at their ends, its name is not empty, and the other two
are what they are called. -/
structure Valid (trail : Trail) : Prop where
  name_trimmed : Text.Trimmed trail.name.toList
  globalVar_trimmed : Text.Trimmed trail.globalVar.toList
  url_trimmed : Text.Trimmed trail.url.toList
  name_nonempty : trail.name ≠ ""
  globalVar_name : IsGlobalName trail.globalVar
  url_address : IsWebAddress trail.url

/-- A trail has the trimmed fields of an entry. -/
inductive Trims : Value → Trail → Prop where
  | intro {readOnly fields name globalVar url} :
    Record.get? fields "name" = some (.text name) →
    Record.get? fields "globalVar" = some (.text globalVar) →
    Record.get? fields "url" = some (.text url) →
    Trims (.record readOnly fields) ⟨trimmed name, trimmed globalVar, trimmed url⟩

/-- An entry has the fields of a good trail, once they are trimmed. -/
def Sound (entry : Value) : Prop :=
  ∃ trail, Trims entry trail ∧ Valid trail

/-- A record has the fields of a trail. -/
structure Shows (record : Record) (trail : Trail) : Prop where
  name : Record.get? record "name" = some (.text trail.name)
  globalVar : Record.get? record "globalVar" = some (.text trail.globalVar)
  url : Record.get? record "url" = some (.text trail.url)

/-- What has been trimmed has no blanks at its ends. -/
lemma trimmed_trimmed {s} : Text.Trimmed (trimmed s).toList := by
  rw [trimmed, Text.toList_ofList]
  exact Text.trimmed_trim

/-- Trimming again changes nothing. -/
lemma trimmed_of_trimmed {s} (t : Text.Trimmed s.toList) : trimmed s = s := by
  rw [trimmed, Text.trim_of_trimmed t, Text.ofList_toList]

open Assertion

variable {T : Table}

/-- A required property that takes the texts which satisfy a condition once they are trimmed. -/
structure IsField (p : Property) (P : Text → Prop) : Prop where
  required : p.optional = false
  settle_ok_iff : ∀ {next v x}, settle .builtin T next p v = .ok x ↔
    ∃ s, v = .text s ∧ P (trimmed s) ∧ x = .text (trimmed s)
  settle_error : ∀ {next v fault}, settle .builtin T next p v = .error fault →
    ∃ violation, fault = .violated [p.name] violation

/-- The property of a field whose texts are trimmed and checked by one rule. -/
def field (name rule : Text) (argument : Value) : Property :=
  ⟨name, false, ["trim"], .plain, [("type", .text "string"), (rule, argument)]⟩

/-- A text is settled by trimming it and asking the rule. -/
lemma settle_field_text {next name rule argument holds s}
    (found : Rule.builtin.get? rule = some holds) :
    settle .builtin T next (field name rule argument) (.text s) =
      match holds (.text (trimmed s)) argument with
      | .error fault => .error fault
      | .ok true => .ok (.text (trimmed s))
      | .ok false => .error (.violated [name] (.failedRule rule name (.text (trimmed s)))) := by
  have checked : checkRules (m := Except Fault) Rule.builtin name (.text (trimmed s))
      [("type", .text "string"), (rule, argument)] =
        match holds (.text (trimmed s)) argument with
        | .error fault => .error fault
        | .ok true => .ok ()
        | .ok false => .error (.violated [name] (.failedRule rule name (.text (trimmed s)))) := by
    rw [checkRules_cons]
    change checkRules (m := Except Fault) Rule.builtin name _ [(rule, argument)] = _
    rw [checkRules_cons, found]
    rfl
  change (checkRules (m := Except Fault) Rule.builtin name (.text (trimmed s))
    [("type", .text "string"), (rule, argument)] >>= fun _ => .ok (Value.text (trimmed s))) = _
  rw [checked]
  cases holds (.text (trimmed s)) argument with
  | error fault => rfl
  | ok b => cases b <;> rfl

/-- What is no text fails for its type. -/
lemma settle_field_other {next name rule argument v} (other : ∀ s, v ≠ .text s) :
    settle .builtin T next (field name rule argument) v =
      .error (.violated [name] (.failedRule "type" name v)) := by
  cases v with
  | text s => exact (other s rfl).elim
  | _ => rfl

/-- A property is a field for the texts that its rule holds of. -/
lemma isField {name rule argument holds} {P : Text → Prop}
    (found : Rule.builtin.get? rule = some holds)
    (decides : ∀ s, ∃ b, holds (.text (trimmed s)) argument = .ok b ∧ (b = true ↔ P (trimmed s))) :
    IsField (T := T) (field name rule argument) P := by
  refine ⟨rfl, ?_, ?_⟩
  · intro next v x
    constructor
    · intro e
      by_cases text : ∃ s, v = .text s
      · obtain ⟨s, rfl⟩ := text
        obtain ⟨b, eh, iff⟩ := decides s
        rw [settle_field_text found, eh] at e
        cases b with
        | true =>
          cases e
          exact ⟨s, rfl, iff.1 rfl, rfl⟩
        | false => cases e
      · rw [settle_field_other fun s e => text ⟨s, e⟩] at e
        cases e
    · rintro ⟨s, rfl, good, rfl⟩
      obtain ⟨b, eh, iff⟩ := decides s
      rw [settle_field_text found, eh, iff.2 good]
  · intro next v fault e
    by_cases text : ∃ s, v = .text s
    · obtain ⟨s, rfl⟩ := text
      obtain ⟨b, eh, _⟩ := decides s
      rw [settle_field_text found, eh] at e
      cases b <;> cases e
      exact ⟨_, rfl⟩
    · rw [settle_field_other fun s e => text ⟨s, e⟩] at e
      cases e
      exact ⟨_, rfl⟩

/-- A field settles what is under its name when it is a good text. -/
lemma IsField.settles {p P next old new} (f : IsField (T := T) p P)
    (s : Settles .builtin T next p old new) :
    ∃ s, old = some (.text s) ∧ P (trimmed s) ∧ new = some (.text (trimmed s)) := by
  cases s with
  | absent optional =>
    rw [f.required] at optional
    cases optional
  | present es =>
    obtain ⟨s, rfl, good, rfl⟩ := f.settle_ok_iff.1 es
    exact ⟨s, rfl, good, rfl⟩

/-- A field that fails on a record fails at its name. -/
lemma IsField.step_error {p P next record fault} (f : IsField (T := T) p P)
    (e : step (tableServices T) .builtin next record p = .error fault) :
    ∃ violation, fault = .violated [p.name] violation := by
  obtain ⟨_, _, rfl⟩ | ⟨_, _, es⟩ := step_error_iff.1 e
  · exact ⟨_, rfl⟩
  · exact f.settle_error es

/-- The field of the name. -/
def nameField : Property :=
  field "name" "minLength" (.int 1)

/-- The field of the global variable. -/
def globalVarField : Property :=
  field "globalVar" "pattern" (.text "^[A-Za-z_$][\\w$]*$")

/-- The field of the address. -/
def urlField : Property :=
  field "url" "pattern" (.text "^https?://")

/-- The fields of trails. -/
def fields : Schema :=
  [nameField, globalVarField, urlField]

/-- Where no name resolves, the schema of trails is that of their fields. -/
lemma compile_schema : Schema.compile (.total (Table.contains ⟨[]⟩)) schema = .ok fields :=
  rfl

/-- The field of a name wants a text that is not empty. -/
lemma isField_name : IsField (T := T) nameField (· ≠ "") := by
  have found : Rule.builtin.get? "minLength" = some Rule.minLength := rfl
  refine isField found ?_
  intro s
  refine ⟨_, rfl, ?_⟩
  rw [Number.le_int_iff, ne_eq, ← Text.length_eq_zero_iff]
  omega

/-- The field of a global variable wants a name for one. -/
lemma isField_globalVar : IsField (T := T) globalVarField IsGlobalName := by
  have found : Rule.builtin.get? "pattern" = some Rule.pattern := rfl
  refine isField found ?_
  intro s
  refine ⟨Pattern.globalName.search (trimmed s).toList, ?_, Pattern.search_globalName trimmed_trimmed⟩
  simp only [Rule.pattern, Rule.patternOf, Pattern.ofText_globalName]

/-- The field of an address wants an address of the web. -/
lemma isField_url : IsField (T := T) urlField IsWebAddress := by
  have found : Rule.builtin.get? "pattern" = some Rule.pattern := rfl
  refine isField found ?_
  intro s
  refine ⟨Pattern.webAddress.search (trimmed s).toList, ?_, Pattern.search_webAddress⟩
  simp only [Rule.pattern, Rule.patternOf, Pattern.ofText_webAddress]

/-- Every field of trails takes the texts that satisfy some condition once they are trimmed. -/
lemma isField_of_mem {p} (mem : p ∈ fields) : ∃ P, IsField (T := T) p P := by
  simp only [fields, List.mem_cons, List.not_mem_nil, or_false] at mem
  rcases mem with rfl | rfl | rfl
  · exact ⟨_, isField_name⟩
  · exact ⟨_, isField_globalVar⟩
  · exact ⟨_, isField_url⟩

/-- The names of the fields are distinct. -/
lemma fields_nodup : (fields.map Property.name).Nodup := by
  decide

/-- The walk with the schema of trails. -/
abbrev walkEntry (T : Table) (budget : Nat) (entry : Value) : Except Fault Record :=
  walk (tableServices T) .builtin (budget + 1) (some fields) entry

/-- An entry is a mapping that goes through the fields of trails. -/
lemma walkEntry_record {budget readOnly record} :
    walkEntry T budget (.record readOnly record) =
      List.foldlM (step (tableServices T) .builtin (walk (tableServices T) .builtin budget)) record
        fields :=
  rfl

/-- An entry that is accepted has the fields of a good trail once they are trimmed, and the result
has those of the trail. -/
lemma walkEntry_ok {budget entry result} (e : walkEntry T budget entry = .ok result) :
    ∃ trail, Trims entry trail ∧ Valid trail ∧ Shows result trail := by
  cases entry with
  | record readOnly record =>
    rw [walkEntry_record] at e
    have settled := row_settles e fields_nodup
    obtain ⟨name, oldName, goodName, newName⟩ :=
      isField_name.settles (settled nameField (by simp [fields]))
    obtain ⟨globalVar, oldGlobalVar, goodGlobalVar, newGlobalVar⟩ :=
      isField_globalVar.settles (settled globalVarField (by simp [fields]))
    obtain ⟨url, oldUrl, goodUrl, newUrl⟩ :=
      isField_url.settles (settled urlField (by simp [fields]))
    refine ⟨_, .intro oldName oldGlobalVar oldUrl, ?_, ⟨newName, newGlobalVar, newUrl⟩⟩
    exact ⟨trimmed_trimmed, trimmed_trimmed, trimmed_trimmed, goodName, goodGlobalVar, goodUrl⟩
  | _ => cases e

/-- An entry with the fields of a good trail, once they are trimmed, is accepted. -/
lemma walkEntry_exists {budget entry trail} (trims : Trims entry trail) (valid : Valid trail) :
    ∃ result, walkEntry T budget entry = .ok result := by
  cases trims with
  | @intro readOnly record name globalVar url en eg eu =>
    rw [walkEntry_record]
    apply row_exists fields_nodup
    intro p mem
    simp only [fields, List.mem_cons, List.not_mem_nil, or_false] at mem
    rcases mem with rfl | rfl | rfl
    · refine ⟨some (.text (trimmed name)), ?_⟩
      rw [show Record.get? record nameField.name = _ from en]
      exact .present (isField_name.settle_ok_iff.2 ⟨name, rfl, valid.name_nonempty, rfl⟩)
    · refine ⟨some (.text (trimmed globalVar)), ?_⟩
      rw [show Record.get? record globalVarField.name = _ from eg]
      exact .present (isField_globalVar.settle_ok_iff.2 ⟨globalVar, rfl, valid.globalVar_name, rfl⟩)
    · refine ⟨some (.text (trimmed url)), ?_⟩
      rw [show Record.get? record urlField.name = _ from eu]
      exact .present (isField_url.settle_ok_iff.2 ⟨url, rfl, valid.url_address, rfl⟩)

/-- An entry that has the fields of a good trail is accepted as it is. -/
lemma walkEntry_shows {budget readOnly record trail} (valid : Valid trail) (shows : Shows record trail) :
    walkEntry T budget (.record readOnly record) = .ok record := by
  -- A trimmed text that satisfies its condition settles as it is.
  have fixed : ∀ {p P next s}, IsField (T := T) p P → Text.Trimmed s.toList → P s →
      settle .builtin T next p (.text s) = .ok (.text s) := by
    intro p P next s f t good
    have same := trimmed_of_trimmed t
    exact f.settle_ok_iff.2 ⟨s, rfl, same.symm ▸ good, by rw [same]⟩
  rw [walkEntry_record]
  apply row_fixed
  intro p mem
  simp only [fields, List.mem_cons, List.not_mem_nil, or_false] at mem
  rcases mem with rfl | rfl | rfl
  · rw [show Record.get? record nameField.name = _ from shows.name]
    exact .present (fixed isField_name valid.name_trimmed valid.name_nonempty)
  · rw [show Record.get? record globalVarField.name = _ from shows.globalVar]
    exact .present (fixed isField_globalVar valid.globalVar_trimmed valid.globalVar_name)
  · rw [show Record.get? record urlField.name = _ from shows.url]
    exact .present (fixed isField_url valid.url_trimmed valid.url_address)

/-- What comes of an entry that is accepted is accepted as it is. -/
lemma walkEntry_again {budget budget' entry result readOnly}
    (e : walkEntry T budget entry = .ok result) :
    walkEntry T budget' (.record readOnly result) = .ok result := by
  obtain ⟨trail, _, valid, shows⟩ := walkEntry_ok e
  exact walkEntry_shows valid shows

/-- A mapping that is not accepted as an entry fails at one of the fields. -/
lemma walkEntry_error {budget readOnly record fault}
    (e : walkEntry T budget (.record readOnly record) = .error fault) :
    ∃ p ∈ fields, ∃ violation, fault = .violated [p.name] violation := by
  rw [walkEntry_record] at e
  obtain ⟨before, p, after, mid, split, _, es⟩ := foldlM_error e
  have mem : p ∈ fields := by
    rw [split]
    exact List.mem_append_right _ List.mem_cons_self
  obtain ⟨P, f⟩ := isField_of_mem (T := T) mem
  exact ⟨p, mem, f.step_error es⟩

/-- The trail of a record that shows the fields of a trail is that trail. -/
lemma ofEntry_of_shows {readOnly record trail} (shows : Shows record trail) :
    ofEntry (.record readOnly record) = .ok trail := by
  simp only [ofEntry, fieldOf, shows.name, shows.globalVar, shows.url, bind, Except.bind]
  rfl

/-- What no trail can be read from stops the run, but with no failure. -/
lemma ofEntry_error {entry fault} (e : ofEntry entry = .error fault) :
    ∃ mishap, fault = .mishap mishap := by
  have lookup : ∀ {name fault}, fieldOf entry name = .error fault →
      ∃ mishap, fault = .mishap mishap := by
    intro name fault e
    unfold fieldOf at e
    split at e
    · split at e <;> cases e
      exact ⟨_, rfl⟩
    all_goals
      cases e
      exact ⟨_, rfl⟩
  rcases bind_error_iff.1 e with e | ⟨name, _, e⟩
  · exact lookup e
  · rcases bind_error_iff.1 e with e | ⟨globalVar, _, e⟩
    · exact lookup e
    · rcases bind_error_iff.1 e with e | ⟨url, _, e⟩
      · exact lookup e
      · unfold ofFields at e
        dsimp only at e
        split at e <;> cases e
        exact ⟨_, rfl⟩

end Trail

end RecordSchema
