import RecordSchema.Json.Writer
import RecordSchema.Proofs.Numerals

/-!
# Written documents

Whatever a document can hold is written as a document (`Storable.derives`): texts and keys by escapes,
lists and mappings with their separators, however they are indented. It is a document of JSON exactly
when all of its numbers are finite, since the names of the others are seen outside of its texts
(`isDocument_write_iff`).
-/

namespace RecordSchema.Json

/-- A digit in base sixteen is read. -/
lemma hexDigits_spec (n : Nat) :
    (Text.hexDigits n 4).length = 4 ∧ ∀ c ∈ Text.hexDigits n 4, (hexValue? c).isSome = true := by
  have digit : ∀ k < 16, (hexValue? (Nat.digitChar k)).isSome = true := by
    decide
  refine ⟨by simp [Text.hexDigits], ?_⟩
  intro c mem
  simp only [Text.hexDigits, List.nil_append, List.mem_append, List.mem_singleton] at mem
  rcases mem with ((rfl | rfl) | rfl) | rfl <;> exact digit _ (Nat.mod_lt _ (by decide))

/-- A unit is a piece of a text. -/
lemma piece_writeUnit (n : Nat) : Piece (writeUnit n) :=
  .unit (hexDigits_spec n).1 (hexDigits_spec n).2

/-- A written character may stand in front of the rest of a text. -/
lemma Quoted.writeChar {rest} (quoted : Quoted rest) (c : Char) :
    Quoted (writeChar c ++ rest) := by
  unfold Json.writeChar
  split
  · rename_i letter found
    apply Quoted.piece _ quoted
    apply Piece.short
    obtain ⟨before, after, e, _⟩ := List.lookup_eq_some_iff.1 found
    have mem : (c, letter) ∈ shortEscapes := by
      rw [e]
      exact List.mem_append_right _ List.mem_cons_self
    have letters : ∀ escape ∈ shortEscapes,
        escape.2 ∈ ['"', '\\', '/', 'b', 'f', 'n', 'r', 't'] := by
      decide
    exact letters _ mem
  · rename_i none
    split
    · rename_i printable
      apply Quoted.piece _ quoted
      apply Piece.plain printable.1
      · rintro rfl
        cases none
      · rintro rfl
        cases none
    · split
      · exact .piece (piece_writeUnit _) quoted
      · rw [List.append_assoc]
        exact .piece (piece_writeUnit _) (.piece (piece_writeUnit _) quoted)

/-- A written code point may stand in front of the rest of a text, half of a pair too. -/
lemma Quoted.writePoint {rest} (quoted : Quoted rest) (c : Point) :
    Quoted (writePoint c ++ rest) := by
  cases c with
  | char c => exact quoted.writeChar c
  | half bits => exact .piece (piece_writeUnit _) quoted

/-- Any text is written between quotes. -/
lemma quoted_writeText (cs : List Point) : ∃ q, Quoted q ∧ writeText cs = ['"'] ++ q := by
  refine ⟨cs.flatMap Json.writePoint ++ ['"'], ?_, by rw [writeText, List.append_assoc]⟩
  induction cs with
  | nil => exact .close
  | cons c cs ih =>
    rw [List.flatMap_cons, List.append_assoc]
    exact ih.writePoint c

/-- No space is space. -/
lemma spaces_nil : Spaces [] := nofun

/-- A break of lines is space. -/
lemma spaces_lineBreak (indent? : Option Nat) (depth : Nat) : Spaces (lineBreak indent? depth) := by
  cases indent? with
  | none => exact spaces_nil
  | some indent =>
    intro c mem
    rcases List.mem_cons.1 mem with rfl | mem
    · rfl
    · rw [List.eq_of_mem_replicate mem]
      rfl

/-- A separator is a comma and space. -/
lemma separator_eq (indent? : Option Nat) (depth : Nat) :
    ∃ t, Spaces t ∧ separator indent? depth = [','] ++ t := by
  cases indent? with
  | none =>
    refine ⟨[' '], ?_, rfl⟩
    intro c mem
    rw [List.mem_singleton.1 mem]
    rfl
  | some indent => exact ⟨_, spaces_lineBreak (some indent) depth, rfl⟩

/-- A key is a text, a colon and space. -/
lemma writeKey_eq (key : Value) :
    ∃ q, Quoted q ∧ writeKey key = ['"'] ++ q ++ [] ++ [':'] ++ [' '] := by
  obtain ⟨q, quoted, e⟩ := quoted_writeText key.plain.toList
  refine ⟨q, quoted, ?_⟩
  rw [writeKey, e]
  simp

variable {N : List Char → Prop} {indent? : Option Nat} {depth : Nat}

/-- Written items, and the bracket behind them. -/
lemma derives_writeItems {v : Value} {items t}
    (each : ∀ w ∈ v :: items, Derives N .value (writeValue indent? depth w)) (spaces : Spaces t) :
    Derives N .elements (writeItems indent? depth (v :: items) ++ t ++ [']']) := by
  induction items generalizing v with
  | nil =>
    rw [writeItems]
    exact .lastElement (each v List.mem_cons_self) spaces
  | cons w items ih =>
    obtain ⟨first, others⟩ := List.forall_mem_cons.1 each
    obtain ⟨u, between, e⟩ := separator_eq indent? depth
    have derives := Derives.element first spaces_nil between (ih others)
    rw [writeItems, e]
    · simpa using derives
    · exact List.cons_ne_nil _ _

/-- Written entries, and the brace behind them. -/
lemma derives_writeEntries {entry : Value × Value} {entries t}
    (each : ∀ e ∈ entry :: entries, Derives N .value (writeValue indent? depth e.2))
    (spaces : Spaces t) :
    Derives N .members (writeEntries indent? depth (entry :: entries) ++ t ++ ['\x7d']) := by
  have space : Spaces [' '] := by
    intro c mem
    rw [List.mem_singleton.1 mem]
    rfl
  induction entries generalizing entry with
  | nil =>
    obtain ⟨key, v⟩ := entry
    obtain ⟨q, quoted, ek⟩ := writeKey_eq key
    have derives := Derives.lastMember quoted spaces_nil space (each _ List.mem_cons_self) spaces
    rw [writeEntries, ek]
    simpa using derives
  | cons next entries ih =>
    obtain ⟨key, v⟩ := entry
    obtain ⟨first, others⟩ := List.forall_mem_cons.1 each
    obtain ⟨q, quoted, ek⟩ := writeKey_eq key
    obtain ⟨u, between, e⟩ := separator_eq indent? depth
    have derives := Derives.member quoted spaces_nil space first spaces_nil between (ih others)
    rw [writeEntries, ek, e]
    · simpa using derives
    · exact List.cons_ne_nil _ _

/-- What a document can hold is written as the value of a document, when its numbers are written as
texts that stand for numbers. -/
lemma Storable.derives {P : Double → Prop} {v} (storable : Storable P v)
    (ints : ∀ n, N (Decimal.writeInt n).toList)
    (floats : ∀ x, P x → N (x.write Double.documentLayout).toList) (depth : Nat) :
    Derives N .value (writeValue indent? depth v) := by
  induction storable generalizing depth with
  | null => exact .name (by simp [writeValue])
  | @bool b => cases b <;> exact .name (by simp [writeValue])
  | int =>
    rw [writeValue]
    exact .number (ints _)
  | float kind =>
    rw [writeValue]
    exact .number (floats _ kind)
  | @text s =>
    obtain ⟨q, quoted, e⟩ := quoted_writeText s.toList
    rw [writeValue, e]
    exact .text quoted
  | @list items _ ih =>
    cases items with
    | nil =>
      rw [writeValue, writeList]
      exact .emptyList spaces_nil
    | cons v items =>
      have elements := derives_writeItems (fun w mem => ih w mem (depth + 1))
        (spaces_lineBreak indent? depth)
      have derives := Derives.list (spaces_lineBreak indent? (depth + 1)) elements
      rw [writeValue, writeList]
      simpa using derives
  | @record entries _ _ ih =>
    cases entries with
    | nil =>
      rw [writeValue]
      exact .emptyRecord spaces_nil
    | cons entry entries =>
      have members := derives_writeEntries (fun e mem => ih e mem (depth + 1))
        (spaces_lineBreak indent? depth)
      have derives := Derives.record (spaces_lineBreak indent? (depth + 1)) members
      rw [writeValue]
      simpa using derives

/-- What a document can hold is written as a document, given the texts that stand for its numbers. -/
lemma Storable.isDocument_write {P : Double → Prop} {v} (storable : Storable P v)
    (ints : ∀ n, N (Decimal.writeInt n).toList)
    (floats : ∀ x, P x → N (x.write Double.documentLayout).toList) :
    IsDocument N (write indent? v).toList := by
  have derives : Derives N .value (writeValue indent? 0 v) := storable.derives ints floats 0
  refine ⟨[], _, [], spaces_nil, derives, spaces_nil, ?_⟩
  rw [write, String.toList_ofList, List.nil_append, List.append_nil]

/-- A text that an integer is written as, or another number of some kind. -/
def Written (P : Double → Prop) (cs : List Char) : Prop :=
  (∃ n, cs = (Decimal.writeInt n).toList) ∨
    ∃ x, P x ∧ cs = (x.write Double.documentLayout).toList

/-- A number shows the capital of its name exactly when it is of the kind that the name is for. -/
lemma mem_write_iff (x : Double) :
    '"' ∉ (x.write Double.documentLayout).toList ∧
      ('N' ∈ (x.write Double.documentLayout).toList ↔ ∃ shared, x = .nan shared) ∧
      ('I' ∈ (x.write Double.documentLayout).toList ↔ ∃ negative, x = .infinite negative) := by
  cases x with
  | nan shared => simp [Double.write, Double.documentLayout]
  | infinite negative => cases negative <;> simp [Double.write, Double.documentLayout]
  | finite negative exponent fraction =>
    obtain ⟨quote, nan, infinite⟩ := (Double.isNumeral_write Double.documentLayout
      (x := .finite negative exponent fraction) rfl).capitals
    refine ⟨quote, ⟨fun mem => (nan mem).elim, ?_⟩, ⟨fun mem => (infinite mem).elim, ?_⟩⟩
    · rintro ⟨_, e⟩
      cases e
    · rintro ⟨_, e⟩
      cases e

variable {P : Double → Prop}

/-- A written number has no quotes. -/
lemma Written.quotes {cs} (written : Written P cs) : '"' ∉ cs := by
  rcases written with ⟨n, rfl⟩ | ⟨x, _, rfl⟩
  · exact (Decimal.isNumeral_writeInt n).capitals.1
  · exact (mem_write_iff x).1

/-- What can be stored shows nothing but its frame and its numbers. -/
lemma Storable.shows {v} (storable : Storable P v) (depth : Nat) :
    Shows (Visible (Written P)) (writeValue indent? depth v) := by
  have derives : Derives (Written P) .value (writeValue indent? depth v) :=
    storable.derives (fun n => .inl ⟨n, rfl⟩) (fun x kind => .inr ⟨x, kind, rfl⟩) depth
  exact derives.shows fun _ written => written.quotes

/-- Without infinite numbers the capital of their name is not seen outside of texts. -/
lemma Storable.not_mem_bare {v} (storable : Storable P v)
    (none : ∀ x, P x → ∀ negative, x ≠ .infinite negative) :
    'I' ∉ bare (write indent? v).toList := by
  rw [write, String.toList_ofList]
  intro mem
  obtain framed | ⟨_, written, mem⟩ := (storable.shows 0).of_mem mem
  · exact absurd framed (by decide)
  · rcases written with ⟨n, rfl⟩ | ⟨x, kind, rfl⟩
    · exact (Decimal.isNumeral_writeInt n).capitals.2.2 mem
    · obtain ⟨negative, e⟩ := (mem_write_iff x).2.2.1 mem
      exact none x kind negative e

/-- A separator shows the frame. -/
lemma separator_shows : Shows (Visible (Written P)) (separator indent? depth) := by
  obtain ⟨t, spaces, e⟩ := separator_eq indent? depth
  rw [e]
  exact (shows_framing (by simp [framing])).append spaces.shows

/-- A key shows the frame. -/
lemma writeKey_shows (key : Value) : Shows (Visible (Written P)) (writeKey key) := by
  obtain ⟨q, quoted, e⟩ := writeKey_eq key
  rw [e, List.append_nil, List.append_assoc]
  exact quoted.shows.append (shows_framing (by simp [framing]))

/-- What one of some written items shows, they show together. -/
lemma mem_bare_writeItems {items v c t} (each : ∀ w ∈ items, Storable P w) (mem : v ∈ items)
    (seen : c ∈ bare (writeValue indent? depth v)) :
    c ∈ bare (writeItems indent? depth items ++ t) := by
  induction items with
  | nil => cases mem
  | cons w items ih =>
    obtain ⟨first, others⟩ := List.forall_mem_cons.1 each
    have value_shows : Shows (Visible (Written P)) (writeValue indent? depth w) := first.shows depth
    cases items with
    | nil =>
      rw [writeItems, value_shows.bare_append]
      rw [List.mem_singleton.1 mem] at seen
      exact List.mem_append_left _ seen
    | cons next items =>
      rw [writeItems, List.append_assoc, (value_shows.append separator_shows).bare_append,
        value_shows.bare_append]
      · rcases List.mem_cons.1 mem with rfl | mem
        · exact List.mem_append_left _ (List.mem_append_left _ seen)
        · exact List.mem_append_right _ (ih others mem)
      · exact List.cons_ne_nil _ _

/-- What is seen in the value of an entry is seen in the entries. -/
lemma mem_bare_writeEntries {entries : Record} {entry c t}
    (each : ∀ e ∈ entries, Storable P e.2) (mem : entry ∈ entries)
    (seen : c ∈ bare (writeValue indent? depth entry.2)) :
    c ∈ bare (writeEntries indent? depth entries ++ t) := by
  induction entries with
  | nil => cases mem
  | cons e entries ih =>
    obtain ⟨key, v⟩ := e
    obtain ⟨first, others⟩ := List.forall_mem_cons.1 each
    have key_shows : Shows (Visible (Written P)) (writeKey key) := writeKey_shows key
    have value_shows : Shows (Visible (Written P)) (writeValue indent? depth v) := first.shows depth
    have entry_shows := key_shows.append value_shows
    cases entries with
    | nil =>
      rw [writeEntries, entry_shows.bare_append, key_shows.bare_append]
      rw [List.mem_singleton.1 mem] at seen
      exact List.mem_append_left _ (List.mem_append_right _ seen)
    | cons next entries =>
      rw [writeEntries, List.append_assoc, (entry_shows.append separator_shows).bare_append,
        entry_shows.bare_append, key_shows.bare_append]
      · rcases List.mem_cons.1 mem with rfl | mem
        · exact List.mem_append_left _ (List.mem_append_left _ (List.mem_append_right _ seen))
        · exact List.mem_append_right _ (ih others mem)
      · exact List.cons_ne_nil _ _

/-- What stands behind an opening bracket is seen. -/
lemma mem_bare_opening {c opening : Char} {content : List Char} (framed : opening ∈ framing)
    (seen : c ∈ bare content) : c ∈ bare ([opening] ++ lineBreak indent? depth ++ content) := by
  have front : Shows (Visible IsNumeral) ([opening] ++ lineBreak indent? depth) := by
    apply Shows.append _ (spaces_lineBreak indent? depth).shows
    apply shows_framing
    intro d mem
    exact List.mem_singleton.1 mem ▸ framed
  rw [front.bare_append]
  exact List.mem_append_right _ seen

/-- What an item of a list shows, the list shows. -/
lemma mem_bare_list {items v c} (each : ∀ w ∈ items, Storable P w) (mem : v ∈ items)
    (seen : c ∈ bare (writeValue indent? (depth + 1) v)) :
    c ∈ bare (writeValue indent? depth (.list items)) := by
  cases items with
  | nil => cases mem
  | cons first items =>
    have together := mem_bare_writeItems (t := lineBreak indent? depth ++ [']']) each mem seen
    have framed : '[' ∈ framing := by decide
    rw [writeValue, writeList, List.append_assoc, List.append_assoc]
    exact mem_bare_opening framed together

/-- What the value of an entry shows, the mapping shows. -/
lemma mem_bare_record {entries : Record} {entry c} (each : ∀ e ∈ entries, Storable P e.2)
    (mem : entry ∈ entries) (seen : c ∈ bare (writeValue indent? (depth + 1) entry.2)) :
    c ∈ bare (writeValue indent? depth (.record false entries)) := by
  cases entries with
  | nil => cases mem
  | cons first entries =>
    have together := mem_bare_writeEntries (t := lineBreak indent? depth ++ ['\x7d']) each mem seen
    have framed : '\x7b' ∈ framing := by decide
    rw [writeValue, List.append_assoc, List.append_assoc]
    exact mem_bare_opening framed together

/-- A value whose written form shows neither capital has only finite numbers. -/
lemma Storable.finite {v} (storable : Storable P v) {depth : Nat}
    (nan : 'N' ∉ bare (writeValue indent? depth v))
    (infinite : 'I' ∉ bare (writeValue indent? depth v)) :
    Storable (fun x => x.isFinite = true) v := by
  induction storable generalizing depth with
  | null => exact .null
  | bool => exact .bool
  | int => exact .int
  | text => exact .text
  | @float x _ =>
    obtain ⟨quotes, nans, infinites⟩ := mem_write_iff x
    rw [writeValue, bare_plain quotes] at nan infinite
    cases x with
    | nan shared => exact (nan (nans.2 ⟨shared, rfl⟩)).elim
    | infinite negative => exact (infinite (infinites.2 ⟨negative, rfl⟩)).elim
    | finite => exact .float rfl
  | list each ih =>
    apply Storable.list
    intro w mem
    apply ih w mem
    · exact fun seen => nan (mem_bare_list each mem seen)
    · exact fun seen => infinite (mem_bare_list each mem seen)
  | record keys each ih =>
    apply Storable.record keys
    intro entry mem
    apply ih entry mem
    · exact fun seen => nan (mem_bare_record each mem seen)
    · exact fun seen => infinite (mem_bare_record each mem seen)

/-- What a document can hold is written as a document of JSON exactly when its numbers are finite, and
exactly when the names of others are not seen outside of texts, not even the capitals that they start
with. -/
lemma isDocument_write_iff {v} (storable : Storable P v) (indent? : Option Nat) :
    (IsDocument IsNumeral (write indent? v).toList ↔ Storable (fun x => x.isFinite = true) v) ∧
      (IsDocument IsNumeral (write indent? v).toList ↔
        'N' ∉ bare (write indent? v).toList ∧ 'I' ∉ bare (write indent? v).toList) := by
  have document : Storable (fun x => x.isFinite = true) v →
      IsDocument IsNumeral (write indent? v).toList := by
    intro finite
    exact finite.isDocument_write Decimal.isNumeral_writeInt
      fun x kind => Double.isNumeral_write Double.documentLayout kind
  have clear : 'N' ∉ bare (write indent? v).toList → 'I' ∉ bare (write indent? v).toList →
      Storable (fun x => x.isFinite = true) v := by
    rw [write, String.toList_ofList]
    exact storable.finite
  constructor
  · refine ⟨?_, document⟩
    intro strict
    exact clear strict.not_mem_bare.1 strict.not_mem_bare.2
  · refine ⟨IsDocument.not_mem_bare, ?_⟩
    rintro ⟨nan, infinite⟩
    exact document (clear nan infinite)

end RecordSchema.Json
