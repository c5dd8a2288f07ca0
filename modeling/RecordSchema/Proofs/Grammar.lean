import RecordSchema.Json.Reader
import RecordSchema.Proofs.Record

/-!
# The grammar of JSON

Reading takes more than JSON: it also takes the names of what is no finite number. `IsDocument` is the
grammar without them, over lists of characters, with the texts that stand for numbers as a parameter:
any numeral (`IsNumeral`), or only those whose number is finite (`IsFiniteNumeral`). What stands outside
of texts in a document of JSON has none of the capitals that those names start with
(`IsDocument.not_mem_bare`). `Storable` are the values that documents hold.
-/

namespace RecordSchema.Json

/-- Space between the parts of a document. -/
def Spaces (cs : List Char) : Prop :=
  ∀ c ∈ cs, isSpace c = true

/-- Characters between quotes that stand for themselves, or an escape. -/
inductive Piece : List Char → Prop where
  | plain {c} :
    ' ' ≤ c →
    c ≠ '"' →
    c ≠ '\\' →
    Piece [c]
  | short {letter} :
    letter ∈ ['"', '\\', '/', 'b', 'f', 'n', 'r', 't'] →
    Piece ['\\', letter]
  | unit {digits} :
    digits.length = 4 →
    (∀ c ∈ digits, (hexValue? c).isSome = true) →
    Piece (['\\', 'u'] ++ digits)

/-- What follows the opening quote of a text, the closing one included. -/
inductive Quoted : List Char → Prop where
  | close :
    Quoted ['"']
  | piece {cs rest} :
    Piece cs →
    Quoted rest →
    Quoted (cs ++ rest)

/-- At least one digit, and nothing else. -/
def Digits (cs : List Char) : Prop :=
  cs ≠ [] ∧ ∀ c ∈ cs, c.isDigit = true

/-- The exponent of a numeral: its mark, a sign if there is one, and its digits. -/
structure Exponent where
  mark : Char
  sign : List Char
  digits : List Char

/-- The parts of a numeral; no digits behind the point stand for no point. -/
structure Numeral where
  negative : Bool
  whole : List Char
  fraction : List Char
  exponent? : Option Exponent

namespace Exponent

def text (e : Exponent) : List Char :=
  [e.mark] ++ e.sign ++ e.digits

/-- The number that an exponent is. -/
def value (e : Exponent) : Int :=
  if e.sign = ['-'] then -(ofAsciiDigits e.digits : Int) else ofAsciiDigits e.digits

/-- The mark and the sign are ones that may be written, with digits after them. -/
structure Valid (e : Exponent) : Prop where
  mark : e.mark = 'e' ∨ e.mark = 'E'
  sign : e.sign = [] ∨ e.sign = ['+'] ∨ e.sign = ['-']
  digits : Digits e.digits

end Exponent

namespace Numeral

/-- The fraction with its point, if there are digits in it. -/
def fractionText (fraction : List Char) : List Char :=
  if fraction = [] then [] else ['.'] ++ fraction

def exponentText (exponent? : Option Exponent) : List Char :=
  match exponent? with
  | none => []
  | some e => e.text

/-- What follows the sign of a numeral. -/
def unsignedText (n : Numeral) : List Char :=
  n.whole ++ fractionText n.fraction ++ exponentText n.exponent?

def text (n : Numeral) : List Char :=
  (if n.negative then ['-'] else []) ++ n.unsignedText

/-- The parts are digits where they have to be, and no zero stands in front of other digits. -/
structure Valid (n : Numeral) : Prop where
  whole : Digits n.whole
  leading : n.whole.head? = some '0' → n.whole = ['0']
  fraction : ∀ c ∈ n.fraction, c.isDigit = true
  exponent : ∀ e, n.exponent? = some e → e.Valid

/-- The number that a numeral is read as. -/
def value? (n : Numeral) : Option Value :=
  number? n.negative n.whole n.fraction (n.exponent?.map Exponent.value)

/-- A numeral is read as an integer or as a finite binary64 number. -/
def Finite (n : Numeral) : Prop :=
  ∀ x, n.value? = some (.float x) → x.isFinite = true

end Numeral

/-- A text is a numeral. -/
def IsNumeral (cs : List Char) : Prop :=
  ∃ n : Numeral, n.Valid ∧ cs = n.text

/-- A text is a numeral for an integer or a finite binary64 number. -/
def IsFiniteNumeral (cs : List Char) : Prop :=
  ∃ n : Numeral, n.Valid ∧ n.Finite ∧ cs = n.text

/-- The parts that documents are made of. -/
inductive Part where
  | value
  /-- The items of a list, up to its closing bracket. -/
  | elements
  /-- The entries of a mapping, up to its closing brace. -/
  | members

/-- A text is a part of a document, given the texts that stand for numbers. -/
inductive Derives (N : List Char → Prop) : Part → List Char → Prop where
  | name {cs} :
    cs ∈ ["null".toList, "true".toList, "false".toList] →
    Derives N .value cs
  | number {cs} :
    N cs →
    Derives N .value cs
  | text {q} :
    Quoted q →
    Derives N .value (['"'] ++ q)
  | emptyList {s} :
    Spaces s →
    Derives N .value (['['] ++ s ++ [']'])
  | list {s es} :
    Spaces s →
    Derives N .elements es →
    Derives N .value (['['] ++ s ++ es)
  | emptyRecord {s} :
    Spaces s →
    Derives N .value (['\x7b'] ++ s ++ ['\x7d'])
  | record {s ms} :
    Spaces s →
    Derives N .members ms →
    Derives N .value (['\x7b'] ++ s ++ ms)
  | lastElement {v s} :
    Derives N .value v →
    Spaces s →
    Derives N .elements (v ++ s ++ [']'])
  | element {v s t es} :
    Derives N .value v →
    Spaces s →
    Spaces t →
    Derives N .elements es →
    Derives N .elements (v ++ s ++ [','] ++ t ++ es)
  | lastMember {q s t v u} :
    Quoted q →
    Spaces s →
    Spaces t →
    Derives N .value v →
    Spaces u →
    Derives N .members (['"'] ++ q ++ s ++ [':'] ++ t ++ v ++ u ++ ['\x7d'])
  | member {q s t v u w ms} :
    Quoted q →
    Spaces s →
    Spaces t →
    Derives N .value v →
    Spaces u →
    Spaces w →
    Derives N .members ms →
    Derives N .members (['"'] ++ q ++ s ++ [':'] ++ t ++ v ++ u ++ [','] ++ w ++ ms)

/-- A text is a document: one value between spaces. -/
def IsDocument (N : List Char → Prop) (cs : List Char) : Prop :=
  ∃ s v t, Spaces s ∧ Derives N .value v ∧ Spaces t ∧ cs = s ++ v ++ t

/-- A finite numeral is a numeral. -/
lemma IsFiniteNumeral.isNumeral {cs} (finite : IsFiniteNumeral cs) : IsNumeral cs := by
  obtain ⟨n, valid, _, rfl⟩ := finite
  exact ⟨n, valid, rfl⟩

/-- Where a scan of a document is: outside of texts, in a text, or behind a backslash there. -/
inductive Place where
  | outside
  | inside
  | escaped

/-- The characters outside of texts, from a place on. -/
@[simp] def bareFrom : Place → List Char → List Char
  | _, [] => []
  | .outside, c :: rest =>
    if c = '"' then bareFrom .inside rest else c :: bareFrom .outside rest
  | .inside, c :: rest =>
    if c = '"' then bareFrom .outside rest
    else if c = '\\' then bareFrom .escaped rest
    else bareFrom .inside rest
  | .escaped, _ :: rest => bareFrom .inside rest

/-- The characters of a document outside of its texts. -/
def bare (cs : List Char) : List Char :=
  bareFrom .outside cs

/-- Scanned from outside of texts, some characters end outside of texts again, and what they show there
is allowed. -/
def Shows (allowed : Char → Prop) (cs : List Char) : Prop :=
  ∃ shown, (∀ c ∈ shown, allowed c) ∧
    ∀ rest, bareFrom .outside (cs ++ rest) = shown ++ bareFrom .outside rest

section Shows

variable {allowed : Char → Prop}

/-- What a text shows comes before what follows it shows. -/
lemma Shows.bare_append {cs} (shows_ : Shows allowed cs) (ds : List Char) :
    bare (cs ++ ds) = bare cs ++ bare ds := by
  obtain ⟨shown, _, e⟩ := shows_
  have all : bare cs = shown := by
    have e := e []
    rwa [List.append_nil, bareFrom, List.append_nil] at e
  rw [all]
  exact e ds

/-- What is seen outside of texts is allowed. -/
lemma Shows.of_mem {cs c} (shows_ : Shows allowed cs) (mem : c ∈ bare cs) : allowed c := by
  obtain ⟨shown, each, e⟩ := shows_
  have e := e []
  rw [List.append_nil, bareFrom, List.append_nil] at e
  rw [bare, e] at mem
  exact each c mem

/-- Two rows of characters show what they show one after another. -/
lemma Shows.append {cs ds} (first : Shows allowed cs) (second : Shows allowed ds) :
    Shows allowed (cs ++ ds) := by
  obtain ⟨shown, each, e⟩ := first
  obtain ⟨shown', each', e'⟩ := second
  refine ⟨shown ++ shown', ?_, ?_⟩
  · intro c mem
    exact (List.mem_append.1 mem).elim (each c) (each' c)
  · intro rest
    rw [List.append_assoc, e, e', List.append_assoc]

/-- Characters among which there is no quote show themselves. -/
lemma bareFrom_plain {cs : List Char} (quotes : '"' ∉ cs) (rest : List Char) :
    bareFrom .outside (cs ++ rest) = cs ++ bareFrom .outside rest := by
  induction cs with
  | nil => rfl
  | cons c cs ih =>
    rw [List.mem_cons, not_or] at quotes
    rw [List.cons_append, bareFrom, if_neg (Ne.symm quotes.1), ih quotes.2]
    rfl

/-- Without quotes everything is outside of texts. -/
lemma bare_plain {cs : List Char} (quotes : '"' ∉ cs) : bare cs = cs := by
  have e := bareFrom_plain quotes []
  rwa [List.append_nil, bareFrom, List.append_nil] at e

/-- Without quotes characters show themselves. -/
lemma shows_self {cs : List Char} (quotes : '"' ∉ cs) (each : ∀ c ∈ cs, allowed c) :
    Shows allowed cs :=
  ⟨cs, each, bareFrom_plain quotes⟩

/-- Characters that stand for themselves in a text are passed over. -/
lemma bareFrom_inside {cs : List Char} (plain : ∀ d ∈ cs, d ≠ '"' ∧ d ≠ '\\') (rest : List Char) :
    bareFrom .inside (cs ++ rest) = bareFrom .inside rest := by
  induction cs with
  | nil => rfl
  | cons d cs ih =>
    obtain ⟨⟨quote, backslash⟩, others⟩ := List.forall_mem_cons.1 plain
    rw [List.cons_append, bareFrom, if_neg quote, if_neg backslash, ih others]

/-- A text is left again at its closing quote. -/
lemma Quoted.bareFrom_inside {q} (quoted : Quoted q) (rest : List Char) :
    bareFrom .inside (q ++ rest) = bareFrom .outside rest := by
  induction quoted with
  | close => rfl
  | piece piece _ ih =>
    rw [List.append_assoc, ← ih]
    cases piece with
    | plain _ quote backslash =>
      apply Json.bareFrom_inside
      intro d mem
      obtain rfl := List.mem_singleton.1 mem
      exact ⟨quote, backslash⟩
    | short => rfl
    | @unit digits _ hex =>
      change bareFrom .inside (digits ++ _) = _
      apply Json.bareFrom_inside
      intro d mem
      have digit := hex d mem
      constructor
      · rintro rfl
        cases digit
      · rintro rfl
        cases digit

/-- A text shows nothing. -/
lemma Quoted.shows {q} (quoted : Quoted q) : Shows allowed (['"'] ++ q) :=
  ⟨[], nofun, quoted.bareFrom_inside⟩

end Shows

/-- The characters that documents have outside of texts, besides those of numbers. -/
def framing : List Char :=
  ['[', ']', '\x7b', '\x7d', ',', ':', ' ', '\t', '\n', '\r',
    'a', 'e', 'f', 'l', 'n', 'r', 's', 't', 'u']

/-- A character that a document may show outside of texts, given the texts that stand for numbers. -/
def Visible (N : List Char → Prop) (c : Char) : Prop :=
  c ∈ framing ∨ ∃ cs, N cs ∧ c ∈ cs

/-- The characters of the frame show nothing else. -/
lemma shows_framing {N} {cs : List Char} (each : ∀ c ∈ cs, c ∈ framing) : Shows (Visible N) cs := by
  apply shows_self
  · exact fun mem => absurd (each _ mem) (by decide)
  · exact fun c mem => .inl (each c mem)

/-- Space belongs to the frame. -/
lemma Spaces.shows {N s} (spaces : Spaces s) : Shows (Visible N) s := by
  apply shows_framing
  intro c mem
  have space := spaces c mem
  simp only [isSpace, Bool.or_eq_true, decide_eq_true_eq] at space
  rcases space with ((rfl | rfl) | rfl) | rfl <;> decide

/-- A part of a document shows nothing but its frame and its numbers. -/
lemma Derives.shows {N part cs} (derives : Derives N part cs) (quotes : ∀ cs, N cs → '"' ∉ cs) :
    Shows (Visible N) cs := by
  -- Whatever stands between names, numbers and texts belongs to the frame.
  have framed : ∀ {c}, c ∈ framing → Shows (Visible N) [c] := by
    intro c mem
    apply shows_framing
    intro d mem'
    exact List.mem_singleton.1 mem' ▸ mem
  have bracket : Shows (Visible N) ['['] := framed (by decide)
  have bracket' : Shows (Visible N) [']'] := framed (by decide)
  have brace : Shows (Visible N) ['\x7b'] := framed (by decide)
  have brace' : Shows (Visible N) ['\x7d'] := framed (by decide)
  have comma : Shows (Visible N) [','] := framed (by decide)
  have colon : Shows (Visible N) [':'] := framed (by decide)
  induction derives with
  | @name cs mem =>
    apply shows_framing
    simp only [List.mem_cons, List.not_mem_nil, or_false] at mem
    rcases mem with rfl | rfl | rfl <;> simp [framing]
  | @number cs leaf => exact shows_self (quotes cs leaf) fun c mem => .inr ⟨cs, leaf, mem⟩
  | text quoted => exact quoted.shows
  | emptyList spaces => exact (bracket.append spaces.shows).append bracket'
  | list spaces _ ih => exact (bracket.append spaces.shows).append ih
  | emptyRecord spaces => exact (brace.append spaces.shows).append brace'
  | record spaces _ ih => exact (brace.append spaces.shows).append ih
  | lastElement _ spaces ih => exact (ih.append spaces.shows).append bracket'
  | element _ before after _ ih ih' =>
    exact (((ih.append before.shows).append comma).append after.shows).append ih'
  | lastMember quoted before after _ spaces ih =>
    have key := ((quoted.shows.append before.shows).append colon).append after.shows
    exact ((key.append ih).append spaces.shows).append brace'
  | member quoted before after _ spaces later _ ih ih' =>
    have key := ((quoted.shows.append before.shows).append colon).append after.shows
    have entry := ((key.append ih).append spaces.shows).append comma
    exact (entry.append later.shows).append ih'

/-- A document shows nothing but its frame and its numbers. -/
lemma IsDocument.shows {N cs} (document : IsDocument N cs) (quotes : ∀ cs, N cs → '"' ∉ cs) :
    Shows (Visible N) cs := by
  obtain ⟨s, v, t, before, derives, after, rfl⟩ := document
  exact (before.shows.append (derives.shows quotes)).append after.shows

/-- The characters that numerals have besides digits. -/
def marks : List Char :=
  ['-', '+', '.', 'e', 'E']

/-- The fraction of a numeral has digits and its point. -/
lemma Numeral.Valid.mem_fractionText {n : Numeral} (valid : n.Valid) {c}
    (mem : c ∈ fractionText n.fraction) : c.isDigit = true ∨ c ∈ marks := by
  unfold fractionText at mem
  split at mem
  · cases mem
  · rcases List.mem_append.1 mem with mem | mem
    · obtain rfl := List.mem_singleton.1 mem
      exact .inr (by decide)
    · exact .inl (valid.fraction c mem)

/-- An exponent has digits, its mark and its sign. -/
lemma Exponent.Valid.mem_text {e : Exponent} (valid : e.Valid) {c} (mem : c ∈ e.text) :
    c.isDigit = true ∨ c ∈ marks := by
  obtain ⟨mark, sign, digits⟩ := valid
  simp only [text, List.mem_append, List.mem_singleton] at mem
  rcases mem with (rfl | mem) | mem
  · rcases mark with e | e <;> rw [e] <;> exact .inr (by decide)
  · rcases sign with e | e | e <;> rw [e] at mem
    · cases mem
    · obtain rfl := List.mem_singleton.1 mem
      exact .inr (by decide)
    · obtain rfl := List.mem_singleton.1 mem
      exact .inr (by decide)
  · exact .inl (digits.2 c mem)

/-- A numeral has digits and marks, and nothing else. -/
lemma IsNumeral.digits {cs} (numeral : IsNumeral cs) : ∀ c ∈ cs, c.isDigit = true ∨ c ∈ marks := by
  obtain ⟨n, valid, rfl⟩ := numeral
  intro c mem
  simp only [Numeral.text, Numeral.unsignedText, List.mem_append] at mem
  rcases mem with mem | (mem | mem) | mem
  · cases sign : n.negative <;> rw [sign] at mem
    · cases mem
    · obtain rfl := List.mem_singleton.1 mem
      exact .inr (by decide)
  · exact .inl (valid.whole.2 c mem)
  · exact valid.mem_fractionText mem
  · cases ee : n.exponent? with
    | none =>
      rw [ee] at mem
      cases mem
    | some e =>
      rw [ee] at mem
      exact (valid.exponent e ee).mem_text mem

/-- The capitals that the names of what is no finite number start with are in no numeral. -/
lemma IsNumeral.capitals {cs} (numeral : IsNumeral cs) : '"' ∉ cs ∧ 'N' ∉ cs ∧ 'I' ∉ cs := by
  have spelled := numeral.digits
  exact ⟨fun mem => absurd (spelled _ mem) (by decide),
    fun mem => absurd (spelled _ mem) (by decide), fun mem => absurd (spelled _ mem) (by decide)⟩

/-- A document of JSON shows no name of what is no finite number outside of its texts, not even the
capital that the name starts with. -/
lemma IsDocument.not_mem_bare {cs} (document : IsDocument IsNumeral cs) :
    'N' ∉ bare cs ∧ 'I' ∉ bare cs := by
  have shows_ := document.shows fun _ numeral => numeral.capitals.1
  constructor
  · intro mem
    obtain framed | ⟨number, numeral, mem⟩ := shows_.of_mem mem
    · exact absurd framed (by decide)
    · exact numeral.capitals.2.1 mem
  · intro mem
    obtain framed | ⟨number, numeral, mem⟩ := shows_.of_mem mem
    · exact absurd framed (by decide)
    · exact numeral.capitals.2.2 mem

/-- A value that a document can hold: nothing, a boolean, an integer, another number of some kind, a
text, a list of such values, or a mapping of texts to such values. -/
inductive Storable (P : Double → Prop) : Value → Prop where
  | null :
    Storable P .null
  | bool {b} :
    Storable P (.bool b)
  | int {n} :
    Storable P (.int n)
  | float {x} :
    P x →
    Storable P (.float x)
  | text {s} :
    Storable P (.text s)
  | list {items} :
    (∀ v ∈ items, Storable P v) →
    Storable P (.list items)
  | record {entries : Record} :
    (∀ entry ∈ entries, ∃ key, entry.1 = .text key) →
    (∀ entry ∈ entries, Storable P entry.2) →
    Storable P (.record false entries)

/-- A mapping without entries can be stored. -/
lemma Storable.empty {P} : Storable P (.record false []) :=
  .record nofun nofun

/-- A mapping can be stored with one more entry that can. -/
lemma Storable.cons {P name v} {r : Record} (value : Storable P v)
    (record : Storable P (.record false r)) : Storable P (.record false ((.text name, v) :: r)) := by
  cases record with
  | record keys each =>
    exact .record (List.forall_mem_cons.2 ⟨⟨name, rfl⟩, keys⟩)
      (List.forall_mem_cons.2 ⟨value, each⟩)

/-- What can be stored can where more numbers can. -/
lemma Storable.mono {P Q : Double → Prop} {v} (storable : Storable P v) (imp : ∀ x, P x → Q x) :
    Storable Q v := by
  induction storable with
  | null => exact .null
  | bool => exact .bool
  | int => exact .int
  | float kind => exact .float (imp _ kind)
  | text => exact .text
  | list _ ih => exact .list ih
  | record keys _ ih => exact .record keys ih

/-- An entry of a record after a name was set is one from before, or the new one. -/
lemma mem_set {r : Record} {name v entry} (mem : entry ∈ Record.set r name v) :
    entry ∈ r ∨ entry = (.text name, v) := by
  induction r with
  | nil => exact .inr (List.mem_singleton.1 mem)
  | cons first rest ih =>
    rw [Record.set] at mem
    split at mem
    · rename_i named
      rcases List.mem_cons.1 mem with rfl | mem
      · rw [Value.isText_iff.1 named]
        exact .inr rfl
      · exact .inl (List.mem_cons_of_mem _ mem)
    · rcases List.mem_cons.1 mem with rfl | mem
      · exact .inl List.mem_cons_self
      · exact (ih mem).imp (List.mem_cons_of_mem _) id

/-- A mapping can still be stored when a name is set to what can. -/
lemma Storable.set {P r name v} (record : Storable P (.record false r)) (value : Storable P v) :
    Storable P (.record false (Record.set r name v)) := by
  cases record with
  | record keys each =>
    apply Storable.record
    · intro entry mem
      rcases mem_set mem with mem | rfl
      · exact keys entry mem
      · exact ⟨name, rfl⟩
    · intro entry mem
      rcases mem_set mem with mem | rfl
      · exact each entry mem
      · exact value

end RecordSchema.Json
