import RecordSchema.Proofs.Grammar

/-!
# Read documents

A document of JSON is read part by part, as its grammar says: each leaf has a lemma that says what is
read of it and what is left (`Quoted.readPoints`, `Numeral.readNumber_text`), and `Derives.reads` puts
them together by induction on the grammar. A document whose numerals are finite is thus read as a value
that has finite numbers only (`IsDocument.storable`).
-/

namespace RecordSchema.Json

/-- Space is skipped as a whole. -/
lemma skipSpace_append {s : List Char} (spaces : Spaces s) (cs : List Char) :
    skipSpace (s ++ cs) = skipSpace cs :=
  List.dropWhile_append_of_pos spaces

/-- Where there is no space, nothing is skipped. -/
lemma skipSpace_cons {c : Char} {cs : List Char} (dark : isSpace c = false) :
    skipSpace (c :: cs) = c :: cs :=
  List.dropWhile_cons_of_neg (by rw [dark]; exact Bool.false_ne_true)

/-- A text is read up to its closing quote, whatever escapes are in it. -/
lemma Quoted.readPoints {q} (quoted : Quoted q) (rest : List Char) :
    ∃ points, readPoints (q ++ rest) = some (points, rest) := by
  induction quoted with
  | close => exact ⟨[], by rw [List.singleton_append, Json.readPoints]⟩
  | @piece cs tail piece _ ih =>
    obtain ⟨points, e⟩ := ih
    rw [List.append_assoc]
    generalize tail ++ rest = later at e ⊢
    cases piece with
    | @plain c low quote backslash =>
      have bare : ¬(c = '\\' ∨ c < ' ') := by
        rintro (same | control)
        · exact backslash same
        · exact absurd low (not_le_of_gt control)
      rw [List.singleton_append, Json.readPoints.eq_5 c later quote
        (fun _ _ _ _ _ same => (backslash same).elim) fun _ _ same => (backslash same).elim,
        if_neg bare, e]
      exact ⟨_, rfl⟩
    | @short letter mem =>
      have other : letter ≠ 'u' := by
        rintro rfl
        revert mem
        decide
      have escape : ∀ letter ∈ ['"', '\\', '/', 'b', 'f', 'n', 'r', 't'],
          (shortEscape? letter).isSome = true := by
        simp [shortEscape?, shortEscapes]
      obtain ⟨c, ec⟩ := Option.isSome_iff_exists.1 (escape letter mem)
      change ∃ points, Json.readPoints ('\\' :: letter :: later) = _
      rw [Json.readPoints.eq_4 letter later fun _ _ _ _ _ same => (other same).elim, ec, e]
      exact ⟨_, rfl⟩
    | @unit digits four hex =>
      match digits, four with
      | [a, b, c, d], _ =>
        obtain ⟨n, en⟩ : ∃ n, readUnit? a b c d = some n := by
          simp only [List.forall_mem_cons, Option.isSome_iff_exists] at hex
          obtain ⟨⟨_, ea⟩, ⟨_, eb⟩, ⟨_, ec⟩, ⟨_, ed⟩, _⟩ := hex
          rw [readUnit?, ea, eb, ec, ed]
          exact ⟨_, rfl⟩
        change ∃ points, Json.readPoints ('\\' :: 'u' :: a :: b :: c :: d :: later) = _
        rw [Json.readPoints, en, e]
        exact ⟨_, rfl⟩

/-- A text is read up to its closing quote. -/
lemma Quoted.readText {q rest s r} (quoted : Quoted q) (e : readText (q ++ rest) = some (s, r)) :
    r = rest := by
  obtain ⟨points, ep⟩ := quoted.readPoints rest
  rw [Json.readText, ep] at e
  cases e
  rfl

/-- A unit that is no part of a pair is read like any other, and stays half of one. -/
example : readText ['\\', 'u', 'd', '8', '0', '0', '"'] = some (.ofList [.half 0], []) := by
  decide

/-- The key of an entry is read with all the space around the colon behind it. -/
lemma readKey_text {q s t rest key r} (quoted : Quoted q) (before : Spaces s) (after : Spaces t)
    (e : readKey (['"'] ++ q ++ s ++ [':'] ++ t ++ rest) = some (key, r)) : r = skipSpace rest := by
  have spelled : ['"'] ++ q ++ s ++ [':'] ++ t ++ rest = '"' :: (q ++ (s ++ ':' :: (t ++ rest))) := by
    simp
  rw [spelled, readKey] at e
  split at e
  · rename_i er
    obtain rfl := quoted.readText er
    rw [skipSpace_append before, skipSpace_cons (by rfl)] at e
    cases e
    exact skipSpace_append after rest
  · cases e

/-- What may stand behind a number. -/
def followers : List Char :=
  [' ', '\t', '\n', '\r', ',', ']', '\x7d']

/-- What stands behind a number: nothing, or a character that is no part of one. -/
def Follows (rest : List Char) : Prop :=
  ∀ c, rest.head? = some c → c ∈ followers

/-- Nothing, or a character that is no digit. -/
def Stops (rest : List Char) : Prop :=
  ∀ c, rest.head? = some c → c.isDigit = false

/-- What may follow a number is no digit. -/
lemma Follows.stops {rest} (follows : Follows rest) : Stops rest := by
  have followers_stop : ∀ c ∈ followers, c.isDigit = false := by
    simp [followers]
  exact fun c e => followers_stop c (follows c e)

/-- All digits ahead are found, up to what is none. -/
lemma digitsAhead_append {digits rest : List Char} (all : ∀ c ∈ digits, c.isDigit = true)
    (stops : Stops rest) : digitsAhead (digits ++ rest) = digits := by
  rw [digitsAhead, List.takeWhile_append_of_pos all]
  cases rest with
  | nil => rw [List.takeWhile_nil, List.append_nil]
  | cons c rest =>
    rw [List.takeWhile_cons_of_neg (by rw [stops c rfl]; exact Bool.false_ne_true), List.append_nil]

section Number

variable {rest : List Char}

/-- The digits in front of the point are read as they are. -/
lemma readWhole_append {whole} (valid : Digits whole)
    (leading : whole.head? = some '0' → whole = ['0']) (stops : Stops rest) :
    readWhole (whole ++ rest) = some (whole, rest) := by
  rw [readWhole, digitsAhead_append valid.2 stops]
  split
  · exact (valid.1 rfl).elim
  · rw [leading rfl]
    rfl
  · rw [List.drop_left]

/-- The digits behind the point are read as they are, if there are any. -/
lemma readFraction_append {fraction} (all : ∀ c ∈ fraction, c.isDigit = true) (stops : Stops rest)
    (point : rest.head? ≠ some '.') :
    readFraction (Numeral.fractionText fraction ++ rest) = (fraction, rest) := by
  unfold Numeral.fractionText
  split
  · rename_i none
    rw [none, List.nil_append, readFraction]
    rintro _ rfl
    exact point rfl
  · rename_i some
    rw [List.append_assoc, List.singleton_append, readFraction, digitsAhead_append all stops]
    split
    · exact (some rfl).elim
    · rw [List.drop_left]

/-- The sign of an exponent is told from its digits. -/
lemma readSign_append {e : Exponent} (valid : e.Valid) :
    readSign (e.sign ++ e.digits ++ rest) = (decide (e.sign = ['-']), e.digits ++ rest) := by
  obtain ⟨_, sign, some, all⟩ := valid
  rcases sign with es | es | es
  · -- Without a sign a digit comes first, which is none.
    rw [es, List.nil_append]
    cases ed : e.digits with
    | nil => exact (some ed).elim
    | cons d digits =>
      have digit := all d (by rw [ed]; exact List.mem_cons_self)
      rw [List.cons_append, readSign]
      · rfl
      · intro _ same
        cases same
        cases digit
      · intro _ same
        cases same
        cases digit
  · rw [es]
    rfl
  · rw [es]
    rfl

/-- An exponent is read as the integer that it is, if there is one. -/
lemma readExponent_append {exponent? : Option Exponent}
    (valid : ∀ e, exponent? = some e → e.Valid) (follows : Follows rest) :
    readExponent (Numeral.exponentText exponent? ++ rest) =
      (exponent?.map Exponent.value, rest) := by
  cases exponent? with
  | none =>
    rw [Numeral.exponentText, List.nil_append, readExponent.eq_def]
    split
    · rename_i mark rest
      have other : ¬(mark = 'e' ∨ mark = 'E') := by
        rintro (rfl | rfl) <;> exact absurd (follows _ rfl) (by decide)
      rw [if_neg other]
      rfl
    · rfl
  | some e =>
    have valid := valid e rfl
    rw [Numeral.exponentText, Exponent.text, List.append_assoc, List.append_assoc,
      List.singleton_append, readExponent, if_pos valid.mark, ← List.append_assoc,
      readSign_append valid]
    dsimp only
    rw [digitsAhead_append valid.digits.2 follows.stops]
    split
    · rename_i none
      exact (valid.digits.1 none).elim
    · rw [List.drop_left]
      by_cases negative : e.sign = ['-'] <;> simp [Exponent.value, negative]

/-- What stands behind the digits of a numeral is the mark of its exponent, or what stands behind it. -/
lemma head_exponentText {exponent? : Option Exponent} {c}
    (valid : ∀ e, exponent? = some e → e.Valid) (follows : Follows rest)
    (e : (Numeral.exponentText exponent? ++ rest).head? = some c) :
    c.isDigit = false ∧ c ≠ '.' := by
  cases exponent? with
  | none =>
    have follower := follows c e
    refine ⟨follows.stops c e, ?_⟩
    rintro rfl
    exact absurd follower (by decide)
  | some exponent =>
    have same : some exponent.mark = some c := e
    cases same
    rcases (valid exponent rfl).mark with em | em <;> rw [em] <;> decide

/-- The parts of a numeral behind its sign are read one after another. -/
lemma Numeral.readNumber_unsigned {n : Numeral} (valid : n.Valid) (follows : Follows rest) :
    readWhole (n.unsignedText ++ rest) =
        some (n.whole, fractionText n.fraction ++ (exponentText n.exponent? ++ rest)) ∧
      readFraction (fractionText n.fraction ++ (exponentText n.exponent? ++ rest)) =
        (n.fraction, exponentText n.exponent? ++ rest) := by
  obtain ⟨whole, leading, fraction, exponent⟩ := valid
  have stops : Stops (exponentText n.exponent? ++ rest) :=
    fun c e => (head_exponentText exponent follows e).1
  have stops' : Stops (fractionText n.fraction ++ (exponentText n.exponent? ++ rest)) := by
    unfold fractionText
    split
    · exact stops
    · intro c e
      cases e
      rfl
  constructor
  · rw [unsignedText, List.append_assoc, List.append_assoc]
    exact readWhole_append whole leading stops'
  · apply readFraction_append fraction stops
    intro e
    exact (head_exponentText exponent follows e).2 rfl

/-- Behind its sign a numeral starts with a digit. -/
lemma Numeral.head_unsignedText {n : Numeral} (valid : n.Valid) :
    ∃ d cs, n.unsignedText = d :: cs ∧ d.isDigit = true := by
  obtain ⟨some, all⟩ := valid.whole
  cases ew : n.whole with
  | nil => exact (some ew).elim
  | cons d digits =>
    refine ⟨d, digits ++ fractionText n.fraction ++ exponentText n.exponent?, ?_, ?_⟩
    · rw [unsignedText, ew, List.cons_append, List.cons_append]
    · exact all d (by rw [ew]; exact List.mem_cons_self)

/-- A numeral is read as the number that its parts are. -/
lemma Numeral.readNumber_text {n : Numeral} (valid : n.Valid) (follows : Follows rest) :
    readNumber (n.text ++ rest) = n.value?.map (·, rest) := by
  obtain ⟨whole, fraction⟩ := readNumber_unsigned valid follows
  have exponent := readExponent_append valid.exponent follows
  rw [value?]
  cases sign : n.negative with
  | true =>
    have spelled : n.text ++ rest = '-' :: (n.unsignedText ++ rest) := by
      rw [text, sign]
      rfl
    simp only [spelled, readNumber, whole, fraction, exponent]
  | false =>
    have spelled : n.text ++ rest = n.unsignedText ++ rest := by
      rw [text, sign]
      rfl
    obtain ⟨d, cs, e, digit⟩ := head_unsignedText valid
    have unsigned : ∀ later, n.unsignedText ++ rest = '-' :: later → False := by
      intro later same
      rw [e] at same
      cases same
      cases digit
    rw [spelled, readNumber.eq_2 _ unsigned]
    simp only [whole, fraction, exponent]

/-- A digit is not what is none. -/
lemma ne_of_isDigit {c d : Char} (digit : c.isDigit = true) (other : d.isDigit = false) : c ≠ d := by
  rintro rfl
  cases digit.symm.trans other

/-- No name is read where a numeral is. -/
lemma Numeral.readName_text {n : Numeral} (valid : n.Valid) : readName (n.text ++ rest) = none := by
  obtain ⟨d, cs, e, digit⟩ := head_unsignedText valid
  have other : ∀ {c : Char}, c.isDigit = false → (c == d) = false := by
    intro c other
    rw [beq_eq_false_iff_ne]
    exact (ne_of_isDigit digit other).symm
  unfold text
  rw [e]
  cases n.negative with
  | true => simp [readName, names, List.isPrefixOf, other (show 'I'.isDigit = false from rfl)]
  | false =>
    simp [readName, names, List.isPrefixOf, other (show 'n'.isDigit = false from rfl),
      other (show 't'.isDigit = false from rfl), other (show 'f'.isDigit = false from rfl),
      other (show 'N'.isDigit = false from rfl), other (show 'I'.isDigit = false from rfl),
      other (show '-'.isDigit = false from rfl)]

end Number

/-- A character that the parts of a document may start with: no space, and no closing bracket. -/
def isStart (c : Char) : Bool :=
  !(isSpace c || c = ']' || c = '\x7d')

/-- A numeral starts with a character that starts nothing else. -/
lemma Numeral.head_text {n : Numeral} (valid : n.Valid) :
    ∃ c cs, n.text = c :: cs ∧ isStart c = true ∧ c ≠ '"' ∧ c ≠ '[' ∧ c ≠ '\x7b' := by
  unfold text
  cases n.negative with
  | true => exact ⟨'-', n.unsignedText, rfl, by decide⟩
  | false =>
    obtain ⟨d, cs, e, digit⟩ := head_unsignedText valid
    refine ⟨d, cs, e, ?_, ne_of_isDigit digit rfl, ne_of_isDigit digit rfl, ne_of_isDigit digit rfl⟩
    simp [isStart, isSpace, ne_of_isDigit digit (show ' '.isDigit = false from rfl),
      ne_of_isDigit digit (show '\t'.isDigit = false from rfl),
      ne_of_isDigit digit (show '\n'.isDigit = false from rfl),
      ne_of_isDigit digit (show '\r'.isDigit = false from rfl),
      ne_of_isDigit digit (show ']'.isDigit = false from rfl),
      ne_of_isDigit digit (show '\x7d'.isDigit = false from rfl)]

/-- The parts of a document start with a character that is neither space nor a closing bracket. -/
lemma Derives.starts {N part cs} (derives : Derives N part cs) (numerals : ∀ cs, N cs → IsNumeral cs) :
    ∃ c rest, cs = c :: rest ∧ isStart c = true := by
  have carry : ∀ {v : List Char} (rest : List Char), (∃ c cs, v = c :: cs ∧ isStart c = true) →
      ∃ c cs, v ++ rest = c :: cs ∧ isStart c = true := by
    rintro v rest ⟨c, cs, rfl, starts⟩
    exact ⟨c, cs ++ rest, rfl, starts⟩
  induction derives with
  | name mem =>
    simp only [List.mem_cons, List.not_mem_nil, or_false] at mem
    rcases mem with rfl | rfl | rfl
    · exact ⟨'n', "ull".toList, by simp, by decide⟩
    · exact ⟨'t', "rue".toList, by simp, by decide⟩
    · exact ⟨'f', "alse".toList, by simp, by decide⟩
  | number leaf =>
    obtain ⟨n, valid, rfl⟩ := numerals _ leaf
    obtain ⟨c, rest, e, starts, _⟩ := Numeral.head_text valid
    exact ⟨c, rest, e, starts⟩
  | text => exact ⟨'"', _, rfl, by decide⟩
  | emptyList => exact ⟨'[', _, rfl, by decide⟩
  | list => exact ⟨'[', _, rfl, by decide⟩
  | emptyRecord => exact ⟨'\x7b', _, rfl, by decide⟩
  | record => exact ⟨'\x7b', _, rfl, by decide⟩
  | lastElement _ _ ih => exact carry _ (carry _ ih)
  | element _ _ _ _ ih => exact carry _ (carry _ (carry _ (carry _ ih)))
  | lastMember => exact ⟨'"', _, rfl, by decide⟩
  | member => exact ⟨'"', _, rfl, by decide⟩

/-- The space in front of a part of a document is skipped. -/
lemma Derives.skipSpace {N part cs s} (derives : Derives N part cs)
    (numerals : ∀ cs, N cs → IsNumeral cs) (spaces : Spaces s) (rest : List Char) :
    skipSpace (s ++ cs ++ rest) = cs ++ rest := by
  obtain ⟨c, tail, rfl, starts⟩ := derives.starts numerals
  have dark : isSpace c = false := by
    cases space : isSpace c with
    | false => rfl
    | true => simp [isStart, space] at starts
  rw [List.append_assoc, skipSpace_append spaces]
  exact skipSpace_cons dark

/-- Space in front of what may follow a number may follow it too. -/
lemma Follows.of_spaces {s rest} (spaces : Spaces s) (follows : Follows rest) :
    Follows (s ++ rest) := by
  intro c e
  cases s with
  | nil => exact follows c e
  | cons first s =>
    cases e
    have space := spaces c List.mem_cons_self
    simp only [isSpace, Bool.or_eq_true, decide_eq_true_eq] at space
    rcases space with ((rfl | rfl) | rfl) | rfl <;> decide

/-- A follower may stand in front of anything. -/
lemma Follows.cons {c} (mem : c ∈ followers) (rest : List Char) : Follows (c :: rest) := by
  intro d e
  cases e
  exact mem

section Equations

variable {budget : Nat} {before : Record} {rest cs : List Char}

/-- Without a budget no value is read. -/
lemma readValue_zero : readValue 0 cs = none :=
  rfl

/-- A quote starts a text. -/
lemma readValue_text :
    readValue (budget + 1) ('"' :: rest) =
      (readText rest).map fun (s, rest) => (.text s, rest) :=
  rfl

/-- A bracket starts a list, which may be empty. -/
lemma readValue_list :
    readValue (budget + 1) ('[' :: rest) =
      match skipSpace rest with
      | ']' :: rest => some (.list [], rest)
      | rest => (readItems budget rest).map fun (items, rest) => (.list items, rest) :=
  rfl

/-- A brace starts a mapping, which may be empty. -/
lemma readValue_record :
    readValue (budget + 1) ('\x7b' :: rest) =
      match skipSpace rest with
      | '\x7d' :: rest => some (.record false [], rest)
      | rest =>
        (readEntries budget [] rest).map fun (entries, rest) => (.record false entries, rest) :=
  rfl

/-- Without a budget no items are read. -/
lemma readItems_zero : readItems 0 cs = none :=
  rfl

/-- Items are read one after another up to the closing bracket. -/
lemma readItems_succ :
    readItems (budget + 1) cs =
      match readValue budget cs with
      | none => none
      | some (v, rest) =>
        match skipSpace rest with
        | ']' :: rest => some ([v], rest)
        | ',' :: rest =>
          (readItems budget (skipSpace rest)).map fun (items, rest) => (v :: items, rest)
        | _ => none :=
  rfl

/-- Without a budget no entries are read. -/
lemma readEntries_zero : readEntries 0 before cs = none :=
  rfl

/-- Entries are read one after another up to the closing brace. -/
lemma readEntries_succ :
    readEntries (budget + 1) before cs =
      match readKey cs with
      | none => none
      | some (key, rest) =>
        match readValue budget rest with
        | none => none
        | some (v, rest) =>
          match skipSpace rest with
          | '\x7d' :: rest => some (Record.set before key v, rest)
          | ',' :: rest => readEntries budget (Record.set before key v) (skipSpace rest)
          | _ => none :=
  rfl

end Equations

/-- What is neither a text nor a list nor a mapping is read as a name or a number. -/
lemma readValue_scalar {c cs budget} (text : c ≠ '"') (list : c ≠ '[') (record : c ≠ '\x7b') :
    readValue (budget + 1) (c :: cs) =
      match readName (c :: cs) with
      | some result => some result
      | none => readNumber (c :: cs) := by
  apply readValue.eq_5
  · intro rest same
    cases same
    exact text rfl
  · intro rest same
    cases same
    exact list rfl
  · intro rest same
    cases same
    exact record rfl

/-- What reading a part of a document gives, if anything: it leaves what follows the part, and the
numbers in what it gives are finite. -/
def Reads : Part → List Char → Prop
  | .value, cs => ∀ budget rest v r, Follows rest → readValue budget (cs ++ rest) = some (v, r) →
      r = rest ∧ Storable (fun x => x.isFinite = true) v
  | .elements, cs => ∀ budget rest items r, readItems budget (cs ++ rest) = some (items, r) →
      r = rest ∧ ∀ v ∈ items, Storable (fun x => x.isFinite = true) v
  | .members, cs => ∀ budget before rest entries r,
      Storable (fun x => x.isFinite = true) (.record false before) →
      readEntries budget before (cs ++ rest) = some (entries, r) →
      r = rest ∧ Storable (fun x => x.isFinite = true) (.record false entries)

/-- Without a budget no value is read. -/
lemma reads_value {cs}
    (succ : ∀ budget rest v r, Follows rest → readValue (budget + 1) (cs ++ rest) = some (v, r) →
      r = rest ∧ Storable (fun x => x.isFinite = true) v) : Reads .value cs := by
  intro budget rest v r follows e
  cases budget with
  | zero =>
    rw [readValue_zero] at e
    cases e
  | succ budget => exact succ budget rest v r follows e

/-- The name of a value is read as the value, which can be stored. -/
lemma readName_append {cs} (mem : cs ∈ ["null".toList, "true".toList, "false".toList])
    (rest : List Char) :
    ∃ v c tail, cs = c :: tail ∧ c ≠ '"' ∧ c ≠ '[' ∧ c ≠ '\x7b' ∧
      readName (cs ++ rest) = some (v, rest) ∧ Storable (fun x => x.isFinite = true) v := by
  simp only [List.mem_cons, List.not_mem_nil, or_false] at mem
  rcases mem with rfl | rfl | rfl
  · exact ⟨.null, 'n', "ull".toList, by simp, by decide, by decide, by decide,
      by simp [readName, names], .null⟩
  · exact ⟨.bool true, 't', "rue".toList, by simp, by decide, by decide, by decide,
      by simp [readName, names], .bool⟩
  · exact ⟨.bool false, 'f', "alse".toList, by simp, by decide, by decide, by decide,
      by simp [readName, names], .bool⟩

/-- The name of a value is read whole. -/
lemma reads_name {cs} (mem : cs ∈ ["null".toList, "true".toList, "false".toList]) :
    Reads .value cs := by
  apply reads_value
  intro budget rest v r _ e
  obtain ⟨w, c, tail, rfl, text, list, record, name, storable⟩ := readName_append mem rest
  rw [List.cons_append] at e name
  rw [readValue_scalar text list record, name] at e
  cases e
  exact ⟨rfl, storable⟩

/-- A finite numeral is read as an integer or a finite number. -/
lemma Numeral.Finite.storable {n : Numeral} (finite : n.Finite) {v} (e : n.value? = some v) :
    Storable (fun x => x.isFinite = true) v := by
  have kept := e
  unfold Numeral.value? number? at e
  split at e
  · split at e
    · cases e
    · cases e
      exact .int
  · cases e
    exact .float (finite _ kept)

/-- A numeral of a finite number is read whole. -/
lemma reads_number {cs} (numeral : IsFiniteNumeral cs) : Reads .value cs := by
  apply reads_value
  intro budget rest v r follows e
  obtain ⟨n, valid, finite, rfl⟩ := numeral
  obtain ⟨c, cs, spelled, _, text, list, record⟩ := Numeral.head_text valid
  have no_name : readName (n.text ++ rest) = none := Numeral.readName_text valid
  have number := Numeral.readNumber_text valid follows
  rw [spelled, List.cons_append] at e no_name number
  rw [readValue_scalar text list record, no_name] at e
  dsimp only at e
  rw [number] at e
  obtain ⟨w, ew, same⟩ := Option.map_eq_some_iff.1 e
  cases same
  exact ⟨rfl, finite.storable ew⟩

/-- A text is read whole. -/
lemma reads_text {q} (quoted : Quoted q) : Reads .value (['"'] ++ q) := by
  apply reads_value
  intro budget rest v r _ e
  rw [List.append_assoc, List.singleton_append, readValue_text] at e
  obtain ⟨⟨s, r'⟩, er, same⟩ := Option.map_eq_some_iff.1 e
  cases same
  exact ⟨quoted.readText er, .text⟩

/-- A list is read by its items. -/
lemma reads_list {s es} (spaces : Spaces s) (derives : Derives IsFiniteNumeral .elements es)
    (reads : Reads .elements es) : Reads .value (['['] ++ s ++ es) := by
  apply reads_value
  intro budget rest v r _ e
  have skipped := derives.skipSpace (fun _ numeral => numeral.isNumeral) spaces rest
  rw [List.append_assoc, List.append_assoc, List.singleton_append, readValue_list,
    ← List.append_assoc, skipped] at e
  obtain ⟨c, tail, spelled, starts⟩ := derives.starts fun _ numeral => numeral.isNumeral
  split at e
  · rename_i bracket
    rw [spelled] at bracket
    cases bracket
    cases starts
  · obtain ⟨⟨items, r'⟩, er, same⟩ := Option.map_eq_some_iff.1 e
    cases same
    obtain ⟨left, each⟩ := reads _ _ _ _ er
    exact ⟨left, .list each⟩

/-- An empty list is read whole. -/
lemma reads_emptyList {s} (spaces : Spaces s) : Reads .value (['['] ++ s ++ [']']) := by
  apply reads_value
  intro budget rest v r _ e
  rw [List.append_assoc, List.append_assoc, List.singleton_append, readValue_list,
    skipSpace_append spaces, List.singleton_append, skipSpace_cons (by rfl)] at e
  cases e
  exact ⟨rfl, .list nofun⟩

/-- A mapping is read by its entries. -/
lemma reads_record {s ms} (spaces : Spaces s) (derives : Derives IsFiniteNumeral .members ms)
    (reads : Reads .members ms) : Reads .value (['\x7b'] ++ s ++ ms) := by
  apply reads_value
  intro budget rest v r _ e
  have skipped := derives.skipSpace (fun _ numeral => numeral.isNumeral) spaces rest
  rw [List.append_assoc, List.append_assoc, List.singleton_append, readValue_record,
    ← List.append_assoc, skipped] at e
  obtain ⟨c, tail, spelled, starts⟩ := derives.starts fun _ numeral => numeral.isNumeral
  split at e
  · rename_i brace
    rw [spelled] at brace
    cases brace
    cases starts
  · obtain ⟨⟨entries, r'⟩, er, same⟩ := Option.map_eq_some_iff.1 e
    cases same
    exact reads _ _ _ _ _ .empty er

/-- An empty mapping is read whole. -/
lemma reads_emptyRecord {s} (spaces : Spaces s) : Reads .value (['\x7b'] ++ s ++ ['\x7d']) := by
  apply reads_value
  intro budget rest v r _ e
  rw [List.append_assoc, List.append_assoc, List.singleton_append, readValue_record,
    skipSpace_append spaces, List.singleton_append, skipSpace_cons (by rfl)] at e
  cases e
  exact ⟨rfl, .empty⟩

/-- The last item of a list is read up to the closing bracket. -/
lemma reads_lastElement {v s} (reads : Reads .value v) (spaces : Spaces s) :
    Reads .elements (v ++ s ++ [']']) := by
  intro budget rest items r e
  cases budget with
  | zero =>
    rw [readItems_zero] at e
    cases e
  | succ budget =>
    have spelled : v ++ s ++ [']'] ++ rest = v ++ (s ++ ']' :: rest) := by simp
    rw [spelled, readItems_succ] at e
    split at e
    · cases e
    · rename_i er
      obtain ⟨rfl, storable⟩ := reads _ _ _ _ (.of_spaces spaces (.cons (by decide) rest)) er
      rw [skipSpace_append spaces, skipSpace_cons (by rfl)] at e
      cases e
      exact ⟨rfl, List.forall_mem_singleton.2 storable⟩

/-- An item and those after it are read up to the closing bracket. -/
lemma reads_element {v s t es} (reads : Reads .value v) (before : Spaces s) (after : Spaces t)
    (derives : Derives IsFiniteNumeral .elements es) (later : Reads .elements es) :
    Reads .elements (v ++ s ++ [','] ++ t ++ es) := by
  intro budget rest items r e
  cases budget with
  | zero =>
    rw [readItems_zero] at e
    cases e
  | succ budget =>
    have spelled : v ++ s ++ [','] ++ t ++ es ++ rest = v ++ (s ++ ',' :: (t ++ es ++ rest)) := by
      simp
    rw [spelled, readItems_succ] at e
    split at e
    · cases e
    · rename_i er
      obtain ⟨rfl, storable⟩ := reads _ _ _ _ (.of_spaces before (.cons (by decide) _)) er
      rw [skipSpace_append before, skipSpace_cons (by rfl)] at e
      change Option.map _ (readItems budget (skipSpace (t ++ es ++ rest))) = _ at e
      rw [derives.skipSpace (fun _ numeral => numeral.isNumeral) after] at e
      obtain ⟨⟨others, r'⟩, er, same⟩ := Option.map_eq_some_iff.1 e
      cases same
      obtain ⟨left, each⟩ := later _ _ _ _ er
      exact ⟨left, List.forall_mem_cons.2 ⟨storable, each⟩⟩

/-- The key of an entry is read up to its value. -/
lemma readKey_member {q s t v rest key r} (quoted : Quoted q) (before : Spaces s) (after : Spaces t)
    (derives : Derives IsFiniteNumeral .value v)
    (e : readKey (['"'] ++ q ++ s ++ [':'] ++ t ++ (v ++ rest)) = some (key, r)) : r = v ++ rest := by
  have none : Spaces [] := List.forall_mem_nil _
  rw [readKey_text quoted before after e]
  exact derives.skipSpace (fun _ numeral => numeral.isNumeral) none rest

/-- The last entry of a mapping is read up to the closing brace. -/
lemma reads_lastMember {q s t v u} (quoted : Quoted q) (before : Spaces s) (after : Spaces t)
    (derives : Derives IsFiniteNumeral .value v) (reads : Reads .value v) (spaces : Spaces u) :
    Reads .members (['"'] ++ q ++ s ++ [':'] ++ t ++ v ++ u ++ ['\x7d']) := by
  intro budget earlier rest entries r storable e
  cases budget with
  | zero =>
    rw [readEntries_zero] at e
    cases e
  | succ budget =>
    have spelled : ['"'] ++ q ++ s ++ [':'] ++ t ++ v ++ u ++ ['\x7d'] ++ rest =
        ['"'] ++ q ++ s ++ [':'] ++ t ++ (v ++ (u ++ '\x7d' :: rest)) := by
      simp
    rw [spelled, readEntries_succ] at e
    split at e
    · cases e
    · rename_i ek
      obtain rfl := readKey_member quoted before after derives ek
      split at e
      · cases e
      · rename_i er
        obtain ⟨rfl, value⟩ := reads _ _ _ _ (.of_spaces spaces (.cons (by decide) rest)) er
        rw [skipSpace_append spaces, skipSpace_cons (by rfl)] at e
        cases e
        exact ⟨rfl, storable.set value⟩

/-- An entry and those after it are read up to the closing brace. -/
lemma reads_member {q s t v u w ms} (quoted : Quoted q) (before : Spaces s) (after : Spaces t)
    (derives : Derives IsFiniteNumeral .value v) (reads : Reads .value v) (spaces : Spaces u)
    (spaces' : Spaces w) (derives' : Derives IsFiniteNumeral .members ms)
    (later : Reads .members ms) :
    Reads .members (['"'] ++ q ++ s ++ [':'] ++ t ++ v ++ u ++ [','] ++ w ++ ms) := by
  intro budget earlier rest entries r storable e
  cases budget with
  | zero =>
    rw [readEntries_zero] at e
    cases e
  | succ budget =>
    have spelled : ['"'] ++ q ++ s ++ [':'] ++ t ++ v ++ u ++ [','] ++ w ++ ms ++ rest =
        ['"'] ++ q ++ s ++ [':'] ++ t ++ (v ++ (u ++ ',' :: (w ++ ms ++ rest))) := by
      simp
    rw [spelled, readEntries_succ] at e
    split at e
    · cases e
    · rename_i ek
      obtain rfl := readKey_member quoted before after derives ek
      split at e
      · cases e
      · rename_i er
        obtain ⟨rfl, value⟩ := reads _ _ _ _ (.of_spaces spaces (.cons (by decide) _)) er
        rw [skipSpace_append spaces, skipSpace_cons (by rfl)] at e
        change readEntries budget _ (skipSpace (w ++ ms ++ rest)) = _ at e
        rw [derives'.skipSpace (fun _ numeral => numeral.isNumeral) spaces'] at e
        exact later _ _ _ _ _ (storable.set value) e

/-- Every part of a document with finite numerals is read as its grammar says. -/
lemma Derives.reads {part cs} (derives : Derives IsFiniteNumeral part cs) : Reads part cs := by
  induction derives with
  | name mem => exact reads_name mem
  | number numeral => exact reads_number numeral
  | text quoted => exact reads_text quoted
  | emptyList spaces => exact reads_emptyList spaces
  | list spaces derives ih => exact reads_list spaces derives ih
  | emptyRecord spaces => exact reads_emptyRecord spaces
  | record spaces derives ih => exact reads_record spaces derives ih
  | lastElement _ spaces ih => exact reads_lastElement ih spaces
  | element _ before after derives ih ih' => exact reads_element ih before after derives ih'
  | lastMember quoted before after derives spaces ih =>
    exact reads_lastMember quoted before after derives ih spaces
  | member quoted before after derives spaces later derives' ih ih' =>
    exact reads_member quoted before after derives ih spaces later derives' ih'

/-- A document of JSON with finite numerals is read, if it is, as a value with finite numbers. -/
lemma IsDocument.storable {cs v} (document : IsDocument IsFiniteNumeral cs) (e : read? cs = some v) :
    Storable (fun x => x.isFinite = true) v := by
  obtain ⟨s, value, t, before, derives, after, rfl⟩ := document
  have follows : Follows (t ++ []) := .of_spaces after nofun
  unfold read? at e
  rw [derives.skipSpace (fun _ numeral => numeral.isNumeral) before] at e
  split at e
  · rename_i er
    split at e
    · cases e
      rw [← List.append_nil t] at er
      exact (derives.reads _ _ _ _ follows er).2
    · cases e
  · cases e

end RecordSchema.Json
