import RecordSchema.Value.Equality

/-!
# Records

Look-up and replacement in records. A name is found under the text key of that spelling; replacing a
value keeps its place, and a new key goes to the end. A `Mapping` is a record together with the fact that
no text is the key of two of its entries.
-/

namespace RecordSchema

namespace Value

/-- Whether a value is the text `name`. -/
def isText (name : Text) : Value → Bool
  | text s => s == name
  | _ => false

end Value

namespace Record

/-- The value under a name. -/
def get? (r : Record) (name : Text) : Option Value :=
  (r.find? fun entry => entry.1.isText name).map (·.2)

def contains (r : Record) (name : Text) : Bool :=
  (r.get? name).isSome

/-- Puts a value under a name: in place when the name is there, at the end otherwise. -/
def set (r : Record) (name : Text) (v : Value) : Record :=
  match r with
  | [] => [(.text name, v)]
  | entry :: rest =>
    if entry.1.isText name then (entry.1, v) :: rest else entry :: Record.set rest name v

/-- Looking up the name that was set gives the value that was set. -/
theorem get?_set_self (r : Record) (name : Text) (v : Value) :
    Record.get? (Record.set r name v) name = some v := by
  induction r with
  | nil => simp [Record.set, Record.get?, Value.isText]
  | cons entry rest ih =>
    by_cases h : entry.1.isText name
    · simp [Record.set, Record.get?, h]
    · simpa [Record.set, Record.get?, h] using ih

/-- The only texts under which an entry is found are those that spell its key. -/
theorem isText_unique {key : Value} {name other : Text} (h : key.isText name)
    (h' : key.isText other) : other = name := by
  cases key <;> simp_all [Value.isText]

/-- Looking up another name gives what it gave before. -/
theorem get?_set_of_ne (r : Record) {name other : Text} (h : other ≠ name) (v : Value) :
    Record.get? (Record.set r name v) other = Record.get? r other := by
  induction r with
  | nil => simp [Record.set, Record.get?, Value.isText, Ne.symm h]
  | cons entry rest ih =>
    by_cases hn : entry.1.isText name
    · have ho : entry.1.isText other = false := by
        rw [Bool.eq_false_iff]
        exact fun ho => h (isText_unique hn ho)
      simp [Record.set, Record.get?, hn, ho]
    · by_cases ho : entry.1.isText other
      · simp [Record.set, Record.get?, hn, ho]
      · simpa [Record.set, Record.get?, hn, ho] using ih

/-- Puts a value under a key, which keeps the spelling and the place of an equal key before it. -/
def insert (r : Record) (key v : Value) : Record :=
  match r with
  | [] => [(key, v)]
  | entry :: rest =>
    if entry.1.same key then (entry.1, v) :: rest else entry :: Record.insert rest key v

/-- The record of a list of keys and values, the last value of equal keys being kept. -/
def ofList (pairs : List (Value × Value)) : Record :=
  pairs.foldl (fun r pair => insert r pair.1 pair.2) []

/-- The keys in order. -/
def keys (r : Record) : List Value :=
  r.map (·.1)

/-- No text is the key of two entries. -/
def Distinct (r : Record) : Prop :=
  (keys r).Pairwise fun key other => ∀ name, key = .text name → other ≠ .text name

/-- Setting a name that is there keeps the keys and their order. -/
theorem keys_set_of_contains {r : Record} {name : Text} (h : Record.contains r name) (v : Value) :
    Record.keys (Record.set r name v) = Record.keys r := by
  induction r with
  | nil => simp [Record.contains, Record.get?] at h
  | cons entry rest ih =>
    by_cases hn : entry.1.isText name
    · simp [Record.set, Record.keys, hn]
    · have hr : Record.contains rest name := by
        simpa [Record.contains, Record.get?, hn] using h
      simpa [Record.set, Record.keys, hn] using ih hr

end Record

/-- A mapping as programs hold it: no text is the key of two of its entries. -/
structure Mapping where
  entries : Record
  distinct : entries.Distinct

/-- A mapping as a value. -/
def Mapping.toValue (m : Mapping) (readOnly : Bool) : Value :=
  .record readOnly m.entries

end RecordSchema
