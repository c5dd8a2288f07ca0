/-!
# Texts

A `Text` is a row of code points. Nearly all of them are characters; halves of surrogate pairs are
none, but an escape may name one on its own, and the text then holds it.
-/

namespace RecordSchema

/-- A code point: a character, or half of a surrogate pair by its last eleven bits. -/
inductive Point where
  | char (c : Char)
  | half (bits : BitVec 11)
  deriving DecidableEq, Repr

instance : Coe Char Point := ⟨.char⟩

namespace Point

/-- The number of a code point. -/
def toNat : Point → Nat
  | char c => c.toNat
  | half bits => 0xD800 + bits.toNat

/-- The code point of a number. -/
def ofNat (n : Nat) : Point :=
  if 0xD800 ≤ n ∧ n < 0xE000 then half (.ofNat 11 n) else char (.ofNat n)

/-- No character has the number of a half. -/
theorem not_between (c : Char) : ¬(0xD800 ≤ c.toNat ∧ c.toNat < 0xE000) := by
  have valid : c.toNat < 0xD800 ∨ 0xDFFF < c.toNat ∧ c.toNat < 0x110000 := c.valid
  omega

/-- A code point is given back by its number. -/
@[simp]
theorem ofNat_toNat (c : Point) : ofNat c.toNat = c := by
  cases c with
  | char c => rw [toNat, ofNat, if_neg (not_between c), Char.ofNat_toNat]
  | half bits =>
    have same : BitVec.ofNat 11 (0xD800 + bits.toNat) = bits := by
      apply BitVec.eq_of_toNat_eq
      rw [BitVec.toNat_ofNat]
      omega
    rw [toNat, ofNat, if_pos (by omega), same]

/-- A number below the limit is given back by its code point. -/
theorem toNat_ofNat {n : Nat} (small : n < 0x110000) : (ofNat n).toNat = n := by
  unfold ofNat
  split
  · rw [toNat, BitVec.toNat_ofNat]
    omega
  · have valid : n.isValidChar := by
      unfold Nat.isValidChar
      omega
    rw [toNat, Char.ofNat, dif_pos valid]
    rfl

/-- Code points differ in their numbers. -/
theorem toNat_inj {c d : Point} : c.toNat = d.toNat ↔ c = d :=
  ⟨fun e => by rw [← ofNat_toNat c, e, ofNat_toNat], congrArg toNat⟩

/-- The character that a code point is, if it is one. -/
def char? : Point → Option Char
  | char c => some c
  | half _ => none

def isHalf : Point → Bool
  | char _ => false
  | half _ => true

/-- Whether a code point is a character of a class. -/
def satisfies (p : Char → Bool) : Point → Bool
  | char c => p c
  | half _ => false

end Point

/-- A row of code points: a string, or else one with halves of pairs in it. -/
inductive Text where
  | string (s : String)
  | broken (points : List Point) (h : points.any Point.isHalf = true)
  deriving DecidableEq, Repr

instance : Coe String Text := ⟨.string⟩

namespace Text

/-- The code points of a text. -/
def toList : Text → List Point
  | string s => s.toList.map .char
  | broken points _ => points

/-- The text of some code points. -/
def ofList (points : List Point) : Text :=
  if h : points.any Point.isHalf = true then broken points h
  else string (.ofList (points.filterMap Point.char?))

/-- The string that a text is, if it is one. -/
def string? : Text → Option String
  | string s => some s
  | broken _ _ => none

/-- The number of code points. -/
def length : Text → Nat
  | string s => s.length
  | broken points _ => points.length

def isEmpty : Text → Bool
  | string s => s.isEmpty
  | broken _ _ => false

/-- Two texts in a row. -/
def append : Text → Text → Text
  | string s, string t => string (s ++ t)
  | s, t => ofList (s.toList ++ t.toList)

instance : Append Text := ⟨append⟩

/-- A text with a code point after it. -/
def push : Text → Point → Text
  | string s, .char c => string (s.push c)
  | s, c => ofList (s.toList ++ [c])

/-- Texts in a row with another one between them. -/
def intercalate (between : Text) : List Text → Text
  | [] => ""
  | [s] => s
  | s :: rest => s ++ between ++ intercalate between rest

/-- Code points without halves are characters. -/
theorem map_filterMap_char {points : List Point} (whole : points.any Point.isHalf = false) :
    (points.filterMap Point.char?).map .char = points := by
  induction points with
  | nil => rfl
  | cons c rest ih =>
    cases c with
    | char c => exact congrArg (.char c :: ·) (ih whole)
    | half _ => cases whole

/-- Characters have no halves among them. -/
theorem any_isHalf_map (cs : List Char) : (cs.map Point.char).any Point.isHalf = false := by
  induction cs with
  | nil => rfl
  | cons _ _ ih => exact ih

/-- The characters among characters are all of them. -/
theorem filterMap_char_map (cs : List Char) : (cs.map Point.char).filterMap Point.char? = cs := by
  induction cs with
  | nil => rfl
  | cons c _ ih => exact congrArg (c :: ·) ih

/-- The code points of a text of code points are those. -/
@[simp]
theorem toList_ofList (points : List Point) : (ofList points).toList = points := by
  unfold ofList
  split
  · rfl
  · rename_i whole
    rw [toList, String.toList_ofList, map_filterMap_char (Bool.eq_false_iff.2 whole)]

/-- The text of the code points of a text is the text. -/
@[simp]
theorem ofList_toList (s : Text) : ofList s.toList = s := by
  cases s with
  | string s =>
    rw [toList, ofList, dif_neg (Bool.eq_false_iff.1 (any_isHalf_map _)), filterMap_char_map,
      String.ofList_toList]
  | broken points h => exact dif_pos h

/-- Texts are equal when their code points are. -/
theorem toList_injective {s t : Text} (h : s.toList = t.toList) : s = t := by
  rw [← ofList_toList s, h, ofList_toList]

/-- Two texts in a row have their code points in a row. -/
@[simp]
theorem toList_append (s t : Text) : (s ++ t).toList = s.toList ++ t.toList := by
  change (append s t).toList = _
  unfold append
  split
  · simp [toList]
  · exact toList_ofList _

/-- A text with a code point after it has its own before that one. -/
@[simp]
theorem toList_push (s : Text) (c : Point) : (s.push c).toList = s.toList ++ [c] := by
  unfold push
  split
  · simp [toList]
  · exact toList_ofList _

/-- Texts in a row may be put together in any order of steps. -/
@[simp]
theorem append_assoc (s t u : Text) : s ++ t ++ u = s ++ (t ++ u) := by
  apply toList_injective
  simp only [toList_append, List.append_assoc]

/-- One text has nothing between. -/
@[simp]
theorem intercalate_singleton (between s : Text) : intercalate between [s] = s :=
  rfl

/-- A text is as long as the row of its code points. -/
theorem length_eq (s : Text) : s.length = s.toList.length := by
  cases s with
  | string s => simp [length, toList, String.length_toList]
  | broken points _ => rfl

/-- Only the empty text has no code points. -/
theorem length_eq_zero_iff {s : Text} : s.length = 0 ↔ s = "" := by
  rw [length_eq, List.length_eq_zero_iff]
  exact ⟨fun e => toList_injective e, fun e => e ▸ rfl⟩

end Text

end RecordSchema
