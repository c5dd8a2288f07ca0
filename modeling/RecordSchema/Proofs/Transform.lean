import Mathlib
import RecordSchema.Transform

/-!
# Built-in transforms

What trimming leaves: a text without blanks at its ends (`trimmed_trim`), which is all that trimming
keeps as it is (`trim_of_trimmed`).
-/

namespace RecordSchema.Text

/-- Neither the first nor the last character is a blank. -/
def Trimmed (cs : List Point) : Prop :=
  (∀ c rest, cs = c :: rest → isBlank c = false) ∧ ∀ c rest, cs = rest ++ [c] → isBlank c = false

/-- Trimming drops blanks in front, then those at the end. -/
lemma trim_eq {cs : List Point} : trim cs = (cs.dropWhile isBlank).rdropWhile isBlank :=
  rfl

/-- What is left by taking characters from the start does not start with one of them. -/
lemma head_of_dropWhile {p : Point → Bool} {cs rest : List Point} {c} (e : cs.dropWhile p = c :: rest) :
    p c = false := by
  have again := List.dropWhile_idempotent p cs
  rw [e] at again
  by_contra h
  rw [Bool.not_eq_false] at h
  rw [List.dropWhile_cons_of_pos h] at again
  have shorter := (List.dropWhile_sublist p (l := rest)).length_le
  rw [again, List.length_cons] at shorter
  omega

/-- Trimmed text has no blanks at its ends. -/
lemma trimmed_trim {cs} : Trimmed (trim cs) := by
  rw [trim_eq]
  constructor
  · intro c rest e
    obtain ⟨tail, et⟩ := List.rdropWhile_prefix isBlank (l := cs.dropWhile isBlank)
    rw [e, List.cons_append] at et
    exact head_of_dropWhile et.symm
  · intro c rest e
    have turned : (cs.dropWhile isBlank).reverse.dropWhile isBlank = c :: rest.reverse := by
      rw [List.rdropWhile, List.reverse_eq_iff] at e
      rw [e, List.reverse_append]
      rfl
    exact head_of_dropWhile turned

/-- No blanks are dropped in front of what is trimmed. -/
lemma Trimmed.dropWhile {cs} (t : Trimmed cs) : cs.dropWhile isBlank = cs := by
  cases cs with
  | nil => rfl
  | cons c rest => exact List.dropWhile_cons_of_neg (by simp [t.1 c rest rfl])

/-- No blanks are dropped at the end of what is trimmed. -/
lemma Trimmed.rdropWhile {cs} (t : Trimmed cs) : cs.rdropWhile isBlank = cs := by
  rw [List.rdropWhile_eq_self_iff]
  intro ne
  simp [t.2 _ _ (List.dropLast_append_getLast ne).symm]

/-- Text without blanks at its ends stays as it is. -/
lemma trim_of_trimmed {cs} (t : Trimmed cs) : trim cs = cs := by
  rw [trim_eq, t.dropWhile, t.rdropWhile]

end RecordSchema.Text
