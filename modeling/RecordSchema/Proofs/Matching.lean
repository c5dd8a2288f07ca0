import Mathlib
import RecordSchema.Pattern.Basic

/-!
# What simple patterns match

Patterns that are tied to the start of the text and consist of characters, sets and repetitions of
sets, without switches. `search_anchored` reduces a search to the attempt from the start,
`literals_isSome_iff`, `set_isSome_iff`, `optional_isSome_iff` and `star_isSome_iff` say what the text
must look like for the items in a row, whatever is to be matched after them.
-/

namespace RecordSchema.Pattern

/-- The place after some more characters, before the rest of the text. -/
def Cursor.past (c : Cursor) (taken rest : List Point) : Cursor :=
  ⟨taken.reverse ++ c.before, rest, c.offset + taken.length, c.opened, c.closed⟩

/-- Going past some points and then others is going past all of them. -/
@[simp] lemma Cursor.past_past {c : Cursor} {xs ys zs rest} :
    (c.past xs rest).past ys zs = c.past (xs ++ ys) zs := by
  simp [Cursor.past, Nat.add_assoc]

/-- Going past nothing stays there. -/
@[simp] lemma Cursor.past_nil {c : Cursor} : c.past [] c.after = c := by
  simp [Cursor.past]

/-- One of two ways matches when either does. -/
lemma orElse_isSome_iff {first second} :
    (Matcher.orElse first second).isSome ↔ first.isSome ∨ (second ()).isSome := by
  cases first <;> simp [Matcher.orElse]

/-- A single point matches when it is there and the rest matches after it. -/
lemma single_isSome_iff {p c k} :
    (Matcher.single p c k).isSome ↔
      ∃ x xs, c.after = x :: xs ∧ p x = true ∧ (k (c.past [x] xs)).isSome := by
  unfold Matcher.single Cursor.step?
  cases ea : c.after with
  | nil => simp
  | cons x xs =>
    dsimp only
    by_cases h : p x = true
    · rw [if_pos h]
      constructor
      · exact fun e => ⟨x, xs, rfl, h, e⟩
      · rintro ⟨_, _, e, _, found⟩
        cases e
        exact found
    · simp [h]

/-- As many repetitions of a character as there are, or fewer, match a row of such characters. -/
lemma greedy_isSome_iff {p fuel count last? c k} (enough : c.after.length < fuel)
    (fresh : last? ≠ some c.offset) :
    (Matcher.greedy (.single p) 0 none fuel count last? c k).isSome ↔
      ∃ ys zs, c.after = ys ++ zs ∧ (∀ y ∈ ys, p y = true) ∧ (k (c.past ys zs)).isSome := by
  induction fuel generalizing count last? c with
  | zero => exact absurd enough (Nat.not_lt_zero _)
  | succ fuel ih =>
    -- The place moves on with every repetition, so none of them is refused for standing still.
    have may : Matcher.mayRepeat none count last? c = true := by
      simpa [Matcher.mayRepeat] using fresh
    rw [Matcher.greedy]
    dsimp only
    rw [if_neg (Nat.not_lt_zero _), if_pos may, orElse_isSome_iff, single_isSome_iff]
    constructor
    · rintro (⟨x, xs, ea, px, e⟩ | e)
      · rw [ea, List.length_cons] at enough
        have short : (c.past [x] xs).after.length < fuel := Nat.lt_of_succ_lt_succ enough
        have moved : some c.offset ≠ some (c.past [x] xs).offset := by simp [Cursor.past]
        obtain ⟨ys, zs, el, all, e⟩ := (ih short moved).1 e
        rw [Cursor.past_past] at e
        have el : xs = ys ++ zs := el
        refine ⟨x :: ys, zs, ?_, ?_, e⟩
        · rw [ea, el, List.cons_append]
        · exact List.forall_mem_cons.2 ⟨px, all⟩
      · exact ⟨[], c.after, rfl, nofun, by rwa [Cursor.past_nil]⟩
    · rintro ⟨ys, zs, ea, all, e⟩
      cases ys with
      | nil =>
        right
        have ea : zs = c.after := ea.symm
        rwa [ea, Cursor.past_nil] at e
      | cons y ys =>
        left
        obtain ⟨py, all⟩ := List.forall_mem_cons.1 all
        refine ⟨y, ys ++ zs, ea, py, ?_⟩
        rw [ea, List.cons_append, List.length_cons] at enough
        have short : (c.past [y] (ys ++ zs)).after.length < fuel := Nat.lt_of_succ_lt_succ enough
        have moved : some c.offset ≠ some (c.past [y] (ys ++ zs)).offset := by simp [Cursor.past]
        refine (ih short moved).2 ⟨ys, zs, rfl, all, ?_⟩
        rwa [Cursor.past_past]

section Items

variable {subject : Subject} {widths : GroupWidths} {flags : Flags} {rest : List Node} {c : Cursor}
  {k : Cursor → Option Cursor}

/-- A row of items that starts with the given characters matches what starts with them. -/
lemma literals_isSome_iff {codes : List Point} (cased : flags.ignoreCase = false) :
    (runSequence subject widths flags (codes.map (.literal ·.toNat) ++ rest) c k).isSome ↔
      ∃ zs, c.after = codes ++ zs ∧
        (runSequence subject widths flags rest (c.past codes zs) k).isSome := by
  induction codes generalizing c with
  | nil =>
    constructor
    · intro e
      exact ⟨c.after, rfl, by rwa [Cursor.past_nil]⟩
    · rintro ⟨zs, ea, e⟩
      have ea : zs = c.after := ea.symm
      rwa [ea, Cursor.past_nil] at e
  | cons code codes ih =>
    have same : ∀ x, literalHolds flags code.toNat x = true ↔ x = code := by
      intro x
      simp [literalHolds, cased, Point.toNat_inj]
    rw [List.map_cons, List.cons_append, runSequence, Node.run, single_isSome_iff]
    constructor
    · rintro ⟨x, xs, ea, ex, e⟩
      obtain rfl := (same x).1 ex
      obtain ⟨zs, el, e⟩ := ih.1 e
      rw [Cursor.past_past] at e
      have el : xs = codes ++ zs := el
      exact ⟨zs, by rw [ea, el, List.cons_append], e⟩
    · rintro ⟨zs, ea, e⟩
      refine ⟨code, codes ++ zs, ea, (same code).2 rfl, ih.2 ⟨zs, rfl, ?_⟩⟩
      rwa [Cursor.past_past]

/-- A row of items that starts with a condition on the place needs it to hold. -/
lemma anchor_isSome_iff {a : Anchor} :
    (runSequence subject widths flags (.anchor a :: rest) c k).isSome ↔
      a.holds flags c = true ∧ (runSequence subject widths flags rest c k).isSome := by
  rw [runSequence, Node.run]
  unfold Matcher.assertion
  dsimp only
  split <;> simp [*]

/-- A row of items that starts with a set matches what starts with one of its characters. -/
lemma set_isSome_iff {items} :
    (runSequence subject widths flags (.set false items :: rest) c k).isSome ↔
      ∃ x xs, c.after = x :: xs ∧ setHolds flags false items x = true ∧
        (runSequence subject widths flags rest (c.past [x] xs) k).isSome := by
  rw [runSequence, Node.run, single_isSome_iff]

/-- A row of items that starts with any number of characters of a set matches what starts with
some. -/
lemma star_isSome_iff {items} (room : c.after.length ≤ subject.length) :
    (runSequence subject widths flags (.repeated .greedy 0 none [.set false items] :: rest) c
      k).isSome ↔
      ∃ ys zs, c.after = ys ++ zs ∧ (∀ y ∈ ys, setHolds flags false items y = true) ∧
        (runSequence subject widths flags rest (c.past ys zs) k).isSome := by
  have body : runSequence subject widths flags [.set false items] =
      Matcher.single (setHolds flags false items) := by
    funext c k
    rw [runSequence, Node.run]
    rfl
  rw [runSequence, Node.run, body]
  exact greedy_isSome_iff (by omega) nofun

/-- A row of items that starts with a character or none matches what starts with it, or not. -/
lemma optional_isSome_iff {code : Point} (cased : flags.ignoreCase = false) :
    (runSequence subject widths flags
      (.repeated .greedy 0 (some 1) [.literal code.toNat] :: rest) c k).isSome ↔
      (∃ zs, c.after = code :: zs ∧
        (runSequence subject widths flags rest (c.past [code] zs) k).isSome) ∨
      (runSequence subject widths flags rest c k).isSome := by
  have body : ∀ c k, (runSequence subject widths flags [.literal code.toNat] c k).isSome ↔
      ∃ zs, c.after = code :: zs ∧ (k (c.past [code] zs)).isSome :=
    fun c k => @literals_isSome_iff subject widths flags [] c k [code] cased
  rw [runSequence, Node.run]
  unfold Matcher.repeated
  dsimp only
  rw [Matcher.greedy, Matcher.greedy]
  dsimp only
  have may : Matcher.mayRepeat (some 1) 0 none c = true := rfl
  rw [if_neg (Nat.not_lt_zero _), if_pos may, orElse_isSome_iff, body]
  rfl

end Items

/-- From a place beyond the start, items that are tied to the start match nothing. -/
lemma searchFrom_anchored {subject widths rest cs} {flags : Flags} {c : Cursor}
    (single : flags.multiline = false) (beyond : c.before ≠ []) :
    searchFrom (runSequence subject widths flags (.anchor .start :: rest)) cs c = false := by
  have here : ∀ c : Cursor, c.before ≠ [] →
      (runSequence subject widths flags (.anchor .start :: rest) c some).isSome = false := by
    intro c beyond
    rw [Bool.eq_false_iff, ne_eq, anchor_isSome_iff]
    rintro ⟨holds, _⟩
    simp [Anchor.holds, single, beyond] at holds
  induction cs generalizing c with
  | nil => exact here c beyond
  | cons x cs ih =>
    rw [searchFrom, here c beyond, ih (by simp)]
    rfl

/-- Searching for items that are tied to the start is one attempt from there. -/
lemma search_anchored {rest flags widths text} (single : flags.multiline = false) :
    search ⟨.anchor .start :: rest, flags, widths⟩ text =
      (runSequence (.ofText text) widths flags rest (.start text) some).isSome := by
  have first :
      (runSequence (.ofText text) widths flags (.anchor .start :: rest) (.start text) some).isSome =
        (runSequence (.ofText text) widths flags rest (.start text) some).isSome := by
    rw [Bool.eq_iff_iff, anchor_isSome_iff]
    simp [Anchor.holds, Cursor.start]
  rw [search]
  cases text with
  | nil => exact first
  | cons x xs =>
    rw [searchFrom, first, searchFrom_anchored single (by simp)]
    exact Bool.or_false _

end RecordSchema.Pattern
