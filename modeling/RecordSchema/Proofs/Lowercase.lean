import RecordSchema.Proofs.Transform
import RecordSchema.Text.Lowercase

/-!
# Lower case

Lower case is final: nothing in what `lower` makes of a text would be changed by it again
(`lowered_lower`, `lower_of_lowered`), also when the text is trimmed (`Lowered.trim`), and a text without
blanks at its ends has none in lower case (`Trimmed.lower`). That no run of the mapping leads to another
one, or to a blank, is checked run by run (`lowerRuns_avoid`, `lowerRuns_miss`).
-/

namespace RecordSchema.Text

namespace CaseRun

/-- The code points of a run, in order. -/
def members (run : CaseRun) : List Nat :=
  (List.range ((run.last - run.first) / run.step + 1)).map fun k => run.first + k * run.step

/-- Whether a run moves none of its code points between two bounds. -/
def misses (run : CaseRun) (first last : Nat) : Bool :=
  Nat.blt last (run.target run.first) || Nat.blt (run.target run.last) first

/-- Whether a run moves none of its code points to one of another run. -/
def avoids (run other : CaseRun) : Bool :=
  run.misses other.first other.last || run.members.all fun n => !other.contains (run.target n)

variable {run other : CaseRun} {n : Nat}

/-- The members of a run are listed. -/
lemma mem_members (member : run.contains n = true) : n ∈ run.members := by
  simp only [contains, Bool.and_eq_true, decide_eq_true_eq, beq_iff_eq] at member
  obtain ⟨⟨first, last⟩, steps⟩ := member
  refine List.mem_map.2 ⟨(n - run.first) / run.step, List.mem_range.2 ?_, ?_⟩
  · exact Nat.lt_succ_of_le (Nat.div_le_div_right (by omega))
  · have whole := Nat.div_mul_cancel (Nat.dvd_of_mod_eq_zero steps)
    omega

/-- A run moves its code points between where it moves the first and the last of them. -/
lemma target_between (member : run.contains n = true) :
    run.target run.first ≤ run.target n ∧ run.target n ≤ run.target run.last := by
  simp only [contains, Bool.and_eq_true, decide_eq_true_eq] at member
  unfold target
  omega

/-- The target of a member is outside of a range that its run misses. -/
lemma target_of_misses (member : run.contains n = true) {first last}
    (misses : run.misses first last = true) : run.target n < first ∨ last < run.target n := by
  have between := target_between member
  simp only [CaseRun.misses, Bool.or_eq_true, Nat.blt_eq] at misses
  omega

/-- The target of a member is no member of a run that its own run avoids. -/
lemma target_of_avoids (member : run.contains n = true) (avoids : run.avoids other = true) :
    other.contains (run.target n) = false := by
  rcases Bool.or_eq_true_iff.1 avoids with misses | each
  · have outside := target_of_misses member misses
    by_contra inside
    simp only [contains, Bool.not_eq_false, Bool.and_eq_true, decide_eq_true_eq] at inside
    omega
  · have there := List.all_eq_true.1 each n (mem_members member)
    simpa using there

end CaseRun

/-- Where no character of lower case is: capitals with a mapping of their own, and blanks. -/
def notLowerRanges : Ranges :=
  (0x130, 0x130) :: (0x3A3, 0x3A3) :: blankRanges

set_option maxRecDepth 20000 in
/-- No run leads to another one, or to itself. -/
lemma lowerRuns_avoid : (lowerRuns.all fun run => lowerRuns.all run.avoids) = true := by
  decide +kernel

set_option maxRecDepth 20000 in
/-- No run goes to what is not in lower case, or beyond the last code point. -/
lemma lowerRuns_miss : (lowerRuns.all fun run => Nat.blt (run.target run.last) 0x110000 &&
    notLowerRanges.all fun range => run.misses range.1 range.2) = true := by
  decide +kernel

/-- A code point of a set of ranges lies in one of them. -/
lemma Ranges.exists_of_contains {ranges : Ranges} {n} (inside : ranges.contains n = true) :
    ∃ range ∈ ranges, range.1 ≤ n ∧ n ≤ range.2 := by
  induction ranges with
  | nil => cases inside
  | cons range rest ih =>
    obtain ⟨first, last⟩ := range
    rw [Ranges.contains] at inside
    split at inside
    · cases inside
    · split at inside
      · exact ⟨_, List.mem_cons_self, by omega, ‹_›⟩
      · obtain ⟨range, mem, between⟩ := ih inside
        exact ⟨range, List.mem_cons_of_mem _ mem, between⟩

/-- A character that lower case leaves alone wherever it stands. -/
def IsLower (c : Point) : Prop :=
  c.toNat ≠ 0x3A3 ∧ lowerPoint c = [c]

instance {c} : Decidable (IsLower c) :=
  inferInstanceAs (Decidable (_ ∧ _))

/-- What a run moves a code point to is a code point again. -/
lemma toNat_target {run n} (mem : run ∈ lowerRuns) (member : run.contains n = true) :
    (Point.ofNat (run.target n)).toNat = run.target n := by
  have missed := List.all_eq_true.1 lowerRuns_miss run mem
  simp only [Bool.and_eq_true, Nat.blt_eq, List.all_eq_true] at missed
  have below := (CaseRun.target_between member).2
  exact Point.toNat_ofNat (by omega)

/-- What a run moves a code point to is a character in lower case, and no blank. -/
lemma isLower_target {run n} (mem : run ∈ lowerRuns) (member : run.contains n = true) :
    IsLower (Point.ofNat (run.target n)) ∧ isBlank (Point.ofNat (run.target n)) = false := by
  have missed := List.all_eq_true.1 lowerRuns_miss run mem
  simp only [Bool.and_eq_true, List.all_eq_true] at missed
  have outside : ∀ range ∈ notLowerRanges, run.target n < range.1 ∨ range.2 < run.target n :=
    fun range within => CaseRun.target_of_misses member (missed.2 range within)
  simp only [notLowerRanges, List.forall_mem_cons] at outside
  obtain ⟨dotted, sigma, blanks⟩ := outside
  have there := toNat_target mem member
  have unmapped : mappedBy lowerRuns (run.target n) = none := by
    rw [mappedBy, Option.map_eq_none_iff, List.find?_eq_none]
    intro other within
    have avoids := List.all_eq_true.1 (List.all_eq_true.1 lowerRuns_avoid run mem) other within
    simp [CaseRun.target_of_avoids member avoids]
  refine ⟨⟨?_, ?_⟩, ?_⟩
  · rw [there]
    omega
  · rw [lowerPoint, lowerCode, there, if_neg (by omega), if_neg (by omega), unmapped,
      Option.getD_none]
  · by_contra blank
    rw [Bool.not_eq_false, isBlank, there] at blank
    obtain ⟨range, within, between⟩ := Ranges.exists_of_contains blank
    have := blanks range within
    omega

/-- The lower case of a character is the character itself, or what a run makes of it, or one of the two
characters that the dotted capital I becomes. -/
lemma mem_lowerPoint_cases {c d} (mem : d ∈ lowerPoint c) :
    (d = .char 'i' ∨ d = Point.ofNat 0x307) ∨ (d = c ∧ lowerPoint c = [c]) ∨
      ∃ run ∈ lowerRuns, run.contains c.toNat = true ∧ d = Point.ofNat (run.target c.toNat) := by
  by_cases dotted : c.toNat = 0x130
  · rw [lowerPoint, if_pos dotted] at mem
    exact .inl (by simpa using mem)
  · rw [lowerPoint, if_neg dotted, List.mem_singleton] at mem
    rw [lowerPoint, if_neg dotted, lowerCode, if_neg dotted, mappedBy]
    rw [lowerCode, if_neg dotted, mappedBy] at mem
    cases found : lowerRuns.find? (·.contains c.toNat) with
    | none =>
      rw [found] at mem
      have same : Point.ofNat c.toNat = c := Point.ofNat_toNat c
      exact .inr (.inl ⟨mem.trans same, congrArg ([·]) same⟩)
    | some run =>
      rw [found] at mem
      have member := List.find?_some found
      exact .inr (.inr ⟨run, List.mem_of_find?_eq_some found, member, mem⟩)

/-- The lower case of a character is in lower case, and no blank unless the character is one. -/
lemma isLower_of_mem_lowerPoint {c d} (other : c.toNat ≠ 0x3A3) (mem : d ∈ lowerPoint c) :
    IsLower d ∧ (isBlank c = false → isBlank d = false) := by
  obtain (rfl | rfl) | ⟨rfl, same⟩ | ⟨run, within, member, rfl⟩ := mem_lowerPoint_cases mem
  · exact ⟨by decide +kernel, fun _ => by decide +kernel⟩
  · exact ⟨by decide +kernel, fun _ => by decide +kernel⟩
  · exact ⟨⟨other, same⟩, id⟩
  · obtain ⟨lower, visible⟩ := isLower_target within member
    exact ⟨lower, fun _ => visible⟩

/-- A text with nothing in it that lower case would change. -/
def Lowered (cs : List Point) : Prop :=
  ∀ c ∈ cs, IsLower c

/-- The lower case of a character between others. -/
def lowerPiece (before : List Point) (c : Point) (after : List Point) : List Point :=
  if c.toNat = 0x3A3 then [Point.ofNat (if endsWord before after then 0x3C2 else 0x3C3)]
  else lowerPoint c

/-- Lower case goes through a text character by character. -/
lemma lowerAfter_cons {before c rest} :
    lowerAfter before (c :: rest) = lowerPiece before c rest ++ lowerAfter (c :: before) rest :=
  rfl

/-- A character has some form in lower case. -/
lemma lowerPiece_ne_nil {before c after} : lowerPiece before c after ≠ [] := by
  unfold lowerPiece lowerPoint
  split
  · nofun
  · split <;> nofun

/-- What lower case makes of a character is in lower case, and no blank unless the character is one. -/
lemma isLower_of_mem_lowerPiece {before c after d} (mem : d ∈ lowerPiece before c after) :
    IsLower d ∧ (isBlank c = false → isBlank d = false) := by
  unfold lowerPiece at mem
  split at mem
  · rw [List.mem_singleton] at mem
    subst mem
    split <;> exact ⟨by decide +kernel, fun _ => by decide +kernel⟩
  · exact isLower_of_mem_lowerPoint ‹_› mem

/-- A text in lower case has nothing in it that lower case would change. -/
lemma lowered_lowerAfter {before cs} : Lowered (lowerAfter before cs) := by
  induction cs generalizing before with
  | nil => nofun
  | cons c rest ih =>
    intro d mem
    rw [lowerAfter_cons, List.mem_append] at mem
    rcases mem with mem | mem
    · exact (isLower_of_mem_lowerPiece mem).1
    · exact ih d mem

/-- What has been brought to lower case is in lower case. -/
lemma lowered_lower {cs} : Lowered (lower cs) :=
  lowered_lowerAfter

/-- A text with nothing in it that lower case would change stays as it is. -/
lemma lower_of_lowered {before cs} (lowered : Lowered cs) : lowerAfter before cs = cs := by
  induction cs generalizing before with
  | nil => rfl
  | cons c rest ih =>
    obtain ⟨⟨other, same⟩, others⟩ := List.forall_mem_cons.1 lowered
    rw [lowerAfter_cons, lowerPiece, if_neg other, same, ih others]
    rfl

/-- Trimming keeps lower case. -/
lemma Lowered.trim {cs} (lowered : Lowered cs) : Lowered (Text.trim cs) := by
  intro c mem
  have inside : Text.trim cs <:+: cs := by
    rw [trim_eq]
    exact (List.rdropWhile_prefix _ _).isInfix.trans (List.dropWhile_suffix _).isInfix
  exact lowered c (inside.subset mem)

/-- The first character of a text in lower case comes from the first one of the text. -/
lemma head_lowerAfter {before cs d tail} (e : lowerAfter before cs = d :: tail) :
    ∃ c rest, cs = c :: rest ∧ d ∈ lowerPiece before c rest := by
  cases cs with
  | nil => cases e
  | cons c rest =>
    refine ⟨c, rest, rfl, ?_⟩
    rw [lowerAfter_cons] at e
    cases piece : lowerPiece before c rest with
    | nil => exact (lowerPiece_ne_nil piece).elim
    | cons first others =>
      rw [piece] at e
      cases e
      exact List.mem_cons_self

/-- The last character of a text in lower case comes from the last one of the text. -/
lemma last_lowerAfter {before cs d tail} (e : lowerAfter before cs = tail ++ [d]) :
    ∃ rest c others, cs = rest ++ [c] ∧ d ∈ lowerPiece others c [] := by
  induction cs generalizing before tail with
  | nil => exact (List.append_ne_nil_of_right_ne_nil _ (List.cons_ne_nil _ _) e.symm).elim
  | cons c rest ih =>
    rw [lowerAfter_cons] at e
    rcases List.eq_nil_or_concat' (lowerAfter (c :: before) rest) with ended | ⟨init, last, more⟩
    · -- Every character leaves something behind, so this one is the last.
      cases rest with
      | nil =>
        refine ⟨[], c, before, rfl, ?_⟩
        have there : d ∈ lowerPiece before c [] ++ lowerAfter (c :: before) [] :=
          e ▸ List.mem_append_right _ List.mem_cons_self
        rwa [ended, List.append_nil] at there
      | cons other rest =>
        rw [lowerAfter_cons] at ended
        exact (lowerPiece_ne_nil (List.append_eq_nil_iff.1 ended).1).elim
    · rw [more, ← List.append_assoc] at e
      obtain ⟨_, same⟩ := List.append_inj' e rfl
      cases same
      obtain ⟨rest', c', others, rfl, mem⟩ := ih more
      exact ⟨c :: rest', c', others, rfl, mem⟩

/-- A text without blanks at its ends has none in lower case. -/
lemma Trimmed.lower {cs} (t : Trimmed cs) : Trimmed (Text.lower cs) := by
  constructor
  · intro d tail e
    obtain ⟨c, rest, ec, mem⟩ := head_lowerAfter e
    exact (isLower_of_mem_lowerPiece mem).2 (t.1 c rest ec)
  · intro d tail e
    obtain ⟨rest, c, others, ec, mem⟩ := last_lowerAfter e
    exact (isLower_of_mem_lowerPiece mem).2 (t.2 c rest ec)

end RecordSchema.Text
