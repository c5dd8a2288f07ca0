import RecordSchema.Pattern.CharClass
import RecordSchema.Pattern.Width

/-!
# Matching patterns

A pattern is matched by trying its items in order and going back to the last choice when one of them
fails. A matcher takes the place it starts from and what remains to be matched after it; it gives
the final place, or nothing when no choice leads there.
-/

namespace RecordSchema.Pattern

/-- A place in a text and the groups captured on the way to it. -/
structure Cursor where
  /-- The characters before the place, nearest first. -/
  before : List Point
  after : List Point
  offset : Nat
  /-- Where groups were opened and closed, latest first. -/
  opened : List (Nat × Nat)
  closed : List (Nat × Nat)
  deriving DecidableEq, Repr

namespace Cursor

/-- The start of a text. -/
def start (text : List Point) : Cursor :=
  ⟨[], text, 0, [], []⟩

/-- The place after the next character, if it satisfies a condition. -/
def step? (p : Point → Bool) (c : Cursor) : Option Cursor :=
  match c.after with
  | [] => none
  | x :: rest =>
    if p x then some { c with before := x :: c.before, after := rest, offset := c.offset + 1 }
    else none

/-- The place some characters back. -/
def back? (c : Cursor) : Nat → Option Cursor
  | 0 => some c
  | n + 1 =>
    match c.before with
    | [] => none
    | x :: rest =>
      back? { c with before := rest, after := x :: c.after, offset := c.offset - 1 } n

/-- Where the capture of a group starts and ends. A group that has been opened again beyond its last
end has captured nothing. -/
def captured? (c : Cursor) (index : Nat) : Option (Nat × Nat) :=
  match c.opened.lookup index, c.closed.lookup index with
  | some first, some last => if first ≤ last then some (first, last) else none
  | _, _ => none

/-- Whether the next character satisfies a condition. -/
def next (p : Point → Bool) (c : Cursor) : Bool :=
  (c.after.head?.map p).getD false

/-- Whether the previous character satisfies a condition. -/
def previous (p : Point → Bool) (c : Cursor) : Bool :=
  (c.before.head?.map p).getD false

end Cursor

/-- A way to go on from one place to the end of what remains. -/
abbrev Matcher := Cursor → (Cursor → Option Cursor) → Option Cursor

namespace Matcher

/-- The first of two choices that succeeds. -/
def orElse (first : Option Cursor) (second : Unit → Option Cursor) : Option Cursor :=
  match first with
  | some c => some c
  | none => second ()

/-- One character. -/
def single (p : Point → Bool) : Matcher := fun c k =>
  match c.step? p with
  | some c => k c
  | none => none

/-- A condition on the place alone. -/
def assertion (p : Cursor → Bool) : Matcher := fun c k =>
  if p c then k c else none

/-- Whether one more repetition may be tried: the greatest number is not reached, and the last one
took some character. -/
def mayRepeat (most? : Option Nat) (count : Nat) (last? : Option Nat) (c : Cursor) : Bool :=
  (match most? with
    | some most => count < most
    | none => true) && last? != some c.offset

/-- Repetitions, as many as possible first. The place where the last optional repetition started is
remembered, so that one that takes nothing is not followed by another. -/
def greedy (body : Matcher) (least : Nat) (most? : Option Nat) :
    Nat → Nat → Option Nat → Matcher
  | 0, _, _ => fun c k => k c
  | fuel + 1, count, last? => fun c k =>
    if count < least then
      body c fun c => greedy body least most? fuel (count + 1) last? c k
    else if mayRepeat most? count last? c then
      orElse (body c fun d => greedy body least most? fuel (count + 1) (some c.offset) d k)
        fun _ => k c
    else k c

/-- Repetitions, as few as possible first. -/
def reluctant (body : Matcher) (least : Nat) (most? : Option Nat) :
    Nat → Nat → Option Nat → Matcher
  | 0, _, _ => fun c k => k c
  | fuel + 1, count, last? => fun c k =>
    if count < least then
      body c fun c => reluctant body least most? fuel (count + 1) last? c k
    else
      orElse (k c) fun _ =>
        if mayRepeat most? count last? c then
          body c fun d => reluctant body least most? fuel (count + 1) (some c.offset) d k
        else none

/-- Repetitions, as many as possible and no fewer. -/
def possessive (body : Matcher) (least : Nat) (most? : Option Nat) :
    Nat → Nat → Option Nat → Cursor → Option Cursor
  | 0, _, _, c => some c
  | fuel + 1, count, last?, c =>
    if count < least then
      match body c some with
      | some d => possessive body least most? fuel (count + 1) last? d
      | none => none
    else if mayRepeat most? count last? c then
      match body c some with
      | some d => possessive body least most? fuel (count + 1) (some c.offset) d
      | none => some c
    else some c

/-- Repetitions of a matcher in a text of at most `length` characters. Beyond the least number every
repetition but the last takes a character, which bounds how many there are. -/
def repeated (length : Nat) (body : Matcher) (greed : Greed) (least : Nat) (most? : Option Nat) :
    Matcher :=
  fun c k =>
    let fuel := least + length + 3
    match greed with
    | .greedy => greedy body least most? fuel 0 none c k
    | .reluctant => reluctant body least most? fuel 0 none c k
    | .possessive =>
      match possessive body least most? fuel 0 none c with
      | some d => k d
      | none => none

/-- The given characters, one after another. -/
def literally (same : Point → Point → Bool) : List Point → Matcher
  | [] => fun c k => k c
  | x :: rest => fun c k => single (same x) c fun c => literally same rest c k

/-- A look at what follows, or precedes, without taking it. What it captures is kept. -/
def look (body : Matcher) (behind negated : Bool) (width : Nat) : Matcher := fun c k =>
  let found :=
    match c.back? (if behind then width else 0) with
    | some start => body start some
    | none => none
  match found, negated with
  | some d, false => k { c with opened := d.opened, closed := d.closed }
  | none, true => k c
  | _, _ => none

end Matcher

def isLineBreak (c : Point) : Bool :=
  c == .char '\n'

/-- Whether an anchor holds at a place. No text without characters has a place that is not at a
boundary. -/
def Anchor.holds (flags : Flags) (anchor : Anchor) (c : Cursor) : Bool :=
  let isWord := Category.word.holds flags
  match anchor with
  | start => c.before.isEmpty || (flags.multiline && c.previous isLineBreak)
  | textStart => c.before.isEmpty
  | finish =>
    c.after.isEmpty ||
      (c.next isLineBreak && (flags.multiline || c.after.tail.isEmpty))
  | textEnd => c.after.isEmpty
  | boundary => c.previous isWord != c.next isWord
  | nonBoundary =>
    !(c.before.isEmpty && c.after.isEmpty) && c.previous isWord == c.next isWord

/-- Whether two characters are the same for a reference to a group. -/
def sameCaptured (flags : Flags) (x y : Point) : Bool :=
  if flags.ignoreCase then flags.folded x.toNat == flags.folded y.toNat else x == y

/-- The text that is searched, with its length. -/
structure Subject where
  text : List Point
  length : Nat

/-- A text as a subject. -/
def Subject.ofText (text : List Point) : Subject :=
  ⟨text, text.length⟩

mutual

/-- The matcher of one item. -/
def Node.run (subject : Subject) (widths : GroupWidths) (flags : Flags) : Node → Matcher
  | .literal n => .single (literalHolds flags n)
  | .notLiteral n => .single fun c => !literalHolds flags n c
  | .any => .single fun c => flags.dotAll || !isLineBreak c
  | .set negated items => .single (setHolds flags negated items)
  | .anchor a => .assertion (a.holds flags)
  | .branch alternatives => runBranch subject widths flags alternatives
  | .group index? on off body => fun c k =>
    match index? with
    | none => runSequence subject widths (flags.within on off) body c k
    | some index =>
      runSequence subject widths (flags.within on off) body
        { c with opened := (index, c.offset) :: c.opened }
        fun c => k { c with closed := (index, c.offset) :: c.closed }
  | .atomic body => fun c k =>
    match runSequence subject widths flags body c some with
    | some d => k d
    | none => none
  | .repeated greed least most? body =>
    .repeated subject.length (runSequence subject widths flags body) greed least most?
  | .reference index => fun c k =>
    match c.captured? index with
    | some (first, last) =>
      Matcher.literally (sameCaptured flags) ((subject.text.drop first).take (last - first)) c k
    | none => none
  | .conditional index present absent => fun c k =>
    match c.captured? index with
    | some _ => runSequence subject widths flags present c k
    | none => runSequence subject widths flags absent c k
  | .look behind negated body =>
    .look (runSequence subject widths flags body) behind negated
      (sequenceWidth widths body).least

/-- The matcher of items in a row. -/
def runSequence (subject : Subject) (widths : GroupWidths) (flags : Flags) :
    List Node → Matcher
  | [] => fun c k => k c
  | node :: rest => fun c k =>
    node.run subject widths flags c fun c => runSequence subject widths flags rest c k

/-- The matcher of alternatives, tried in order. -/
def runBranch (subject : Subject) (widths : GroupWidths) (flags : Flags) :
    List (List Node) → Matcher
  | [] => fun _ _ => none
  | body :: rest => fun c k =>
    Matcher.orElse (runSequence subject widths flags body c k)
      fun _ => runBranch subject widths flags rest c k

end

/-- The first place at or after a given one from which a matcher succeeds, if there is one. -/
def searchFrom (matcher : Matcher) : List Point → Cursor → Bool
  | [], c => (matcher c some).isSome
  | x :: rest, c =>
    (matcher c some).isSome ||
      searchFrom matcher rest
        { c with before := x :: c.before, after := rest, offset := c.offset + 1 }

end RecordSchema.Pattern
