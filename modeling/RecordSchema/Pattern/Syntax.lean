/-!
# Patterns

The syntax tree of search patterns. Characters are given by their code points, since a pattern may
name code points that no text holds.
-/

namespace RecordSchema.Pattern

/-- The switches that change how a pattern is read and matched. -/
structure Flags where
  ignoreCase : Bool := false
  multiline : Bool := false
  dotAll : Bool := false
  verbose : Bool := false
  ascii : Bool := false
  unicode : Bool := false
  locale : Bool := false
  template : Bool := false
  deriving DecidableEq, Repr

namespace Flags

/-- The switches that are on in either. -/
def union (f g : Flags) : Flags where
  ignoreCase := f.ignoreCase || g.ignoreCase
  multiline := f.multiline || g.multiline
  dotAll := f.dotAll || g.dotAll
  verbose := f.verbose || g.verbose
  ascii := f.ascii || g.ascii
  unicode := f.unicode || g.unicode
  locale := f.locale || g.locale
  template := f.template || g.template

/-- The switches that are on in the first and not in the second. -/
def diff (f g : Flags) : Flags where
  ignoreCase := f.ignoreCase && !g.ignoreCase
  multiline := f.multiline && !g.multiline
  dotAll := f.dotAll && !g.dotAll
  verbose := f.verbose && !g.verbose
  ascii := f.ascii && !g.ascii
  unicode := f.unicode && !g.unicode
  locale := f.locale && !g.locale
  template := f.template && !g.template

/-- Whether some switch is on in both. -/
def meets (f g : Flags) : Bool :=
  f.diff g != f

/-- Whether no switch is on. -/
def isEmpty (f : Flags) : Bool :=
  f == {}

/-- The switches that choose an alphabet, of which only one may be on. -/
def alphabets : Flags :=
  { ascii := true, unicode := true, locale := true }

/-- The switches that can only be set for a pattern as a whole. -/
def wholeOnly : Flags :=
  { template := true }

/-- The switches inside a group that turns some on and some off; a chosen alphabet replaces the one
outside. -/
def within (outer on off : Flags) : Flags :=
  let base := if on.meets alphabets then outer.diff alphabets else outer
  (base.union on).diff off

/-- The switch of a letter. -/
def ofLetter? : Char → Option Flags
  | 'i' => some { ignoreCase := true }
  | 'm' => some { multiline := true }
  | 's' => some { dotAll := true }
  | 'x' => some { verbose := true }
  | 'a' => some { ascii := true }
  | 'u' => some { unicode := true }
  | 'L' => some { locale := true }
  | 't' => some { template := true }
  | _ => none

end Flags

/-- The classes of characters that an escape names. -/
inductive Category where
  | digit
  | space
  | word
  deriving DecidableEq, Repr

/-- A member of a character set. -/
inductive SetItem where
  | code (n : Nat)
  | range (first last : Nat)
  | category (c : Category) (negated : Bool)
  deriving DecidableEq, Repr

/-- The conditions on a place in the text. -/
inductive Anchor where
  /-- The start of the text, or of a line. -/
  | start
  | textStart
  /-- The end of the text or before a final line break, or the end of a line. -/
  | finish
  | textEnd
  | boundary
  | nonBoundary
  deriving DecidableEq, Repr

/-- How many repetitions are tried first, and whether fewer are tried at all. -/
inductive Greed where
  | greedy
  | reluctant
  | possessive
  deriving DecidableEq, Repr

/-- One item of a pattern. -/
inductive Node where
  | literal (code : Nat)
  | notLiteral (code : Nat)
  /-- Any character but a line break, or any at all. -/
  | any
  | set (negated : Bool) (items : List SetItem)
  | anchor (a : Anchor)
  | branch (alternatives : List (List Node))
  /-- A group, numbered when it captures, with the switches it turns on and off. -/
  | group (index? : Option Nat) (on off : Flags) (body : List Node)
  | atomic (body : List Node)
  | repeated (greed : Greed) (least : Nat) (most? : Option Nat) (body : List Node)
  /-- The text that a group has captured. -/
  | reference (index : Nat)
  /-- One of two bodies, by whether a group has captured. -/
  | conditional (index : Nat) (present absent : List Node)
  | look (behind negated : Bool) (body : List Node)
  deriving Repr

/-- Items that stand for one character each or none, and are compared as they are written. -/
def Node.sameSimple : Node → Node → Bool
  | .literal m, .literal n => m == n
  | .notLiteral m, .notLiteral n => m == n
  | .any, .any => true
  | .set a xs, .set b ys => a == b && xs == ys
  | .anchor a, .anchor b => a == b
  | .reference m, .reference n => m == n
  | _, _ => false

end RecordSchema.Pattern
