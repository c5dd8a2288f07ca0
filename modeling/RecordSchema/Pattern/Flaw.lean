import RecordSchema.Number.Notation
import RecordSchema.Text.Quoted

/-!
# Flaws of patterns

What can be wrong with the text of a pattern, and how a message says so. A flaw is usually told with
its place; in a pattern of several lines the place is also given as a line and a column.
-/

namespace RecordSchema.Pattern

/-- Something that a pattern may not hold. -/
inductive Flaw where
  | unfinishedEscape
  | missingName (what : String)
  | unterminatedName (terminator : Char)
  | badGroupName (name : Text)
  | incompleteEscape (escape : Text)
  | missingBrace
  | unknownCharacter (name : Text)
  | octalTooLarge (escape : Text)
  | badEscape (escape : Text)
  | openGroup
  | lookbehindGroup
  | invalidGroup (index : Nat)
  | unterminatedSet
  | badRange (first last : Text)
  | emptyInterval
  | nothingToRepeat
  | multipleRepeat
  | unexpectedEnd
  | unknownExtension (text : Text)
  | unterminatedComment
  | unterminatedGroup
  | unknownGroup (name : Text)
  | groupZero
  | thirdBranch
  | lateFlags
  | repeatedName (name : Text) (index first : Nat)
  | localeFlag
  | mixedAlphabets
  | unknownFlag
  | missingFlag
  | missingFlagEnd
  | missingColon
  | groupTurnsOn
  | groupTurnsOff
  | alphabetTurnedOff
  | onAndOff
  | unbalanced
  | variableLookbehind
  | wideLookbehind
  | templateRepeat (name : String)
  deriving DecidableEq, Repr

/-- The message of a flaw, without its place. -/
def Flaw.message : Flaw → Text
  | unfinishedEscape => "bad escape (end of pattern)"
  | missingName what => "missing " ++ what
  | unterminatedName terminator =>
    "missing " ++ String.ofList [terminator] ++ ", unterminated name"
  | badGroupName name => "bad character in group name " ++ Text.quoted name
  | incompleteEscape escape => "incomplete escape " ++ escape
  | missingBrace => "missing \x7b"
  | unknownCharacter name => "undefined character name " ++ Text.quoted name
  | octalTooLarge escape => "octal escape value " ++ escape ++ " outside of range 0-0o377"
  | badEscape escape => "bad escape " ++ escape
  | openGroup => "cannot refer to an open group"
  | lookbehindGroup => "cannot refer to group defined in the same lookbehind subpattern"
  | invalidGroup index => "invalid group reference " ++ Decimal.writeNat index
  | unterminatedSet => "unterminated character set"
  | badRange first last => "bad character range " ++ first ++ "-" ++ last
  | emptyInterval => "min repeat greater than max repeat"
  | nothingToRepeat => "nothing to repeat"
  | multipleRepeat => "multiple repeat"
  | unexpectedEnd => "unexpected end of pattern"
  | unknownExtension text => "unknown extension ?" ++ text
  | unterminatedComment => "missing ), unterminated comment"
  | unterminatedGroup => "missing ), unterminated subpattern"
  | unknownGroup name => "unknown group name " ++ Text.quoted name
  | groupZero => "bad group number"
  | thirdBranch => "conditional backref with more than two branches"
  | lateFlags => "global flags not at the start of the expression"
  | repeatedName name index first =>
    "redefinition of group name " ++ Text.quoted name ++ " as group " ++ Decimal.writeNat index ++
      "; was group " ++ Decimal.writeNat first
  | localeFlag => "bad inline flags: cannot use 'L' flag with a str pattern"
  | mixedAlphabets => "bad inline flags: flags 'a', 'u' and 'L' are incompatible"
  | unknownFlag => "unknown flag"
  | missingFlag => "missing flag"
  | missingFlagEnd => "missing -, : or )"
  | missingColon => "missing :"
  | groupTurnsOn => "bad inline flags: cannot turn on global flag"
  | groupTurnsOff => "bad inline flags: cannot turn off global flag"
  | alphabetTurnedOff => "bad inline flags: cannot turn off flags 'a', 'u' and 'L'"
  | onAndOff => "bad inline flags: flag turned on and off"
  | unbalanced => "unbalanced parenthesis"
  | variableLookbehind => "look-behind requires fixed-width pattern"
  | wideLookbehind => "looks too much behind"
  | templateRepeat name => "internal: unsupported template operator " ++ name

/-- A place in a pattern: an offset and, in a pattern of several lines, a line and a column. -/
structure Place where
  offset : Nat
  lineAndColumn? : Option (Nat × Nat)
  deriving DecidableEq, Repr

/-- The place at an offset of a pattern. -/
def Place.ofOffset (pattern : List Point) (offset : Nat) : Place where
  offset := offset
  lineAndColumn? :=
    if pattern.contains (.char '\n') then
      let before := pattern.take offset
      some (before.count (.char '\n') + 1, (before.reverse.takeWhile (· != .char '\n')).length + 1)
    else none

def Place.message (place : Place) : String :=
  " at position " ++ Decimal.writeNat place.offset ++
    match place.lineAndColumn? with
    | some (line, column) =>
      " (line " ++ Decimal.writeNat line ++ ", column " ++ Decimal.writeNat column ++ ")"
    | none => ""

/-- Why a text is not a pattern. -/
inductive Fault where
  | flaw (flaw : Flaw) (place? : Option Place)
  /-- A repetition count beyond the greatest one. -/
  | countTooLarge
  /-- A repetition count of too many digits to be read; how many. -/
  | countTooLong (digits : Nat)
  /-- Two alphabets chosen for the pattern as a whole. -/
  | alphabetsClash
  deriving DecidableEq, Repr

end RecordSchema.Pattern
