import RecordSchema.Pattern.Matcher
import RecordSchema.Pattern.Reader

/-!
# Searching by pattern

A `Pattern` is made from text, which may be refused, and then searched for anywhere in other texts.
-/

namespace RecordSchema

/-- A pattern with the switches that hold for all of it and the widths of its groups. -/
structure Pattern where
  nodes : List Pattern.Node
  flags : Pattern.Flags
  widths : Pattern.GroupWidths

namespace Pattern

/-- The greatest distance that a look-behind may go back. -/
def lookbehindLimit : Nat := 4294967295

/-- The name by which a refusal calls a kind of repetition. -/
def Greed.operator : Greed → String
  | greedy => "MAX_REPEAT"
  | reluctant => "MIN_REPEAT"
  | possessive => "POSSESSIVE_REPEAT"

mutual

/-- What an item that was read well may still not hold: a look-behind of more than one width, or a
repetition in a template. -/
def Node.flaw? (widths : GroupWidths) (flags : Flags) : Node → Option Flaw
  | .branch alternatives => branchFlaw? widths flags alternatives
  | .group _ on off body => sequenceFlaw? widths (flags.within on off) body
  | .atomic body => sequenceFlaw? widths flags body
  | .repeated greed _ _ body =>
    if flags.template then some (.templateRepeat greed.operator)
    else sequenceFlaw? widths flags body
  | .conditional _ present absent =>
    (sequenceFlaw? widths flags present).or (sequenceFlaw? widths flags absent)
  | .look behind _ body =>
    let width := (sequenceWidth widths body).capped
    if behind && lookbehindLimit < width.least then some .wideLookbehind
    else if behind && width.least != width.most then some .variableLookbehind
    else sequenceFlaw? widths flags body
  | _ => none

def sequenceFlaw? (widths : GroupWidths) (flags : Flags) : List Node → Option Flaw
  | [] => none
  | node :: rest => (node.flaw? widths flags).or (sequenceFlaw? widths flags rest)

def branchFlaw? (widths : GroupWidths) (flags : Flags) : List (List Node) → Option Flaw
  | [] => none
  | body :: rest => (sequenceFlaw? widths flags body).or (branchFlaw? widths flags rest)

end

/-- The pattern of a text. -/
def ofText (source : List Point) : Except Fault Pattern := do
  let (nodes, flags, widths) ← Reader.run source
  match sequenceFlaw? widths flags nodes with
  | some flaw => throw (.flaw flaw none)
  | none => return ⟨nodes, flags, widths⟩

/-- Whether a pattern matches anywhere in a text. -/
def search (pattern : Pattern) (text : List Point) : Bool :=
  let matcher := runSequence (.ofText text) pattern.widths pattern.flags pattern.nodes
  searchFrom matcher text (.start text)

end Pattern

end RecordSchema
