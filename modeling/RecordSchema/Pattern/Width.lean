import RecordSchema.Pattern.Syntax

/-!
# Widths of patterns

The least and the greatest number of characters that an item takes. Widths stop at `widthLimit`, so
that one without a bound is a number too.
-/

namespace RecordSchema.Pattern

/-- The width that stands for every greater one. -/
def widthLimit : Nat := 0x10000000000000000

/-- The least and the greatest number of characters taken. -/
structure Width where
  least : Nat
  most : Nat
  deriving DecidableEq, Repr

namespace Width

def zero : Width := ⟨0, 0⟩

def one : Width := ⟨1, 1⟩

def add (a b : Width) : Width :=
  ⟨a.least + b.least, a.most + b.most⟩

/-- The widths of either of two. -/
def either (a b : Width) : Width :=
  ⟨min a.least b.least, max a.most b.most⟩

def capped (a : Width) : Width :=
  ⟨min a.least widthLimit, min a.most widthLimit⟩

/-- The widths of a number of repetitions; without a bound nothing but an empty item stays
bounded. -/
def times (a : Width) (least : Nat) (most? : Option Nat) : Width :=
  ⟨a.least * least,
    match most? with
    | some most => a.most * most
    | none => if a.most = 0 then 0 else widthLimit⟩

end Width

/-- The widths of the groups that are closed, by their numbers. -/
abbrev GroupWidths := List (Nat × Width)

mutual

/-- The width of one item. -/
def Node.width (groups : GroupWidths) : Node → Width
  | .literal _ => .one
  | .notLiteral _ => .one
  | .any => .one
  | .set _ _ => .one
  | .anchor _ => .zero
  | .branch alternatives => branchWidth groups alternatives
  | .group _ _ _ body => (sequenceWidth groups body).capped
  | .atomic body => (sequenceWidth groups body).capped
  | .repeated _ least most? body => (sequenceWidth groups body).capped.times least most?
  | .reference index => (groups.lookup index).getD .zero
  | .conditional _ present absent =>
    (sequenceWidth groups present).capped.either (sequenceWidth groups absent).capped
  | .look _ _ _ => .zero

/-- The sum of the widths of items in a row. -/
def sequenceWidth (groups : GroupWidths) : List Node → Width
  | [] => .zero
  | node :: rest => (node.width groups).add (sequenceWidth groups rest)

/-- The width of one of several alternatives. -/
def branchWidth (groups : GroupWidths) : List (List Node) → Width
  | [] => ⟨widthLimit, 0⟩
  | body :: rest => (sequenceWidth groups body).capped.either (branchWidth groups rest)

end

end RecordSchema.Pattern
