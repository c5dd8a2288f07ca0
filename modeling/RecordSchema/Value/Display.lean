import RecordSchema.Number.Notation
import RecordSchema.Text.Quoted
import RecordSchema.Value.Basic

/-!
# Written values

The text that messages give for a value. Text inside it is quoted; on its own it stands as it is.
-/

namespace RecordSchema.Value

mutual

/-- The written form of a value. -/
def display : Value → String
  | null => "None"
  | bool b => if b then "True" else "False"
  | int n => Decimal.writeInt n
  | float x => x.write Double.messageLayout
  | text s => Text.quoted s
  | list items => "[" ++ displayItems items ++ "]"
  | tuple items =>
    "(" ++ displayItems items ++ (if items.length = 1 then ",)" else ")")
  | record false entries => "\x7b" ++ displayEntries entries ++ "\x7d"
  | record true entries => "mappingproxy(\x7b" ++ displayEntries entries ++ "\x7d)"
  | function name => "<function " ++ name ++ ">"

/-- Written items with commas between them. -/
def displayItems : List Value → String
  | [] => ""
  | [v] => v.display
  | v :: rest => v.display ++ ", " ++ displayItems rest

/-- Written entries with commas between them. -/
def displayEntries : List (Value × Value) → String
  | [] => ""
  | [(k, v)] => k.display ++ ": " ++ v.display
  | (k, v) :: rest => k.display ++ ": " ++ v.display ++ ", " ++ displayEntries rest

end

/-- A value as part of a sentence: text as it is, anything else written. -/
def plain : Value → Text
  | text s => s
  | v => v.display

end RecordSchema.Value
