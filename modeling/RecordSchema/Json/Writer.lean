import RecordSchema.Json.Quoted
import RecordSchema.Value.Display

/-!
# Writing JSON documents

A document is written on one line, or with every item and entry on a line of its own, indented by
its depth. Empty lists and mappings stay on one line either way. What JSON has no form for is
written as the text that messages give for it.
-/

namespace RecordSchema.Json

/-- The break in front of an item at a depth, if the items stand on lines of their own. -/
def lineBreak (indent? : Option Nat) (depth : Nat) : List Char :=
  match indent? with
  | some indent => '\n' :: List.replicate (indent * depth) ' '
  | none => []

/-- What stands between two items at a depth. -/
def separator (indent? : Option Nat) (depth : Nat) : List Char :=
  match indent? with
  | some _ => ',' :: lineBreak indent? depth
  | none => [',', ' ']

/-- The written form of a key, which is text in every document that was read. -/
def writeKey (key : Value) : List Char :=
  writeText key.plain.toList ++ [':', ' ']

mutual

/-- The written form of a value at a depth. -/
def writeValue (indent? : Option Nat) (depth : Nat) : Value → List Char
  | .null => "null".toList
  | .bool b => (if b then "true" else "false").toList
  | .int n => (Decimal.writeInt n).toList
  | .float x => (x.write Double.documentLayout).toList
  | .text s => writeText s.toList
  | .list items => writeList indent? depth items
  | .tuple items => writeList indent? depth items
  | .record false [] => ['\x7b', '\x7d']
  | .record false (entry :: rest) =>
    ['\x7b'] ++ lineBreak indent? (depth + 1) ++ writeEntries indent? (depth + 1) (entry :: rest) ++
      lineBreak indent? depth ++ ['\x7d']
  | .record true entries => writeText (Value.record true entries).plain.toList
  | .function name => writeText (Value.function name).plain.toList

/-- The written form of a list at a depth. -/
def writeList (indent? : Option Nat) (depth : Nat) : List Value → List Char
  | [] => ['[', ']']
  | v :: rest =>
    ['['] ++ lineBreak indent? (depth + 1) ++ writeItems indent? (depth + 1) (v :: rest) ++
      lineBreak indent? depth ++ [']']

/-- Written items with separators between them. -/
def writeItems (indent? : Option Nat) (depth : Nat) : List Value → List Char
  | [] => []
  | [v] => writeValue indent? depth v
  | v :: rest =>
    writeValue indent? depth v ++ separator indent? depth ++ writeItems indent? depth rest

/-- Written entries with separators between them. -/
def writeEntries (indent? : Option Nat) (depth : Nat) : List (Value × Value) → List Char
  | [] => []
  | [(key, v)] => writeKey key ++ writeValue indent? depth v
  | (key, v) :: rest =>
    writeKey key ++ writeValue indent? depth v ++ separator indent? depth ++
      writeEntries indent? depth rest

end

/-- The written form of a document. -/
def write (indent? : Option Nat) (v : Value) : String :=
  String.ofList (writeValue indent? 0 v)

end RecordSchema.Json
