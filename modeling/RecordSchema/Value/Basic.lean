import RecordSchema.Number.Order
import RecordSchema.Text.Basic

/-!
# Values

A `Value` is anything that a record, a schema or a rule argument may hold. Records keep their
entries in order and have distinct keys, which are themselves values and nearly always text.
-/

namespace RecordSchema

/-- A dynamic value. -/
inductive Value where
  | null
  | bool (b : Bool)
  | int (n : Int)
  | float (x : Double)
  | text (s : Text)
  | list (items : List Value)
  | tuple (items : List Value)
  /-- A mapping in the order of its entries; a read-only one is told apart by its type only. -/
  | record (readOnly : Bool) (entries : List (Value × Value))
  /-- A function, known by its name. -/
  | function (name : String)
  deriving Inhabited

/-- The entries of a mapping, in order. -/
abbrev Record := List (Value × Value)

namespace Value

/-- The name of a value's type, as messages give it. -/
def typeName : Value → String
  | null => "NoneType"
  | bool _ => "bool"
  | int _ => "int"
  | float _ => "float"
  | text _ => "str"
  | list _ => "list"
  | tuple _ => "tuple"
  | record false _ => "dict"
  | record true _ => "mappingproxy"
  | function _ => "function"

/-- The kind of a value, which the rule `type` looks at. -/
def kindName : Value → String
  | null => "undefined"
  | bool _ => "boolean"
  | int _ => "number"
  | float _ => "number"
  | text _ => "string"
  | function _ => "function"
  | _ => "object"

/-- The number that a value counts as in comparisons: a boolean counts as one or zero. -/
def number? : Value → Option Number
  | bool b => some (.int (if b then 1 else 0))
  | int n => some (.int n)
  | float x => some (.double x)
  | _ => none

/-- Whether a value is a number and no boolean. -/
def isNumber : Value → Bool
  | int _ => true
  | float _ => true
  | _ => false

def isBool : Value → Bool
  | bool _ => true
  | _ => false

def isNull : Value → Bool
  | null => true
  | _ => false

/-- The entries of a mapping of either type. -/
def entries? : Value → Option Record
  | record _ entries => some entries
  | _ => none

/-- The length of a text, in code points, or of a list or tuple. -/
def length? : Value → Option Nat
  | text s => some s.length
  | list items => some items.length
  | tuple items => some items.length
  | _ => none

/-- Whether a value counts as true: nothing, false, zeros and everything empty do not. -/
def truthy : Value → Bool
  | null => false
  | bool b => b
  | int n => n != 0
  | float x => !x.isZero
  | text s => !s.isEmpty
  | list items => !items.isEmpty
  | tuple items => !items.isEmpty
  | record _ entries => !entries.isEmpty
  | function _ => true

mutual

/-- The type name of the part of a value that cannot be a key, if there is one: lists and mappings
cannot, and neither can a tuple that holds one. -/
def unhashable? : Value → Option String
  | list _ => some "list"
  | record false _ => some "dict"
  | record true _ => some "mappingproxy"
  | tuple items => firstUnhashable? items
  | _ => none

def firstUnhashable? : List Value → Option String
  | [] => none
  | v :: rest =>
    match v.unhashable? with
    | some name => some name
    | none => firstUnhashable? rest

end

mutual

/-- How deeply mappings are nested in a value: anything but a mapping has depth zero, and a mapping
one more than the deepest of its values. -/
def depth : Value → Nat
  | record _ entries => entriesDepth entries + 1
  | _ => 0

def entriesDepth : List (Value × Value) → Nat
  | [] => 0
  | (_, v) :: rest => max v.depth (entriesDepth rest)

end

/-- The values that an iteration over a value gives: the characters of a text, the items of a list
or tuple, the keys of a mapping. -/
def items? : Value → Option (List Value)
  | text s => some (s.toList.map fun c => text (.ofList [c]))
  | list items => some items
  | tuple items => some items
  | record _ entries => some (entries.map (·.1))
  | _ => none

end Value

end RecordSchema
