import RecordSchema.Assertion
import RecordSchema.Field

/-!
# Trails

A `Trail` tells where the module for a path is loaded from. A manifest holds trails by their paths;
it is read from a record of records, which is asserted first, so that a bad entry is located by its
path.
-/

namespace RecordSchema

/-- Where a module is loaded from: its name, the global variable it sets, and its address. -/
structure Trail where
  name : Text
  globalVar : Text
  url : Text
  deriving DecidableEq, Repr

namespace Trail

/-- The schema that entries of a manifest satisfy. -/
def schema : Value :=
  .record false [
    (.text "name", .record false [
      (.text "transform", .list [.text "trim"]), (.text "type", .text "string"),
      (.text "minLength", .int 1)]),
    (.text "globalVar", .record false [
      (.text "transform", .list [.text "trim"]), (.text "type", .text "string"),
      (.text "pattern", .text "^[A-Za-z_$][\\w$]*$")]),
    (.text "url", .record false [
      (.text "transform", .list [.text "trim"]), (.text "type", .text "string"),
      (.text "pattern", .text "^https?://")])]

/-- The key under which the global variable is found: its own name, or the name of the field. -/
def globalVarKey (fields : Record) : Text :=
  if Record.contains fields "globalVar" then "globalVar"
  else if Record.contains fields "global_var" then "global_var"
  else "globalVar"

/-- The trail of named fields. All issues are told: those of the fields in order, then every field
that is not expected. -/
def ofFields (fields : Record) : Except Fault Trail :=
  let key := globalVarKey fields
  let name := Field.read fields "name" none Field.text
  let globalVar := Field.read fields key none Field.text
  let url := Field.read fields "url" none Field.text
  let unexpected := Field.unexpected ["name", key, "url"] fields
  match name, globalVar, url, unexpected with
  | .ok name, .ok globalVar, .ok url, [] => .ok ⟨name, globalVar, url⟩
  | _, _, _, _ =>
    .error (.mishap (.invalidFields
      (Field.issues name ++ Field.issues globalVar ++ Field.issues url ++ unexpected)))

/-- What a value holds under a name; only mappings can be asked. -/
def fieldOf (v : Value) (name : Text) : Except Fault Value :=
  match v with
  | .record _ entries =>
    match Record.get? entries name with
    | some found => .ok found
    | none => .error (.mishap (.missingKey (.text name)))
  | .text _ => .error (.mishap (.indexedByName v.typeName))
  | .list _ => .error (.mishap (.indexedByName v.typeName))
  | .tuple _ => .error (.mishap (.indexedByName v.typeName))
  | _ => .error (.mishap (.notSubscriptable v.typeName))

/-- The trail of an entry of a manifest. -/
def ofEntry (entry : Value) : Except Fault Trail := do
  let name ← fieldOf entry "name"
  let globalVar ← fieldOf entry "globalVar"
  let url ← fieldOf entry "url"
  ofFields [(.text "name", name), (.text "global_var", globalVar), (.text "url", url)]

end Trail

/-- Trails by their paths, in order. -/
structure Manifest where
  trails : List (Value × Trail)

namespace Manifest

/-- The manifest without trails. -/
def empty : Manifest :=
  ⟨[]⟩

/-- The schema of a whole manifest: every path holds an entry. -/
def schemaOf (raw : Value) : Value :=
  match raw.entries? with
  | some entries =>
    .record false (entries.map fun (path, _) =>
      (path, .record false [(.text "properties", Trail.schema)]))
  | none => .record false []

/-- The trails of the entries of a manifest. -/
def trailsOf : List (Value × Value) → Except Fault (List (Value × Trail))
  | [] => .ok []
  | (path, entry) :: rest => do
    let trail ← Trail.ofEntry entry
    return (path, trail) :: (← trailsOf rest)

/-- Reads a manifest. -/
def ofValue (raw : Value) : Except Fault Manifest := do
  let entries ← sanitize .builtin ⟨[]⟩ (.document (schemaOf raw)) raw
  return ⟨← trailsOf entries⟩

/-- The trail of a path. -/
def resolve (manifest : Manifest) (path : Value) : Except Fault (Option Trail) :=
  match path.unhashable? with
  | some typeName => .error (.mishap (.unhashable typeName))
  | none => .ok ((manifest.trails.find? fun entry => entry.1.same path).map (·.2))

/-- Whether a path has a trail. -/
def contains (manifest : Manifest) (path : Value) : Except Fault Bool := do
  return (← manifest.resolve path).isSome

/-- The paths in order. -/
def paths (manifest : Manifest) : List Value :=
  manifest.trails.map (·.1)

def size (manifest : Manifest) : Nat :=
  manifest.trails.length

/-- The manifest that is used when none is given, as a record. -/
def standard : Value :=
  .record false [
    (.text "/", .record false [
      (.text "name", .text "spore-current-user"), (.text "globalVar", .text "SporeCurrentUser"),
      (.text "url", .text "http://localhost:5175/spore.js")]),
    (.text "/register", .record false [
      (.text "name", .text "spore-user-registration"),
      (.text "globalVar", .text "SporeUserRegistration"),
      (.text "url", .text "http://localhost:5174/spore.js")])]

end Manifest

end RecordSchema
