import RecordSchema.Fault
import RecordSchema.Schema.Basic
import RecordSchema.Value.Record

/-!
# Compiling schemas

A schema document is a record of rule sets, each of them a record too. Compiling it sorts out the
reserved keys of every rule set, `transform`, `type` and `properties`, and refuses a document of the
wrong shape. Whether `type` is a reference depends on which names resolve.
-/

namespace RecordSchema

/-- Decides whether a name resolves; asking may stop the run. -/
abbrev Resolver := Text → Except Fault Bool

/-- Whether the second list occurs in the first without a gap. -/
def occursIn (part : List Point) : List Point → Bool
  | [] => part.isEmpty
  | c :: rest => part.isPrefixOf (c :: rest) || occursIn part rest

/-- The names that a value holds: the items of a list or tuple, the keys of a mapping, and every
part of a text. -/
def Resolver.ofValue (named : Value) : Resolver := fun name =>
  match named with
  | .list items => .ok (items.any (·.isText name))
  | .tuple items => .ok (items.any (·.isText name))
  | .record _ entries => .ok (Record.contains entries name)
  | .text s => .ok (occursIn name.toList s.toList)
  | _ => .error (.mishap (.notContainer named.typeName))

namespace Schema

/-- The step that leads to a rule by its key. -/
def keyStep : Value → LocationStep
  | .int n => if -twoPow 63 ≤ n ∧ n < twoPow 63 then .index n else .name (Decimal.writeInt n)
  | .bool b => .index (if b then 1 else 0)
  | key => .name key.plain

/-- The issues of a list of transforms from a position on: every name must be text. -/
def nameIssues (position : Nat) : List Value → List Issue
  | [] => []
  | .text _ :: rest => nameIssues (position + 1) rest
  | _ :: rest =>
    ⟨[.name "transform", .index position], .notText⟩ :: nameIssues (position + 1) rest

/-- The names among values. -/
def textItems (items : List Value) : List Text :=
  items.filterMap fun v =>
    match v with
    | .text s => some s
    | _ => none

/-- The transforms of a rule set and the issues with them. Whatever counts as false is no
transform. -/
def transformsOf (fields : Record) : List Text × List Issue :=
  match Record.get? fields "transform" with
  | none => ([], [])
  | some v =>
    if v.truthy then
      match v with
      | .list items => (textItems items, nameIssues 0 items)
      | .tuple items => (textItems items, nameIssues 0 items)
      | _ => ([], [Issue.at "transform" .notTuple])
    else ([], [])

/-- Whether a key of a rule set is neither `transform` nor `properties`. -/
def isRuleKey (key : Value) : Bool :=
  !(key.isText "transform" || key.isText "properties")

/-- The rules of a rule set in order. -/
def rulesOf (fields : Record) : List (Text × Value) :=
  fields.filterMap fun (key, argument) =>
    match key with
    | .text name => if isRuleKey key then some (name, argument) else none
    | _ => none

/-- The issues with the keys of rules, which must be text. -/
def ruleIssues (fields : Record) : List Issue :=
  fields.filterMap fun (key, _) =>
    match key with
    | .text _ => none
    | _ => some ⟨[.name "rules", keyStep key, .name "[key]"], .notText⟩

/-- The name of a schema that a rule set refers to, if its `type` is one that resolves. -/
def referenceOf (resolves : Resolver) (fields : Record) : Except Fault (Option Text) :=
  match Record.get? fields "type" with
  | some (.text name) => do return if ← resolves name then some name else none
  | _ => .ok none

/-- The property of a rule set. Its inner schema is compiled only when it refers to no other. -/
def ruleSet (resolves : Resolver) (key : Text) (fields : Record)
    (inner : Unit → Except Fault (Option Schema)) : Except Fault Property := do
  let (name, optional) := splitKey key
  let (transforms, transformIssues) := transformsOf fields
  let (nesting, rules, issues) ←
    match ← referenceOf resolves fields with
    | some target => pure (Nesting.reference target, [], transformIssues)
    | none =>
      let nesting :=
        match ← inner () with
        | some properties => Nesting.inline properties
        | none => Nesting.plain
      pure (nesting, rulesOf fields, transformIssues ++ ruleIssues fields)
  if issues.isEmpty then return { name, optional, transforms, nesting, rules }
  else throw (.schema (.invalidRuleSet key issues))

mutual

/-- Compiles a schema document. -/
def compile (resolves : Resolver) : Value → Except Fault Schema
  | .record _ entries => compileEntries resolves entries
  | v => .error (.schema (.schemaNotMapping v))

/-- Compiles the rule sets of a document in order. -/
def compileEntries (resolves : Resolver) : List (Value × Value) → Except Fault Schema
  | [] => .ok []
  | (key, v) :: rest => do
    let property ← compileRuleSet resolves key v
    let properties ← compileEntries resolves rest
    return property :: properties

/-- Compiles one rule set under its key. -/
def compileRuleSet (resolves : Resolver) (key : Value) : Value → Except Fault Property
  | .record _ fields =>
    match key with
    | .text key => ruleSet resolves key fields fun _ => compileInner resolves fields
    | _ => .error (.schema (.keyNotText key))
  | v =>
    match key with
    | .text key => .error (.schema (.ruleSetNotMapping key v))
    | _ => .error (.schema (.keyNotText key))

/-- Compiles the inner schema of a rule set, if it has one. -/
def compileInner (resolves : Resolver) :
    List (Value × Value) → Except Fault (Option Schema)
  | [] => .ok none
  | (key, v) :: rest =>
    if key.isText "properties" then
      if v.isNull then .ok none else return some (← compile resolves v)
    else compileInner resolves rest

end

end Schema

end RecordSchema
