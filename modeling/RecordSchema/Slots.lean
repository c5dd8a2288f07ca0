import RecordSchema.Registration

/-!
# Slots of registries

Registries are changed where they are kept. Each of them has a cell of a store, and a place says in
which cell the registry of a slot is. A new registry gets a new cell, so what is done to a slot later
on is done to the cell that it has by then.
-/

namespace RecordSchema

/-- The kinds of registries. -/
inductive Kind where
  | rule
  | transform
  deriving DecidableEq, Repr

namespace Kind

/-- What a registry of a kind holds. -/
abbrev Function : Kind → Type
  | rule => Rule
  | transform => Transform

/-- What an entry is called when it is refused. -/
def role : Kind → String
  | rule => "Rule"
  | transform => "Transform"

/-- A function as an entry. -/
def ofFunction (catalogue : Catalogue) : (kind : Kind) → String → kind.Function
  | rule => Rule.ofFunction catalogue
  | transform => Transform.ofFunction catalogue

/-- Registers a value. -/
def register (catalogue : Catalogue) : (kind : Kind) → Registry kind.Function → Text → Value →
    Except Fault (Registry kind.Function)
  | rule => Registry.registerRule catalogue
  | transform => Registry.registerTransform catalogue

/-- Calls an entry; only rules look at the argument. -/
def call : (kind : Kind) → kind.Function → Value → Value → Except Fault Value
  | rule, f, v, argument => Except.map .bool (f v argument)
  | transform, f, v, _ => f v

/-- Calls an entry by name, which must be registered. -/
def invoke : (kind : Kind) → Registry kind.Function → Text → Value → Value → Except Fault Value
  | rule, rules, name, v, argument => (Rule.invoke rules name v argument).map .bool
  | transform, transforms, name, v, _ => Transform.invoke transforms name v

end Kind

/-- All registries made so far, and the cell that each slot has among them. -/
structure Slots (α : Type) where
  store : List (Registry α)
  places : List (Text × Nat)

/-- Something that is done to the registry of a slot. -/
inductive Operation (α : Type) where
  | construct (slot : Text) (functions : List (Text × α))
  | copy (source target : Text)
  | register (slot name : Text) (v : Value)

/-- The slot that an operation is about to change. -/
def Operation.target {α : Type} : Operation α → Text
  | construct slot _ => slot
  | copy _ target => target
  | register slot _ _ => slot

/-- A computation on slots, which may stop without a result. -/
abbrev InSlots (α : Type) := ExceptT Fault (StateM (Slots α))

namespace Slots

variable {α : Type}

/-- No slots at all. -/
def empty : Slots α :=
  ⟨[], []⟩

/-- The registry of a slot. -/
def slot? (s : Slots α) (slot : Text) : Option (Registry α) :=
  (s.places.lookup slot).bind (s.store[·]?)

/-- Keeps a registry in a new cell and gives the cell to a slot. -/
def hold (s : Slots α) (slot : Text) (r : Registry α) : Slots α :=
  ⟨s.store ++ [r], putEntry slot s.store.length s.places⟩

/-- Writes a registry into the cell of a slot. -/
def write (s : Slots α) (slot : Text) (r : Registry α) : Slots α :=
  match s.places.lookup slot with
  | some cell => { s with store := s.store.set cell r }
  | none => s

/-- Reads the registry of a slot, which must be there. -/
def read (slot : Text) : InSlots α (Registry α) := do
  match (← get).slot? slot with
  | some r => return r
  | none => throw (.mishap (.missingKey (.text slot)))

/-- Carries out an operation. -/
def perform (kind : Kind) (catalogue : Catalogue) :
    Operation kind.Function → InSlots kind.Function Unit
  | .construct slot functions => modify (·.hold slot (.ofList functions))
  | .copy source target => do
    let r ← read source
    modify (·.hold target r.copy)
  | .register slot name v => do
    let r ← read slot
    let r ← liftM (kind.register catalogue r name v)
    modify (·.write slot r)

/-- Carries out an operation; the slots are there whether it is refused or not. -/
def step (kind : Kind) (catalogue : Catalogue) (s : Slots kind.Function)
    (operation : Operation kind.Function) : Except Fault Unit × Slots kind.Function :=
  Id.run ((perform kind catalogue operation).run.run s)

/-- The slots after operations one after another, at first there being none. -/
def run (kind : Kind) (catalogue : Catalogue) (operations : List (Operation kind.Function)) :
    Slots kind.Function :=
  operations.foldl (fun s operation => (step kind catalogue s operation).2) empty

end Slots

end RecordSchema
