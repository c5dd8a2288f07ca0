import RecordSchema.Text.Basic

/-!
# Registries

A `Registry` maps names to functions in the order in which the names were first registered.
Replacing the function of a name keeps the name's place, so the names are always distinct.
-/

namespace RecordSchema

/-- Replaces the value of a name in place, or puts a new name at the end. -/
def putEntry {α : Type} (name : Text) (f : α) : List (Text × α) → List (Text × α)
  | [] => [(name, f)]
  | entry :: rest =>
    if entry.1 = name then (name, f) :: rest else entry :: putEntry name f rest

/-- A name is new exactly when it is not among the names already there. -/
theorem map_fst_putEntry {α : Type} (name : Text) (f : α) (entries : List (Text × α)) :
    (putEntry name f entries).map (·.1) =
      if name ∈ entries.map (·.1) then entries.map (·.1) else entries.map (·.1) ++ [name] := by
  induction entries with
  | nil => simp [putEntry]
  | cons entry rest ih =>
    by_cases h : entry.1 = name
    · simp [putEntry, h]
    · have h' : ¬name = entry.1 := fun e => h e.symm
      simp only [putEntry, h, if_false, List.map_cons, ih, List.mem_cons, h', false_or]
      split <;> simp

/-- Putting an entry keeps the names distinct. -/
theorem nodup_putEntry {α : Type} (name : Text) (f : α) {entries : List (Text × α)}
    (h : (entries.map (·.1)).Nodup) : ((putEntry name f entries).map (·.1)).Nodup := by
  rw [map_fst_putEntry]
  split
  · exact h
  · rename_i hn
    rw [List.nodup_append]
    refine ⟨h, by simp, ?_⟩
    intro a ha b hb
    rw [List.mem_singleton] at hb
    subst hb
    intro e
    exact hn (e ▸ ha)

/-- Looking up the name that was put gives what was put. -/
theorem lookup_putEntry_self {α : Type} (name : Text) (f : α) (entries : List (Text × α)) :
    (putEntry name f entries).lookup name = some f := by
  induction entries with
  | nil => simp [putEntry]
  | cons entry rest ih =>
    rcases entry with ⟨other, g⟩
    by_cases h : other = name
    · simp [putEntry, h]
    · have h' : (name == other) = false := by simp [Ne.symm h]
      simp [putEntry, h, List.lookup_cons, h', ih]

/-- Looking up another name gives what it gave before. -/
theorem lookup_putEntry_of_ne {α : Type} {name other : Text} (h : other ≠ name) (f : α)
    (entries : List (Text × α)) :
    (putEntry name f entries).lookup other = entries.lookup other := by
  have h' : (other == name) = false := by simp [h]
  induction entries with
  | nil => simp [putEntry, List.lookup_cons, h']
  | cons entry rest ih =>
    rcases entry with ⟨first, g⟩
    by_cases hf : first = name
    · subst hf
      simp [putEntry, List.lookup_cons, h']
    · simp [putEntry, hf, List.lookup_cons, ih]

/-- Functions by their names, in the order of registration. -/
structure Registry (α : Type) where
  entries : List (Text × α)
  distinct : (entries.map (·.1)).Nodup

namespace Registry

variable {α : Type}

def empty : Registry α :=
  ⟨[], by simp⟩

/-- Registers a function, in the place of the name when it has one. -/
def put (r : Registry α) (name : Text) (f : α) : Registry α :=
  ⟨putEntry name f r.entries, nodup_putEntry name f r.distinct⟩

/-- The registry of functions registered one after another. -/
def ofList (functions : List (Text × α)) : Registry α :=
  functions.foldl (fun r entry => r.put entry.1 entry.2) empty

/-- A registry of its own with the same functions. -/
def copy (r : Registry α) : Registry α :=
  ofList r.entries

/-- The function of a name. -/
def get? (r : Registry α) (name : Text) : Option α :=
  r.entries.lookup name

def contains (r : Registry α) (name : Text) : Bool :=
  (r.get? name).isSome

/-- The names in the order of registration. -/
def names (r : Registry α) : List Text :=
  r.entries.map (·.1)

/-- Under a name is the function that was put there. -/
theorem get?_put_self (r : Registry α) (name : Text) (f : α) :
    (r.put name f).get? name = some f :=
  lookup_putEntry_self name f r.entries

/-- Under other names nothing changes. -/
theorem get?_put_of_ne (r : Registry α) {name other : Text} (h : other ≠ name) (f : α) :
    (r.put name f).get? other = r.get? other :=
  lookup_putEntry_of_ne h f r.entries

/-- Putting a name keeps the order of names; a new one goes to the end. -/
theorem names_put (r : Registry α) (name : Text) (f : α) :
    (r.put name f).names = if name ∈ r.names then r.names else r.names ++ [name] :=
  map_fst_putEntry name f r.entries

end Registry

end RecordSchema
