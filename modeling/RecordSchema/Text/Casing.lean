import RecordSchema.Text.Ranges

/-!
# Case mappings by runs

A case mapping is a list of runs. In a run the code points from `first` to `last` in steps of `step`
are all moved by the same distance.
-/

namespace RecordSchema.Text

/-- Code points in equal steps that a case mapping moves by one distance. -/
structure CaseRun where
  first : Nat
  last : Nat
  step : Nat
  distance : Int
  deriving DecidableEq, Repr

/-- Whether a code point belongs to a run. -/
def CaseRun.contains (run : CaseRun) (n : Nat) : Bool :=
  run.first ≤ n && n ≤ run.last && (n - run.first) % run.step == 0

/-- Whether some code point of a run lies between two bounds. -/
def CaseRun.meets (run : CaseRun) (low high : Nat) : Bool :=
  let ahead := low - run.first
  let member := run.first + (ahead + run.step - 1) / run.step * run.step
  member ≤ run.last && member ≤ high

/-- The code point that a code point of the run is mapped to. -/
def CaseRun.target (run : CaseRun) (n : Nat) : Nat :=
  (n + run.distance).toNat

/-- The code point of the run that is mapped to `n`, if there is one. -/
def CaseRun.source? (run : CaseRun) (n : Nat) : Option Nat :=
  let m := (n - run.distance).toNat
  if run.contains m && run.target m == n then some m else none

/-- The code point that a mapping takes `n` to, or none when it leaves `n` alone. -/
def mappedBy (runs : List CaseRun) (n : Nat) : Option Nat :=
  (runs.find? (·.contains n)).map (·.target n)

/-- The code points that a mapping takes to `n`. -/
def sourcesBy (runs : List CaseRun) (n : Nat) : List Nat :=
  runs.filterMap (·.source? n)

end RecordSchema.Text
