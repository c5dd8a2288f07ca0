import RecordSchema.Fault
import RecordSchema.Json.Writer

/-!
# Reports

A check that comes to a verdict writes it as one JSON document: that the data is valid, with the
sanitized record if there is one, or the failure.
-/

namespace RecordSchema.Checker

/-- The verdict of a check. -/
inductive Report where
  | valid (record? : Option Record)
  | invalid (failure : Failure)

namespace Report

/-- The verdict as a value. -/
def toValue : Report → Value
  | valid none => .record false [(.text "valid", .bool true)]
  | valid (some record) =>
    .record false [(.text "valid", .bool true), (.text "data", .record false record)]
  | invalid failure =>
    .record false [(.text "valid", .bool false), (.text "error", .record false failure.toRecord)]

/-- The exit code that stands for the verdict. -/
def exitCode : Report → Nat
  | valid _ => 0
  | invalid _ => 1

/-- An indentation of this many spaces cannot be counted. -/
def indentLimit : Nat := 0x8000000000000000

/-- An indentation of this many spaces, 2^40, cannot be held in memory. -/
def memoryLimit : Nat := 0x10000000000

/-- Refuses an indentation that is too large. -/
def checkIndent : Option Nat → Except Fault Unit
  | some indent =>
    if indentLimit ≤ indent then .error (.mishap .indentTooLarge)
    else if memoryLimit ≤ indent then .error (.mishap .outOfMemory)
    else .ok ()
  | none => .ok ()

/-- The written report, which ends with a line feed. -/
def write (indent? : Option Nat) (report : Report) : Except Fault String := do
  checkIndent indent?
  return Json.write indent? report.toValue ++ "\n"

end Report

end RecordSchema.Checker
