import RecordSchema.Checker.Check

/-!
# Command line

Reads the files that the arguments name, runs the check on them, and prints the report and the log.
-/

namespace RecordSchema.Checker

/-- How the command line is used. -/
def usage : String :=
  "usage: check [-h] [--named-schemas PATH] [--mode assert|contract]\n" ++
    "             [--log-level LEVEL] [--indent N] data schema"

/-- What is found at a path. -/
def readFile (path : Text) : IO File := do
  match path.string? with
  | none => return .unreadable
  | some path =>
    try
      return .content (← IO.FS.readBinFile path)
    catch
      | .noFileOrDirectory _ _ _ => return .missing
      | _ => return .unreadable

/-- The paths of a check, as they are looked up. -/
def paths (options : Options) : List Text :=
  ([options.dataPath, options.schemaPath] ++ options.namedSchemasPath?.toList).map Path.tidy

/-- The files at some paths. -/
def readFiles (paths : List Text) : IO Files := do
  let found ← paths.mapM fun path => return (path, ← readFile path)
  return fun path => (found.lookup path).getD .missing

/-- A text as it is shown, halves of pairs by their numbers. -/
def shown (s : Text) : String :=
  .ofList (s.toList.flatMap fun c =>
    match c with
    | .char c => [c]
    | .half bits => Text.escapeCode (Point.half bits).toNat)

/-- Prints what a check leaves behind, and gives its exit code. -/
def printOutcome (result : Except Fault Outcome) : IO UInt32 := do
  match result with
  | .ok outcome =>
    for record in outcome.log do
      IO.eprintln
        (record.channel.name ++ " - " ++ shown (record.level.name ++ " - " ++ record.message))
    IO.print outcome.output
    return outcome.exitCode.toUInt32
  | .error fault =>
    IO.eprintln (shown fault.message)
    return 1

end RecordSchema.Checker

open RecordSchema Checker in
/-- Runs one check. -/
def main (arguments : List String) : IO UInt32 := do
  match Arguments.options (arguments.map .string) with
  | .ok options => printOutcome (check (← readFiles (paths options)) options)
  | .error .helpWanted =>
    IO.println usage
    return 0
  | .error _ =>
    IO.eprintln usage
    return 2
