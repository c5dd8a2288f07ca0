import RecordSchema.Session

/-!
# The log of a check

Every record of the log belongs to a channel and has a level. Levels are ordered by severity, and a
check shows the records from its own level up.
-/

namespace RecordSchema.Checker

/-- How severe a record is. -/
inductive Level where
  | debug
  | info
  | warning
  | error
  | critical
  deriving DecidableEq, Repr

namespace Level

/-- All levels, from the least severe one up. -/
def all : List Level :=
  [debug, info, warning, error, critical]

def name : Level → Text
  | debug => "DEBUG"
  | info => "INFO"
  | warning => "WARNING"
  | error => "ERROR"
  | critical => "CRITICAL"

/-- The level of a name. -/
def ofName? (name : Text) : Option Level :=
  all.find? (·.name == name)

/-- The place of a level in the order of severity. -/
def severity (level : Level) : Nat :=
  all.idxOf level

end Level

/-- The part of the program that a record comes from. -/
inductive Channel where
  | compiling
  | transforms
  | assertions
  | contracts
  | checks
  deriving DecidableEq, Repr

/-- The name under which the records of a channel appear. -/
def Channel.name : Channel → String
  | compiling => "mycoassert.schemas.compile"
  | transforms => "mycoassert.transforms"
  | assertions => "mycoassert.assertion"
  | contracts => "mycoassert.contract"
  | checks => "mycoassert.cli.check"

/-- A line of the log, and where it comes from. -/
structure LogRecord where
  channel : Channel
  level : Level
  message : Text
  deriving DecidableEq, Repr

namespace LogRecord

/-- The record of an event of a session. -/
def ofEvent : Event → LogRecord
  | .compiling name => ⟨.compiling, .debug, "Compiling named schema: " ++ name⟩
  | .skipped transform => ⟨.transforms, .debug, "Skipping unregistered transform: " ++ transform⟩
  | .passed properties names =>
    ⟨.assertions, .debug,
      "Assertion passed: " ++ Decimal.writeNat properties ++ " schema properties, " ++
        Decimal.writeNat names ++ " named schemas"⟩
  | .sectionSatisfied name => ⟨.contracts, .debug, "Contract section satisfied: " ++ name⟩

/-- Whether a check of a level shows a record. -/
def shownAt (level : Level) (record : LogRecord) : Bool :=
  level.severity ≤ record.level.severity

end LogRecord

end RecordSchema.Checker
