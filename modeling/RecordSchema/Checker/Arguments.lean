import RecordSchema.Checker.Options
import RecordSchema.Text.Integer

/-!
# Command-line arguments

Arguments are sorted into options and operands first, so that an ambiguous option is refused
whatever else there is, and then read from left to right. Options may stand anywhere before a `--`,
may be abbreviated, and take the argument after an equals sign or the next operand.
-/

namespace RecordSchema.Checker

/-- An option that the command line knows. -/
inductive OptionName where
  | help
  | namedSchemas
  | mode
  | logLevel
  | indent
  deriving DecidableEq, Repr

/-- The long spelling of an option. -/
def OptionName.spelling : OptionName → Text
  | help => "--help"
  | namedSchemas => "--named-schemas"
  | mode => "--mode"
  | logLevel => "--log-level"
  | indent => "--indent"

/-- All options. -/
def OptionName.all : List OptionName :=
  [help, namedSchemas, mode, logLevel, indent]

/-- Why arguments are not taken. -/
inductive Refusal where
  /-- The arguments ask for help instead of a check. -/
  | helpWanted
  | ambiguous (argument : Text)
  | missingArgument (option : OptionName)
  | needlessArgument (option : OptionName)
  | badArgument (option : OptionName) (argument : Text)
  | badOperand
  | missingOperand
  | unexpected (arguments : List Text)
  /-- The options have issues of their own. -/
  | invalidOptions (issues : List Issue)
  deriving DecidableEq, Repr

/-- An argument by its role. -/
inductive Word where
  /-- An option, with the argument joined to it if there is one. -/
  | option (name : OptionName) (joined? : Option Text)
  /-- The short option for help, with the letters joined to it. -/
  | shortHelp (joined : List Point)
  | unknownOption (spelling : Text)
  /-- The mark after which nothing is an option. -/
  | endOfOptions
  | operand (s : Text)
  deriving DecidableEq, Repr

namespace Word

/-- Whether a text is a row of digits, with a point before the last ones or without. -/
def isNumeral (cs : List Point) : Bool :=
  match cs.dropWhile Text.isDigit with
  | [] => !cs.isEmpty
  | '.' :: rest => !rest.isEmpty && rest.all Text.isDigit
  | _ => false

/-- A text without one line feed at its end. -/
def dropLineFeed (cs : List Point) : List Point :=
  if cs.getLast? = some (.char '\n') then cs.dropLast else cs

/-- Whether an argument that starts with a dash is an operand: a negative number, or whatever has a
space in it. -/
def isDashedOperand (afterDash : List Point) : Bool :=
  isNumeral (dropLineFeed afterDash) || afterDash.contains (.char ' ')

/-- A long option: what stands before the first equals sign is the spelling or a part of one that no
other option starts with. -/
def long (argument : Text) : Except Refusal Word :=
  let cs := argument.toList
  let spelling := cs.takeWhile (· ≠ .char '=')
  let joined? :=
    match cs.dropWhile (· ≠ .char '=') with
    | _ :: rest => some (Text.ofList rest)
    | [] => none
  match OptionName.all.filter fun name => spelling.isPrefixOf name.spelling.toList with
  | [name] => .ok (.option name joined?)
  | _ :: _ :: _ => .error (.ambiguous argument)
  | [] =>
    .ok (if isDashedOperand (cs.drop 1) then .operand argument else .unknownOption argument)

/-- The role of an argument in front of the end of options. -/
def ofArgument (argument : Text) : Except Refusal Word :=
  match argument.toList with
  | ['-', '-'] => .ok .endOfOptions
  | '-' :: '-' :: _ => long argument
  | '-' :: 'h' :: joined => .ok (.shortHelp joined)
  | ['-'] => .ok (.operand argument)
  | '-' :: rest =>
    .ok (if isDashedOperand rest then .operand argument else .unknownOption argument)
  | _ => .ok (.operand argument)

/-- The roles of all arguments. -/
def ofArguments : List Text → Except Refusal (List Word)
  | [] => .ok []
  | argument :: rest =>
    match ofArgument argument with
    | .ok .endOfOptions => .ok (.endOfOptions :: rest.map .operand)
    | .ok word => (ofArguments rest).map (word :: ·)
    | .error refusal => .error refusal

end Word

/-- What has been read of the arguments so far. -/
structure Arguments where
  /-- The paths of data and schema. -/
  operands : List Text
  unexpected : List Text
  namedSchemas? : Option Text
  mode : Text
  logLevel : Text
  indent : Int
  deriving DecidableEq, Repr

namespace Arguments

/-- The number of operands that a check takes. -/
def operandCount : Nat := 2

/-- What stands when nothing has been read. -/
def start : Arguments where
  operands := []
  unexpected := []
  namedSchemas? := none
  mode := "assert"
  logLevel := "WARNING"
  indent := 2

/-- Takes the argument of an option. -/
def take (read : Arguments) (name : OptionName) (argument : Text) :
    Except Refusal Arguments :=
  match name with
  | .help => .error (.needlessArgument name)
  | .namedSchemas => .ok { read with namedSchemas? := some argument }
  | .mode =>
    if (Mode.ofName? argument).isSome then .ok { read with mode := argument }
    else .error (.badArgument name argument)
  | .logLevel => .ok { read with logLevel := argument }
  | .indent =>
    match Text.wholeInteger? argument.toList with
    | some indent => .ok { read with indent }
    | none => .error (.badArgument name argument)

/-- The outcome of the short option for help and the letters joined to it, which must be short
options themselves as far as they are known. -/
def refuseShortHelp : List Point → Refusal
  | 'h' :: rest => refuseShortHelp rest
  | '=' :: _ => .needlessArgument .help
  | '-' :: _ => .needlessArgument .help
  | _ => .helpWanted

/-- Whether an operand is still to come. -/
def wantsOperand (read : Arguments) : Bool :=
  read.operands.length < operandCount

def putOperand (read : Arguments) (s : Text) : Arguments :=
  { read with operands := read.operands ++ [s] }

def putUnexpected (read : Arguments) (s : Text) : Arguments :=
  { read with unexpected := read.unexpected ++ [s] }

/-- Reads arguments from left to right. The end of options belongs to the operand beside it, and
only beside it another one of its spelling may be an operand. -/
def readWords (read : Arguments) : List Word → Except Refusal Arguments
  | [] => .ok read
  | .option .help none :: _ => .error .helpWanted
  | .option name (some argument) :: rest =>
    match read.take name argument with
    | .ok read => readWords read rest
    | .error refusal => .error refusal
  | .option name none :: .operand argument :: rest =>
    match read.take name argument with
    | .ok read => readWords read rest
    | .error refusal => .error refusal
  | .option name none :: _ => .error (.missingArgument name)
  | .shortHelp joined :: _ => .error (refuseShortHelp joined)
  | .unknownOption spelling :: rest => readWords (read.putUnexpected spelling) rest
  | .endOfOptions :: .operand s :: rest =>
    if read.wantsOperand then readWords (read.putOperand s) rest
    else readWords ((read.putUnexpected "--").putUnexpected s) rest
  | .endOfOptions :: rest => readWords (read.putUnexpected "--") rest
  | .operand s :: .endOfOptions :: rest =>
    if read.wantsOperand then readWords (read.putOperand s) rest
    else readWords ((read.putUnexpected s).putUnexpected "--") rest
  | .operand s :: rest =>
    if read.wantsOperand then
      if s = "--" then .error .badOperand else readWords (read.putOperand s) rest
    else readWords (read.putUnexpected s) rest

/-- The options of a check by its arguments. -/
def options (arguments : List Text) : Except Refusal Options := do
  let read ← readWords start (← Word.ofArguments arguments)
  match read.operands, read.unexpected with
  | [dataPath, schemaPath], [] =>
    (Options.ofFields [
      (.text "mode", .text read.mode),
      (.text "data_path", .text dataPath),
      (.text "schema_path", .text schemaPath),
      (.text "named_schemas_path", Failure.optionalText read.namedSchemas?),
      (.text "log_level", .text read.logLevel),
      (.text "indent", .int read.indent)]).mapError .invalidOptions
  | [_, _], unexpected => throw (.unexpected unexpected)
  | _, _ => throw .missingOperand

end Arguments

end RecordSchema.Checker
