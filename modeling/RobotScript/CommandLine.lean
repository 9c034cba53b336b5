import RobotScript.Output.Basic
import RobotScript.Text

/-! # The command line

    `robot-cmd [INPUT] [--emit WHAT] [--format FORMAT] [--max-depth N]
    [--config PATH] [--log-level FILTER]`, with `--help` and `--version`.

    Arguments are handled from left to right.  The value of an option is given
    behind `=` or as the next argument, which then must not begin with a dash
    (a lone dash aside); behind `--` every argument is positional.  The value
    of an option in two arguments, and the positional argument, are pending
    until the next option or the end: only then are they checked. -/

namespace RobotScript

/-- What the command line sets. -/
structure Arguments where
  input : Option String
  emit : Option Emit
  format : Option Format
  maxDepth : Option Nat
  config : Option String
  logLevel : Option String
deriving Repr, DecidableEq

/-- Why a command line stops before anything is run. -/
inductive UsageError where
  /-- A value is missing, empty or not one of those allowed. -/
  | invalidValue
  /-- There is no such option, or a second positional argument. -/
  | unknownArgument
  /-- A number is not one. -/
  | valueValidation
  /-- An option is given twice. -/
  | argumentConflict
  /-- A value is given to an option that takes none. -/
  | tooManyValues
  /-- Help is asked for. -/
  | displayHelp
  /-- The version is asked for. -/
  | displayVersion
deriving Repr, DecidableEq

namespace UsageError

/-- Is this no error, but a question? -/
def isInquiry : UsageError → Bool
  | .displayHelp => true
  | .displayVersion => true
  | _ => false

/-- The exit code: zero if information is asked for, else two. -/
def exit (e : UsageError) : UInt32 := if e.isInquiry then 0 else 2

/-- The text of a usage error. -/
def message : UsageError → String
  | .invalidValue => "a value is missing, empty or not one of the possible values"
  | .unknownArgument => "unexpected argument"
  | .valueValidation => "a value is not a number in range"
  | .argumentConflict => "an argument is used more than once"
  | .tooManyValues => "unexpected value for an option"
  | .displayHelp => "help"
  | .displayVersion => "version"

end UsageError

namespace CommandLine

/-- What an argument can set. -/
inductive Parameter where
  | input
  | emit
  | format
  | maxDepth
  | config
  | logLevel
deriving Repr, DecidableEq

/-- The options that take a value. -/
def parameter? : List Char → Option Parameter := fun name =>
  match String.ofList name with
  | "emit" => some .emit
  | "format" => some .format
  | "max-depth" => some .maxDepth
  | "config" => some .config
  | "log-level" => some .logLevel
  | _ => none

/-- The options that only ask for information. -/
def inquiry? : List Char → Option UsageError := fun name =>
  match String.ofList name with
  | "help" => some .displayHelp
  | "version" => some .displayVersion
  | _ => none

/-- The largest nesting limit. -/
def maxLimit : Nat := UInt64.size - 1

/-- A nesting limit: digits, with an optional plus sign. -/
def limit? (value : String) : Option Nat :=
  match value.toList with
  | '+' :: digits => Decimal.readUpTo? maxLimit digits
  | digits => Decimal.readUpTo? maxLimit digits

/-! ### The state between two arguments -/

/-- What is known after some arguments. -/
structure State where
  /-- What has been set and checked. -/
  arguments : Arguments
  /-- The parameter that is to be set next, with its value if that has been given. -/
  pending : Option (Parameter × Option String)
  /-- Is every further argument positional? -/
  trailing : Bool
deriving Repr, DecidableEq

/-- Nothing set yet. -/
def start : State := ⟨⟨none, none, none, none, none, none⟩, none, false⟩

/-- The value of a parameter that is given once. -/
def once {α : Type} (old : Option α) (new : Except UsageError α) : Except UsageError (Option α) :=
  match old with
  | some _ => .error .argumentConflict
  | none => new.map some

/-- A value that has to be there. -/
def present {α : Type} (error : UsageError) : Option α → Except UsageError α
  | some a => .ok a
  | none => .error error

/-- A path, which must not be empty. -/
def path (value : String) : Except UsageError String :=
  if value.isEmpty then .error .invalidValue else .ok value

/-- Set a parameter. -/
def set (a : Arguments) (p : Parameter) (value : String) : Except UsageError Arguments :=
  match p with
  | .input => do return { a with input := ← once a.input (path value) }
  | .emit => do
    return { a with emit := ← once a.emit (present .invalidValue (Emit.ofName? value)) }
  | .format => do
    return { a with format := ← once a.format (present .invalidValue (Format.ofName? value)) }
  | .maxDepth => do
    return { a with maxDepth := ← once a.maxDepth (present .valueValidation (limit? value)) }
  | .config => do return { a with config := ← once a.config (path value) }
  | .logLevel => do return { a with logLevel := ← once a.logLevel (.ok value) }

/-- Set the parameter that is pending, if there is one. -/
def settle (s : State) : Except UsageError State :=
  match s.pending with
  | none => .ok s
  | some (_, none) => .error .invalidValue
  | some (p, some value) => do
    return { s with arguments := ← set s.arguments p value, pending := none }

/-! ### One argument -/

/-- Has a positional argument been given? -/
def hasInput (s : State) : Bool :=
  s.arguments.input.isSome || s.pending.any (·.1 == .input)

/-- Take an argument as the positional one. -/
def positional (s : State) (arg : String) : Except UsageError State :=
  if hasInput s then .error .unknownArgument
  else do
    let s ← settle s
    return { s with pending := some (.input, some arg) }

/-- Take `--name` or `--name=value`. -/
def option (s : State) (name : List Char) (value : Option String) : Except UsageError State :=
  match inquiry? name, parameter? name, value with
  | some _, _, some _ => .error .tooManyValues
  | some inquiry, _, none => do
    let _ ← settle s
    .error inquiry
  | none, none, _ => .error .unknownArgument
  | none, some p, none => do
    let s ← settle s
    return { s with pending := some (p, none) }
  | none, some p, some value => do
    let s ← settle s
    return { s with arguments := ← set s.arguments p value }

/-- Take a cluster of one-letter options; there are only two such options, and neither goes on. -/
def letter (s : State) (c : Char) : Except UsageError State :=
  match c with
  | 'h' => do
    let _ ← settle s
    .error .displayHelp
  | 'V' => do
    let _ ← settle s
    .error .displayVersion
  | _ => .error .unknownArgument

/-- A long option, parted at its first equals sign. -/
def longOption (body : List Char) : List Char × Option String :=
  match body.dropWhile (· != '=') with
  | [] => (body, none)
  | _ :: value => (body.takeWhile (· != '='), some (String.ofList value))

/-- Take an argument as the value of the option before it, or as the positional one. -/
def plain (s : State) (arg : String) : Except UsageError State :=
  match s.pending with
  | some (p, none) => .ok { s with pending := some (p, some arg) }
  | _ => positional s arg

/-- Take the next argument. -/
def step (s : State) (arg : String) : Except UsageError State :=
  if s.trailing then positional s arg
  else
    match arg.toList with
    | ['-', '-'] => .ok { s with trailing := true }
    | '-' :: '-' :: body =>
      let (name, value) := longOption body
      option s name value
    | '-' :: c :: _ => letter s c
    | _ => plain s arg

/-- Read a command line. -/
def parse (args : List String) : Except UsageError Arguments := do
  let s ← args.foldlM step start
  let s ← settle s
  return s.arguments

/-! ### Information -/

/-- The answer to `--version`. -/
def versionText : String := "robot-cmd 0.1.0\n"

/-- How the program is called. -/
def usageText : String := "Usage: robot-cmd [OPTIONS] [INPUT]\n"

/-- The answer to `--help`. -/
def helpText : String :=
  "Parse robot command files and replay them\n\n" ++ usageText ++ "\n" ++
  "Arguments:\n" ++
  "  [INPUT]  Command file to read; stdin is used when omitted\n\n" ++
  "Options:\n" ++
  "      --emit <EMIT>            What to print (trace, counts, program)\n" ++
  "      --format <FORMAT>        Output format (text, json)\n" ++
  "      --max-depth <MAX_DEPTH>  Maximum number of nested REPEAT blocks [default: 1000]\n" ++
  "      --config <CONFIG>        Config file (defaults to ./robot-cmd.toml, then the user config dir)\n" ++
  "      --log-level <LOG_LEVEL>  Log level (trace, debug, info, warn, error)\n" ++
  "  -h, --help                   Print help\n" ++
  "  -V, --version                Print version\n"

/-- What is printed when the command line stops the program. -/
def answer : UsageError → String
  | .displayHelp => helpText
  | .displayVersion => versionText
  | _ => ""

/-- The report about a command line that cannot be used; empty for a question. -/
def complaint (e : UsageError) : String :=
  if e.isInquiry then "" else "error: " ++ e.message ++ "\n\n" ++ usageText

end CommandLine
end RobotScript
