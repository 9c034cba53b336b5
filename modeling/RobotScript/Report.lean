import RobotScript.Token

/-! # What is reported

    Log records, the errors of programs, and the failures that stop a run. -/

namespace RobotScript

/-! ## Log records

    What a run reports about its own work.  Records are values: a computation
    that reports something returns the records beside its result, in order. -/

namespace Log

/-- How important a record is, the most important level first. -/
inductive Level where
  | error
  | warn
  | info
  | debug
  | trace
deriving Repr, DecidableEq, Inhabited

/-- The place of a level in the order of detail; `trace` has the highest. -/
def Level.detail : Level → Nat
  | .error => 1
  | .warn => 2
  | .info => 3
  | .debug => 4
  | .trace => 5

/-- The name of a level as it stands in a log line. -/
def Level.name : Level → String
  | .error => "ERROR"
  | .warn => "WARN"
  | .info => "INFO"
  | .debug => "DEBUG"
  | .trace => "TRACE"

/-- One log record. -/
structure Record where
  level : Level
  /-- The part of the program the record comes from. -/
  target : String
  message : String
deriving Repr, DecidableEq, Inhabited

/-- The log line of a record. -/
def Record.line (r : Record) : String :=
  r.level.name ++ " " ++ r.target ++ ": " ++ r.message

end Log

/-! ## Parse errors

    Why a token list is no program.  Reading stops at the first offending
    token, and the error says where that token stands. -/

/-- The reason why a program is refused. -/
inductive ParseError where
  /-- A word that is no command. -/
  | unknownCommand (token : String) (position : Position)
  /-- A `REPEAT` without a usable count. -/
  | malformedRepeatCount (token : String) (position : Position)
  /-- A `REPEAT` whose block is never closed. -/
  | unterminatedRepeat (token : String) (position : Position)
  /-- An `END REPEAT` that closes no block. -/
  | unmatchedEndRepeat (position : Position)
  /-- A `REPEAT` inside as many open blocks as are allowed. -/
  | nestingTooDeep (token : String) (limit : Nat) (position : Position)
deriving Repr, DecidableEq

namespace ParseError

/-- Where the offending token stands. -/
def position : ParseError → Position
  | .unknownCommand _ p => p
  | .malformedRepeatCount _ p => p
  | .unterminatedRepeat _ p => p
  | .unmatchedEndRepeat p => p
  | .nestingTooDeep _ _ p => p

/-- The text of an error. -/
def message : ParseError → String
  | .unknownCommand token p =>
    s!"unknown command \"{token}\" at {p.line}:{p.column}"
  | .malformedRepeatCount token p =>
    s!"invalid repeat count in \"{token}\" at {p.line}:{p.column} (expected a non-negative integer)"
  | .unterminatedRepeat token p =>
    s!"missing END REPEAT for \"{token}\" at {p.line}:{p.column}"
  | .unmatchedEndRepeat p =>
    s!"END REPEAT at {p.line}:{p.column} has no matching REPEAT"
  | .nestingTooDeep token limit p =>
    s!"\"{token}\" at {p.line}:{p.column} exceeds the maximum nesting depth of {limit}"

end ParseError

/-! ## Failures

    Why a run stops: a cause, and in most cases a context that says what was
    being done.  The texts of failures are made here, but for what the system
    and the reader of settings files have to say. -/

/-- Why reading or writing data failed. -/
inductive IoError where
  /-- The other end takes no more data. -/
  | brokenPipe
  /-- The other end took too long. -/
  | timedOut
  | notFound
  | isDirectory
  | notDirectory
  /-- The data is not UTF-8 text. -/
  | invalidData
  /-- Any other reason, in the words of the system. -/
  | other (message : String)
deriving Repr, DecidableEq, Inhabited

/-- The text of an input or output error. -/
def IoError.message : IoError → String
  | .brokenPipe => "broken pipe"
  | .timedOut => "timed out"
  | .notFound => "No such file or directory (os error 2)"
  | .isDirectory => "Is a directory (os error 21)"
  | .notDirectory => "Not a directory (os error 20)"
  | .invalidData => "stream did not contain valid UTF-8"
  | .other message => message

/-- What a failure goes back to. -/
inductive Cause where
  /-- The program was refused. -/
  | parse (error : ParseError)
  /-- Data could not be read or written. -/
  | io (error : IoError)
  /-- A JSON document could not be written. -/
  | json (error : IoError)
  /-- A settings file was refused, for a reason in the words of its reader. -/
  | settings (message : String)
  /-- A line of command text cannot be padded to its indentation. -/
  | lineTooWide
deriving Repr, DecidableEq

/-- The text of a cause. -/
def Cause.message : Cause → String
  | .parse error => error.message
  | .io error => error.message
  | .json error => error.message
  | .settings message => message
  | .lineTooWide => "a line is indented too far"

/-- A failure of a run. -/
structure Failure where
  /-- What was being done, if the failure says so. -/
  context : Option String
  cause : Cause
deriving Repr, DecidableEq

namespace Failure

/-- A failure that says what was being done. -/
def inContext (context : String) (cause : Cause) : Failure := ⟨some context, cause⟩

/-- A failure that has only its cause. -/
def bare (cause : Cause) : Failure := ⟨none, cause⟩

/-- The outermost text of a failure. -/
def message (f : Failure) : String := f.context.getD f.cause.message

/-- All texts of a failure, outermost first. -/
def chain (f : Failure) : List String := f.context.toList ++ [f.cause.message]

/-- A text with every line after the first indented by four blanks. -/
def indentTail (s : String) : String :=
  String.ofList (s.toList.flatMap fun c => if c = '\n' then "\n    ".toList else [c])

/-- The report of a failure: its outermost text, then what caused it. -/
def report (f : Failure) : String :=
  match f.context with
  | none => "Error: " ++ f.cause.message ++ "\n"
  | some context =>
    "Error: " ++ context ++ "\n\nCaused by:\n    " ++ indentTail f.cause.message ++ "\n"

end Failure

end RobotScript
