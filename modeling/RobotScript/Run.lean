import RobotScript.Settings

/-! # A whole run

    From the command line to the exit code: the settings are resolved, the
    program is read from its file or from standard input, and it is printed.
    A run is a function of its surroundings, so what it leaves behind is a
    value: an exit code, the text on standard output, the log records that are
    shown, and the report of the error that ended it.

    Two things are left to libraries: to read a settings file, and to decide
    which log records are shown.  Any two functions can take their places. -/

namespace RobotScript

/-- What a run leaves to libraries. -/
structure Libraries where
  /-- What the text of a settings file sets, or what is wrong with it. -/
  readSettings : SettingsReader
  /-- Is a log record shown under some filter texts, each read on top of those in front of it? -/
  shows : List String → Log.Record → Bool

/-- The surroundings a run reads from. -/
structure Host (m : Type → Type) where
  files : FileSystem m
  /-- All of standard input. -/
  stdin : m (Except IoError ByteArray)

/-- What a run leaves behind. -/
structure RunResult where
  exit : UInt32
  /-- The bytes on standard output. -/
  stdout : ByteArray
  /-- The log records that are shown, in order. -/
  log : List Log.Record
  /-- The report of what ended the run before its time; empty if nothing did. -/
  report : String

namespace Run

variable {m : Type → Type} [Monad m]

/-! ### Reading the program -/

/-- The name of the program in messages. -/
def sourceName (s : Settings) : String := s.input.getD "<stdin>"

/-- Put a failure to read into its context. -/
def inContext (context : String) : Except IoError String → Except Failure String
  | .ok text => .ok text
  | .error e => .error (.inContext context (.io e))

/-- The text of the program. -/
def readSource (host : Host m) (s : Settings) : m (Except Failure String) :=
  match s.input with
  | some path => do
    return inContext s!"failed to read {path}" (← host.files.readText path)
  | none => do
    return inContext "failed to read stdin" (textOfBytes (← host.stdin))

/-! ### Printing it -/

/-- Print the program, once its text is known. -/
def print (s : Settings) (source : Except Failure String) : Output Sink :=
  match source with
  | .error failure => ⟨.error failure, [], .empty none false⟩
  | .ok text =>
    Output.process Sink.writer s.emit s.format s.maxDepth (sourceName s) text (.empty none false)

/-! ### The end of a run -/

/-- The exit code of a run.  A line that cannot be padded stops the run on the spot, all other
    failures end it in good order. -/
def exitCode : Except Failure Unit → UInt32
  | .ok _ => 0
  | .error ⟨_, .lineTooWide⟩ => 101
  | .error _ => 1

/-- The report of a run's failure. -/
def report : Except Failure Unit → String
  | .ok _ => ""
  | .error ⟨_, .lineTooWide⟩ => ""
  | .error failure => failure.report

/-- The texts of the log filter of a run: what the environment says, or else warnings, and on top
    of it what the settings say. -/
def filterTexts (env : Environment) (s : Settings) : List String :=
  env.logFilter.getD "warn" :: s.logLevel.toList

/-- The record about the settings file. -/
def settingsLog (s : Settings) : List Log.Record :=
  match s.configFile with
  | none => []
  | some path =>
    [{ level := .debug, target := "robot_cmd", message := s!"loaded config from {path}" }]

/-- What a run with resolved settings leaves behind. -/
def conclude (lib : Libraries) (env : Environment) (s : Settings) (output : Output Sink) :
    RunResult where
  exit := exitCode output.result
  stdout := output.out.kept
  log := (settingsLog s ++ output.log).filter (lib.shows (filterTexts env s))
  report := report output.result

/-- What a run leaves behind whose settings could not be resolved. -/
def refuse (failure : Failure) : RunResult where
  exit := 1
  stdout := .empty
  log := []
  report := failure.report

/-- What a run leaves behind that the command line stops. -/
def stop (e : UsageError) : RunResult where
  exit := e.exit
  stdout := (CommandLine.answer e).toUTF8
  log := []
  report := CommandLine.complaint e

/-! ### All together -/

/-- Run with a command line that has been read. -/
def withArguments (lib : Libraries) (host : Host m) (env : Environment) (args : Arguments) :
    m RunResult := do
  match ← Settings.resolve lib.readSettings host.files env.defaultPaths args with
  | .error failure => return refuse failure
  | .ok settings =>
    let source ← readSource host settings
    return conclude lib env settings (print settings source)

/-- Run with a command line. -/
def start (lib : Libraries) (host : Host m) (env : Environment) (args : List String) :
    m RunResult :=
  match CommandLine.parse args with
  | .error e => return stop e
  | .ok arguments => withArguments lib host env arguments

end Run

end RobotScript
