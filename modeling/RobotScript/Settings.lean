import RobotScript.CommandLine
import RobotScript.Files
import RobotScript.Output.Render

/-! # Settings

    Every setting is taken from the command line if it is given there, else
    from the settings file, else it has a fixed default.  There is at most one
    settings file: the one named on the command line, or the first of the
    usual places at which there is a file.  Other places are not looked at.

    How settings are written in a file is left to a reader, which is given. -/

namespace RobotScript

/-! ### Settings files -/

/-- What a settings file sets: the nesting limit, what is printed, the format and the log filter. -/
structure FileSettings where
  maxDepth : Option Nat
  emit : Option Emit
  format : Option Format
  logLevel : Option String
deriving Repr, DecidableEq

/-- A reader of settings files: what the text of a file sets, or what is wrong with it, in the
    reader's words. -/
abbrev SettingsReader := String → Except String FileSettings

namespace FileSettings

/-- The settings of an empty file. -/
def none : FileSettings := ⟨.none, .none, .none, .none⟩

/-- The settings made by what reading the file at `path` comes to. -/
def ofContent (reader : SettingsReader) (path : String) (content : Except IoError String) :
    Except Failure FileSettings :=
  match content with
  | .error e => .error (.inContext s!"failed to read config file {path}" (.io e))
  | .ok text =>
    match reader text with
    | .error message =>
      .error (.inContext s!"failed to parse config file {path}" (.settings message))
    | .ok settings => .ok settings

/-- Load the settings file at `path`. -/
def load {m : Type → Type} [Monad m] (reader : SettingsReader) (files : FileSystem m)
    (path : String) : m (Except Failure FileSettings) := do
  return ofContent reader path (← files.readText path)

end FileSettings

/-! ### Settings of a run -/

/-- What a run needs to know about its surroundings besides files. -/
structure Environment where
  /-- The directory for the user's settings, if there is one. -/
  configDir : Option String
  /-- The log filter to start from, if one is named. -/
  logFilter : Option String
deriving Repr, DecidableEq

/-- The usual places of a settings file, in the order in which they are tried. -/
def Environment.defaultPaths (env : Environment) : List String :=
  "robot-cmd.toml" ::
    (env.configDir.map fun dir => joinPath (joinPath dir "robot-cmd") "config.toml").toList

/-- The settings of a run. -/
structure Settings where
  /-- The file to read; `none` for standard input. -/
  input : Option String
  emit : Emit
  format : Format
  /-- The nesting limit, if one is set. -/
  maxDepth : Option Nat
  /-- The log filter, if one is set. -/
  logLevel : Option String
  /-- The settings file that was loaded. -/
  configFile : Option String
deriving Repr, DecidableEq

namespace Settings

/-- The nesting limit of the run. -/
def limit (s : Settings) : Nat := s.maxDepth.getD Output.defaultMaxDepth

/-- The settings from the command line and a settings file. -/
def merge (args : Arguments) (configFile : Option String) (file : FileSettings) : Settings where
  input := args.input
  emit := (args.emit.or file.emit).getD .trace
  format := (args.format.or file.format).getD .text
  maxDepth := args.maxDepth.or file.maxDepth
  logLevel := args.logLevel.or file.logLevel
  configFile := configFile

variable {m : Type → Type} [Monad m]

/-- The settings file to load, if there is one. -/
def selectFile (files : FileSystem m) (paths : List String) (args : Arguments) :
    m (Option String) :=
  match args.config with
  | some path => pure (some path)
  | none => files.firstFile? paths

/-- The settings that the selected settings file makes. -/
def loadSelected (reader : SettingsReader) (files : FileSystem m) :
    Option String → m (Except Failure FileSettings)
  | none => pure (.ok .none)
  | some path => FileSettings.load reader files path

/-- The settings of a run with the given command line. -/
def resolve (reader : SettingsReader) (files : FileSystem m) (paths : List String)
    (args : Arguments) : m (Except Failure Settings) := do
  let selected ← selectFile files paths args
  return (← loadSelected reader files selected).map (merge args selected)

end Settings

end RobotScript
