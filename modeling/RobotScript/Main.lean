import RobotScript.Log.Filter
import RobotScript.Run
import RobotScript.Settings.Toml

/-! # The command line program

    Gives a run its arguments, its libraries, its environment and the files of
    the machine, and puts what the run leaves behind on the standard
    streams. -/

namespace RobotScript
namespace Main

/-- The libraries of the program. -/
def libraries : Libraries := ⟨FileSettings.ofToml, Log.Filter.shows⟩

/-- The reason behind a failure of the system. -/
def reason (e : IO.Error) : IoError :=
  match e with
  | .noFileOrDirectory .. => .notFound
  | .noSuchThing .. => .notFound
  | .inappropriateType _ code _ => if code = 20 ∨ -code = 20 then .notDirectory else .isDirectory
  | .permissionDenied .. => .other "Permission denied (os error 13)"
  | .resourceVanished .. => .brokenPipe
  | .timeExpired .. => .timedOut
  | e => .other (toString e)

/-- Run an action and keep its failure. -/
def attempt {α : Type} (action : IO α) : IO (Except IoError α) := do
  try
    return .ok (← action)
  catch e =>
    return .error (reason e)

/-- Is there a regular file at the path? -/
def isFile (path : String) : IO Bool := do
  try
    let resolved ← IO.FS.realPath path
    match (← resolved.metadata).type with
    | .file => return true
    | _ => return false
  catch _ =>
    return false

/-- The files and the standard input of the machine. -/
def host : Host IO where
  files :=
    { isFile := isFile
      read := fun path => attempt (IO.FS.readBinFile path) }
  stdin := attempt do (← IO.getStdin).readBinToEnd

/-- Run with the given arguments and put what the run leaves behind on the standard streams. -/
def run (args : List String) : IO UInt32 := do
  let env : Environment := {
    configDir := userConfigDir? (← IO.getEnv "XDG_CONFIG_HOME") (← IO.getEnv "HOME")
    logFilter := ← IO.getEnv "RUST_LOG" }
  let result ← Run.start libraries host env args
  let stdout ← IO.getStdout
  let stderr ← IO.getStderr
  stdout.write result.stdout
  stdout.flush
  for record in result.log do
    stderr.putStrLn record.line
  stderr.putStr result.report
  return result.exit

end Main
end RobotScript

/-- The program. -/
def main (args : List String) : IO UInt32 :=
  RobotScript.Main.run args
