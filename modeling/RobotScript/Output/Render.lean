import RobotScript.Action.Machine
import RobotScript.Action.Printing
import RobotScript.Output.Basic
import RobotScript.Program
import RobotScript.Report
import RobotScript.Robot

/-! # Printing a program

    A program is printed as its trace, as its call counts or as itself, each
    as text or as JSON, and in all cases to a writer that may fail. -/

namespace RobotScript

/-- What a computation that writes comes to. -/
structure Output (σ : Type) where
  /-- Whether it succeeded. -/
  result : Except Failure Unit
  /-- What it reported, in order. -/
  log : List Log.Record
  /-- The state of the writer afterwards. -/
  out : σ

namespace Output

variable {σ : Type}

/-- The target under which printing reports. -/
def target : String := "robot_commands::cli"

/-- The nesting limit when none is set. -/
def defaultMaxDepth : Nat := 1000

/-- What a writing computation without reports comes to. -/
def ofWriting (x : EStateM Failure σ Unit) (out : σ) : Output σ :=
  match x out with
  | .ok _ out => ⟨.ok (), [], out⟩
  | .error failure out => ⟨.error failure, [], out⟩

/-! ### Traces -/

/-- Run the program on the robot that writes its calls. -/
def trace (w : Writer IoError σ) (format : Format) (tree : Action) (out : σ) : Output σ :=
  match (tree.apply (Trace.robot w format) (.start out)).finish w format with
  | .ok calls out =>
    { result := .ok ()
      log := [{ level := .debug, target := target, message := s!"traced {calls.toNat} calls" }]
      out }
  | .error e out => ⟨.error (.inContext "failed to write trace" (.io e)), [], out⟩

/-! ### Counts -/

/-- The calls of a program, counted. -/
def countsOf (tree : Action) : CallCounts := tree.apply counter .zero

/-- The lines of call counts. -/
def countLines (n : CallCounts) : List String :=
  [ "move_forward: " ++ n.forward.toNat.repr ++ "\n",
    "turn_left: " ++ n.left.toNat.repr ++ "\n",
    "turn_right: " ++ n.right.toNat.repr ++ "\n",
    "total: " ++ n.total.toNat.repr ++ "\n" ]

/-- Call counts as a JSON object. -/
def countsJson (n : CallCounts) : String :=
  "\x7b\"forward\":" ++ n.forward.toNat.repr ++ ",\"left\":" ++ n.left.toNat.repr ++
    ",\"right\":" ++ n.right.toNat.repr ++ "\x7d"

/-! ### Documents -/

/-- Write pieces of text. -/
def writeText (w : Writer IoError σ) (pieces : List String) : EStateM Failure σ Unit :=
  (w.writeAll pieces).adaptExcept fun e => .bare (.io e)

/-- Write the pieces of a JSON document and end its last line. -/
def writeJson (w : Writer IoError σ) : List JsonPiece → EStateM Failure σ Unit
  | [] => writeText w ["\n"]
  | piece :: more => do
    (w.write piece.text).adaptExcept fun e => .bare (.json e)
    writeJson w more

/-- Write lines of command text, up to the first that cannot be padded. -/
def writeListing (w : Writer IoError σ) : List Line → EStateM Failure σ Unit
  | [] => pure ()
  | line :: more => do
    if line.Fits then writeText w [line.text] else throw (.bare .lineTooWide)
    writeListing w more

/-! ### All together -/

/-- Print a program. -/
def render (w : Writer IoError σ) (emit : Emit) (format : Format) (tree : Action) (out : σ) :
    Output σ :=
  match emit, format with
  | .trace, format => trace w format tree out
  | .counts, .text => ofWriting (writeText w (countLines (countsOf tree))) out
  | .counts, .json => ofWriting (writeJson w [.word (countsJson (countsOf tree))]) out
  | .program, .text => ofWriting (writeListing w tree.listing) out
  | .program, .json => ofWriting (writeJson w tree.json) out

/-- Read a program text called `name` and print the program. -/
def process (w : Writer IoError σ) (emit : Emit) (format : Format) (maxDepth : Option Nat)
    (name text : String) (out : σ) : Output σ :=
  let reading := Program.readText text (some (maxDepth.getD defaultMaxDepth))
  match reading.result with
  | .error e =>
    { result := .error (.inContext s!"failed to parse {name}" (.parse e))
      log := reading.log
      out }
  | .ok tree =>
    let printed := render w emit format tree out
    { printed with
      log := reading.log ++
        { level := .info, target := target, message := s!"parsed {name}" } :: printed.log }

end Output

end RobotScript
