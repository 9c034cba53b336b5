import RobotScript.Report
import RobotScript.Robot

/-! # Writing

    What can be printed, where it is written to, and the robot that writes its
    calls. -/

namespace RobotScript

/-! ## What is printed, and how -/

/-- What is printed of a program. -/
inductive Emit where
  /-- Every call, in order. -/
  | trace
  /-- The number of calls of each kind. -/
  | counts
  /-- The program itself. -/
  | program
deriving Repr, DecidableEq, Inhabited

/-- The name of what is printed. -/
def Emit.name : Emit → String
  | .trace => "trace"
  | .counts => "counts"
  | .program => "program"

/-- What is printed under a name. -/
def Emit.ofName? : String → Option Emit
  | "trace" => some .trace
  | "counts" => some .counts
  | "program" => some .program
  | _ => none

/-- How it is printed. -/
inductive Format where
  | text
  | json
deriving Repr, DecidableEq, Inhabited

/-- The name of a format. -/
def Format.name : Format → String
  | .text => "text"
  | .json => "json"

/-- The format with a name. -/
def Format.ofName? : String → Option Format
  | "text" => some .text
  | "json" => some .json
  | _ => none

/-! ## Writers

    A writer takes pieces of text and may fail on any of them, and it may fail
    when it is flushed.  What it does is a function on its state; a failed
    operation has a new state, too, since part of a piece may have been
    taken.

    `Sink` is the writer used to see what is written: it keeps up to a given
    number of bytes and fails from then on. -/

/-- A writer with states `σ` and errors `ε`. -/
structure Writer (ε σ : Type) where
  /-- Write all of a piece of text. -/
  write : String → EStateM ε σ Unit
  /-- Hand on what has been written. -/
  flush : EStateM ε σ Unit

/-- Write pieces of text in order, up to the first that fails. -/
def Writer.writeAll {ε σ : Type} (w : Writer ε σ) : List String → EStateM ε σ Unit
  | [] => pure ()
  | piece :: more => do
    w.write piece
    w.writeAll more

/-! ### Sinks -/

/-- A store for bytes with a limit. -/
structure Sink where
  /-- The bytes kept so far. -/
  kept : ByteArray
  /-- How many bytes there is room for; `none` for any number. -/
  limit : Option Nat
  /-- Does flushing fail? -/
  failFlush : Bool

namespace Sink

/-- A sink that holds nothing yet. -/
def empty (limit : Option Nat) (failFlush : Bool) : Sink := ⟨.empty, limit, failFlush⟩

/-- How many of `n` more bytes the sink can take. -/
def room (s : Sink) (n : Nat) : Nat :=
  match s.limit with
  | none => n
  | some limit => min n (limit - s.kept.size)

/-- Keep as much of `piece` as there is room for, and fail unless that is all of it. -/
def write (piece : String) : EStateM IoError Sink Unit := fun s =>
  let bytes := piece.toUTF8
  let taken := s.room bytes.size
  let s' := { s with kept := s.kept ++ bytes.extract 0 taken }
  if taken = bytes.size then .ok () s' else .error .brokenPipe s'

/-- Flushing keeps everything, and may fail. -/
def flush : EStateM IoError Sink Unit := fun s =>
  if s.failFlush then .error .timedOut s else .ok () s

/-- The writer that fills a sink. -/
def writer : Writer IoError Sink := ⟨write, flush⟩

/-- The text kept, if the bytes kept are one. -/
def text? (s : Sink) : Option String := String.fromUTF8? s.kept

end Sink

/-! ## Traces

    A trace is written by a robot that hands every call to a writer as it is
    made: a line for each call, or one JSON array for all of them.  The first
    error of the writer is kept, and from then on nothing more is written. -/

/-- A trace that is being written. -/
structure Trace (ε σ : Type) where
  /-- The state of the writer. -/
  out : σ
  /-- The number of calls written, as a 64-bit word. -/
  calls : UInt64
  /-- The first error of the writer. -/
  error : Option ε

namespace Trace

variable {ε σ : Type}

/-- A trace without calls. -/
def start (out : σ) : Trace ε σ := ⟨out, 0, none⟩

/-- The pieces of text for one call; `first` tells whether it is the first one. -/
def pieces (format : Format) (first : Bool) (c : Call) : List String :=
  match format with
  | .text => [c.name, "\n"]
  | .json => [if first then "[" else ",", "\"", c.name, "\""]

/-- The pieces of text that end a trace of `calls` calls. -/
def endPieces (format : Format) (calls : UInt64) : List String :=
  match format with
  | .text => []
  | .json => if calls = 0 then ["[", "]\n"] else ["]\n"]

/-- Write one call, unless an error is kept. -/
def record (w : Writer ε σ) (format : Format) (c : Call) (t : Trace ε σ) : Trace ε σ :=
  match t with
  | ⟨out, calls, some e⟩ => ⟨out, calls, some e⟩
  | ⟨out, calls, none⟩ =>
    match w.writeAll (pieces format (calls == 0) c) out with
    | .ok _ out => ⟨out, calls + 1, none⟩
    | .error e out => ⟨out, calls, some e⟩

/-- The robot that writes its calls. -/
def robot (w : Writer ε σ) (format : Format) : Robot (Trace ε σ) :=
  .ofPerform (record w format)

/-- End the trace and give the number of its calls; an error that is kept comes first. -/
def finish (w : Writer ε σ) (format : Format) (t : Trace ε σ) : EStateM.Result ε σ UInt64 :=
  match t.error with
  | some e => .error e t.out
  | none =>
    (do
      w.writeAll (endPieces format t.calls)
      w.flush
      pure t.calls : EStateM ε σ UInt64) t.out

end Trace

end RobotScript
