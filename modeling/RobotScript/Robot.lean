/-! # Robots and their calls

    What a robot is, and two robots that keep an account of their calls: one
    records them, the other one counts them. -/

namespace RobotScript

/-! ## Robots

    A robot is anything that can perform the three basic moves.  Nothing is
    assumed about its state: performing a move is a function from states to
    states. -/

universe u

/-- One move a robot is told to make. -/
inductive Call where
  | moveForward
  | turnLeft
  | turnRight
deriving Repr, DecidableEq, Inhabited

/-- The name under which a call is written out. -/
def Call.name : Call → String
  | .moveForward => "move_forward"
  | .turnLeft => "turn_left"
  | .turnRight => "turn_right"

/-- A robot whose states have type `σ`. -/
structure Robot (σ : Type u) where
  moveForward : σ → σ
  turnLeft : σ → σ
  turnRight : σ → σ

namespace Robot

variable {σ : Type u}

/-- The state after one call. -/
def perform (robot : Robot σ) : Call → σ → σ
  | .moveForward => robot.moveForward
  | .turnLeft => robot.turnLeft
  | .turnRight => robot.turnRight

/-- The state after a list of calls, made in order. -/
def performAll (robot : Robot σ) (calls : List Call) (s : σ) : σ :=
  calls.foldl (fun s c => robot.perform c s) s

/-- The robot that treats all calls alike, given what it does on each. -/
def ofPerform (f : Call → σ → σ) : Robot σ where
  moveForward := f .moveForward
  turnLeft := f .turnLeft
  turnRight := f .turnRight

@[simp] theorem perform_ofPerform (f : Call → σ → σ) (c : Call) : (ofPerform f).perform c = f c := by
  cases c <;> rfl

@[simp] theorem performAll_nil (robot : Robot σ) (s : σ) : robot.performAll [] s = s := rfl

@[simp] theorem performAll_cons (robot : Robot σ) (c : Call) (cs : List Call) (s : σ) :
    robot.performAll (c :: cs) s = robot.performAll cs (robot.perform c s) := rfl

@[simp] theorem performAll_append (robot : Robot σ) (cs ds : List Call) (s : σ) :
    robot.performAll (cs ++ ds) s = robot.performAll ds (robot.performAll cs s) := by
  simp [performAll]

end Robot

/-! ## The recorder

    A robot that keeps every call it is told to make, in order. -/

/-- The calls recorded so far, oldest first. -/
abbrev Recording := Array Call

/-- The robot that records its calls. -/
def recorder : Robot Recording :=
  .ofPerform fun c calls => calls.push c

@[simp] theorem perform_recorder (c : Call) (r : Recording) : recorder.perform c r = r.push c := by
  simp [recorder]

/-- The recorder adds the calls it is told to make behind those it holds. -/
theorem toList_performAll_recorder (cs : List Call) (r : Recording) :
    (recorder.performAll cs r).toList = r.toList ++ cs := by
  induction cs generalizing r with
  | nil => simp
  | cons c cs ih => simp [ih]

/-- A list of calls as a compact JSON array of their names. -/
def Call.jsonList (calls : List Call) : String :=
  "[" ++ ",".intercalate (calls.map fun c => "\"" ++ c.name ++ "\"") ++ "]"

/-! ## The counter

    A robot that only counts its calls.  The counters are 64-bit words, and
    they wrap around when they overflow. -/

/-- How often each call was made. -/
structure CallCounts where
  forward : UInt64
  left : UInt64
  right : UInt64
deriving Repr, DecidableEq, Inhabited

namespace CallCounts

/-- No call made yet. -/
def zero : CallCounts := ⟨0, 0, 0⟩

/-- The number of calls of all kinds. -/
def total (n : CallCounts) : UInt64 := n.forward + n.left + n.right

/-- Count one call. -/
def add (n : CallCounts) : Call → CallCounts
  | .moveForward => { n with forward := n.forward + 1 }
  | .turnLeft => { n with left := n.left + 1 }
  | .turnRight => { n with right := n.right + 1 }

end CallCounts

/-- The robot that counts its calls. -/
def counter : Robot CallCounts :=
  .ofPerform fun c n => n.add c

end RobotScript
