import RobotScript.Robot

/-! # Actions

    The trees that programs are read as, and what they mean: the calls that an
    action makes, and how often it makes each of them. -/

namespace RobotScript

/-! ## Action trees

    What a program tells a robot to do.  The leaves are the three basic moves;
    a sequence runs its parts in order, and a repetition runs its body a fixed
    number of times.  Counts are 32-bit words, as the command language has
    them. -/

/-- A node of an action tree. -/
inductive Action where
  /-- Move one field ahead. -/
  | moveForward
  /-- Turn left on the spot. -/
  | turnLeft
  /-- Turn right on the spot. -/
  | turnRight
  /-- Run the actions in order; the empty sequence does nothing. -/
  | sequence (actions : List Action)
  /-- Run the body `count` times. -/
  | repeated (count : UInt32) (body : Action)
deriving Repr

namespace Action

/-- The action that does nothing, which is what an empty program means. -/
def idle : Action := sequence []

instance : Inhabited Action := ⟨idle⟩

/-! ### Equality -/

mutual

/-- Equality of two trees. -/
def decEq : (a b : Action) → Decidable (a = b)
  | .moveForward, .moveForward => isTrue rfl
  | .turnLeft, .turnLeft => isTrue rfl
  | .turnRight, .turnRight => isTrue rfl
  | .sequence as, .sequence bs =>
    match decEqList as bs with
    | isTrue h => isTrue (by rw [h])
    | isFalse h => isFalse (by intro e; cases e; exact h rfl)
  | .repeated m a, .repeated n b =>
    if hc : m = n then
      match decEq a b with
      | isTrue h => isTrue (by rw [hc, h])
      | isFalse h => isFalse (by intro e; cases e; exact h rfl)
    else isFalse (by intro e; cases e; exact hc rfl)
  | .moveForward, .turnLeft => isFalse nofun
  | .moveForward, .turnRight => isFalse nofun
  | .moveForward, .sequence _ => isFalse nofun
  | .moveForward, .repeated _ _ => isFalse nofun
  | .turnLeft, .moveForward => isFalse nofun
  | .turnLeft, .turnRight => isFalse nofun
  | .turnLeft, .sequence _ => isFalse nofun
  | .turnLeft, .repeated _ _ => isFalse nofun
  | .turnRight, .moveForward => isFalse nofun
  | .turnRight, .turnLeft => isFalse nofun
  | .turnRight, .sequence _ => isFalse nofun
  | .turnRight, .repeated _ _ => isFalse nofun
  | .sequence _, .moveForward => isFalse nofun
  | .sequence _, .turnLeft => isFalse nofun
  | .sequence _, .turnRight => isFalse nofun
  | .sequence _, .repeated _ _ => isFalse nofun
  | .repeated _ _, .moveForward => isFalse nofun
  | .repeated _ _, .turnLeft => isFalse nofun
  | .repeated _ _, .turnRight => isFalse nofun
  | .repeated _ _, .sequence _ => isFalse nofun

/-- Equality of two lists of trees. -/
def decEqList : (as bs : List Action) → Decidable (as = bs)
  | [], [] => isTrue rfl
  | a :: as, b :: bs =>
    match decEq a b with
    | isTrue h =>
      match decEqList as bs with
      | isTrue hs => isTrue (by rw [h, hs])
      | isFalse hs => isFalse (by intro e; cases e; exact hs rfl)
    | isFalse h => isFalse (by intro e; cases e; exact h rfl)
  | [], _ :: _ => isFalse nofun
  | _ :: _, [] => isFalse nofun

end

instance : DecidableEq Action := decEq

end Action

/-! ## The meaning of an action

    The calls an action stands for, and how often each of them occurs, both by
    recursion on the tree. -/

namespace Action

mutual

/-- The calls that running the action makes, in order. -/
def calls : Action → List Call
  | .moveForward => [.moveForward]
  | .turnLeft => [.turnLeft]
  | .turnRight => [.turnRight]
  | .sequence as => callsOfList as
  | .repeated n a => (List.replicate n.toNat (calls a)).flatten

/-- The calls of a list of actions run one after the other. -/
def callsOfList : List Action → List Call
  | [] => []
  | a :: as => calls a ++ callsOfList as

end

mutual

/-- How often running the action makes the call `c`. -/
def callCount (c : Call) : Action → Nat
  | .moveForward => if c = .moveForward then 1 else 0
  | .turnLeft => if c = .turnLeft then 1 else 0
  | .turnRight => if c = .turnRight then 1 else 0
  | .sequence as => callCountOfList c as
  | .repeated n a => n.toNat * callCount c a

/-- How often running a list of actions makes the call `c`. -/
def callCountOfList (c : Call) : List Action → Nat
  | [] => 0
  | a :: as => callCount c a + callCountOfList c as

end

end Action

end RobotScript
