import RobotScript.Action.Basic
import RobotScript.Robot

/-! # Running an action

    An action is run with a stack of pending work instead of by recursion.  An
    entry of the stack is an action still to be run, or the body of a
    repetition together with the number of runs it still has to go.  A body is
    never copied onto the stack: before a run its entry goes back with one run
    less.

    The work an entry stands for is bounded by its weight, and every step
    lowers the weight of the whole stack, so the machine always comes to an
    end. -/

namespace RobotScript

universe u

/-! ### Weights -/

namespace Action

mutual

/-- A bound on the number of steps it takes to run the action. -/
def weight : Action → Nat
  | .sequence as => 1 + weightOfList as
  | .repeated n a => 1 + n.toNat * weight a
  | .moveForward => 1
  | .turnLeft => 1
  | .turnRight => 1

/-- A bound on the number of steps it takes to run a list of actions. -/
def weightOfList : List Action → Nat
  | [] => 0
  | a :: as => weight a + weightOfList as

end

/-- The call that a leaf makes; other actions make none of their own. -/
def call? : Action → Option Call
  | .moveForward => some .moveForward
  | .turnLeft => some .turnLeft
  | .turnRight => some .turnRight
  | .sequence _ => none
  | .repeated _ _ => none

end Action

/-! ### Pending work -/

/-- An entry of the stack. -/
inductive Pending where
  /-- An action that is to be run once. -/
  | once (action : Action)
  /-- A body of a repetition with `remaining` runs still to go. -/
  | again (action : Action) (remaining : UInt32)
deriving Repr

namespace Pending

/-- The action an entry runs next. -/
def action : Pending → Action
  | .once a => a
  | .again a _ => a

/-- What is left of an entry once its next run has begun. -/
def rest : Pending → List Pending
  | .once _ => []
  | .again a n => if 1 < n then [.again a (n - 1)] else []

/-- The work that an action leaves behind when it is run. -/
def unfold : Action → List Pending
  | .sequence as => as.map .once
  | .repeated n a => if 0 < n then [.again a n] else []
  | .moveForward => []
  | .turnLeft => []
  | .turnRight => []

/-- A bound on the number of steps an entry stands for. -/
def weight : Pending → Nat
  | .once a => a.weight
  | .again a n => max 1 n.toNat * a.weight

/-- A bound on the number of steps a stack stands for. -/
def weightOfStack : List Pending → Nat
  | [] => 0
  | p :: stack => p.weight + weightOfStack stack

@[simp] theorem weightOfStack_nil : weightOfStack [] = 0 := rfl

@[simp] theorem weightOfStack_cons (p : Pending) (stack : List Pending) :
    weightOfStack (p :: stack) = p.weight + weightOfStack stack := rfl

@[simp] theorem weightOfStack_append (s t : List Pending) :
    weightOfStack (s ++ t) = weightOfStack s + weightOfStack t := by
  induction s with
  | nil => simp
  | cons p s ih => simp [ih, Nat.add_assoc]

theorem weightOfStack_map_once (as : List Action) :
    weightOfStack (as.map .once) = Action.weightOfList as := by
  induction as with
  | nil => rfl
  | cons a as ih => simp [weight, Action.weightOfList, ih]

/-- Running an action costs one step more than the work it leaves behind. -/
theorem weightOfStack_unfold_lt (a : Action) : weightOfStack (unfold a) < a.weight := by
  cases a with
  | moveForward => decide
  | turnLeft => decide
  | turnRight => decide
  | sequence as => simp [unfold, weightOfStack_map_once, Action.weight]
  | repeated n a =>
    by_cases h : 0 < n
    · -- the entry for the runs of the body weighs as much as all of them
      have : 0 < n.toNat := by simpa [UInt32.lt_iff_toNat_lt] using h
      have hm : max 1 n.toNat = n.toNat := by omega
      simp [unfold, h, Action.weight, weight, hm]
    · simp only [unfold, if_neg h, Action.weight, weightOfStack_nil]
      omega

/-- An entry stands for one run of its action and for what is left of it. -/
theorem weight_eq (p : Pending) : p.weight = p.action.weight + weightOfStack p.rest := by
  cases p with
  | once a => simp [weight, action, rest]
  | again a n =>
    by_cases h : 1 < n
    · -- one run begins and the rest go back onto the stack
      have h1 : 1 < n.toNat := by simpa [UInt32.lt_iff_toNat_lt] using h
      have h2 : (n - 1).toNat = n.toNat - 1 := by
        rw [UInt32.toNat_sub_of_le _ _ (by simp [UInt32.le_iff_toNat_le]; omega)]
        rfl
      obtain ⟨k, hk⟩ : ∃ k, n.toNat = k + 2 := ⟨n.toNat - 2, by omega⟩
      have h3 : max 1 n.toNat = k + 2 := by omega
      have h4 : max 1 (n - 1).toNat = k + 1 := by omega
      simp [weight, action, rest, h, h3, h4]
      rw [show k + 2 = k + 1 + 1 from rfl, Nat.add_mul (k + 1) 1, Nat.one_mul, Nat.add_comm]
    · -- this is the last run, so nothing goes back
      have h1 : ¬ 1 < n.toNat := by simpa [UInt32.lt_iff_toNat_lt] using h
      have h3 : max 1 n.toNat = 1 := by omega
      simp [weight, action, rest, h, h3]

end Pending

/-! ### The machine -/

/-- A state of the machine: the pending work, next entry first, and the robot's state. -/
structure Machine (σ : Type u) where
  stack : List Pending
  state : σ

namespace Machine

variable {σ : Type u}

/-- The machine that is about to run `a` on a robot in state `s`. -/
def start (a : Action) (s : σ) : Machine σ := ⟨[.once a], s⟩

/-- The state after the action of entry `p` has begun to run, with the entries of `stack` below it. -/
def advance (robot : Robot σ) (p : Pending) (stack : List Pending) (s : σ) : Machine σ where
  stack := Pending.unfold p.action ++ (p.rest ++ stack)
  state :=
    match p.action.call? with
    | some c => robot.perform c s
    | none => s

/-- Take the next entry and begin to run its action; nothing is left to do on an empty stack. -/
def step (robot : Robot σ) : Machine σ → Option (Machine σ)
  | ⟨[], _⟩ => none
  | ⟨p :: stack, s⟩ => some (advance robot p stack s)

/-- Every step lowers the weight of the stack. -/
theorem weightOfStack_advance_lt (robot : Robot σ) (p : Pending) (stack : List Pending) (s : σ) :
    Pending.weightOfStack (advance robot p stack s).stack < Pending.weightOfStack (p :: stack) := by
  have := Pending.weightOfStack_unfold_lt p.action
  simp [advance, Pending.weight_eq p]
  omega

/-- Run the machine until no work is left. -/
def run (robot : Robot σ) : Machine σ → σ
  | ⟨[], s⟩ => s
  | ⟨p :: stack, s⟩ => run robot (advance robot p stack s)
termination_by m => Pending.weightOfStack m.stack
decreasing_by exact weightOfStack_advance_lt robot p stack s

end Machine

/-- The robot's state after running the action. -/
def Action.apply {σ : Type u} (robot : Robot σ) (a : Action) (s : σ) : σ :=
  (Machine.start a s).run robot

end RobotScript
