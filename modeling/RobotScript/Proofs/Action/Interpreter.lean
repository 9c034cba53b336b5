import RobotScript.Action.Machine
import RobotScript.Action.Normal
import RobotScript.Robot

/-! # Running an action is making its calls

    The machine that runs actions with a stack of pending work does to a robot
    what the calls of the action do, made one after the other.  The statement
    is about any stack: an entry stands for the calls of its action, as often
    as it has runs to go, and a step makes the first of these calls or moves
    them to the entries it leaves behind.

    The machine always comes to an end: a round lowers the weight of the stack,
    so there are no more rounds than the weight of the action. -/

namespace RobotScript

universe u

namespace Pending

/-- The calls an entry stands for. -/
def calls : Pending → List Call
  | .once a => a.calls
  | .again a n => (List.replicate (max 1 n.toNat) a.calls).flatten

/-- The calls a stack stands for. -/
def callsOfStack (stack : List Pending) : List Call := stack.flatMap calls

@[simp] theorem callsOfStack_nil : callsOfStack [] = [] := rfl

@[simp] theorem callsOfStack_cons (p : Pending) (stack : List Pending) :
    callsOfStack (p :: stack) = p.calls ++ callsOfStack stack := rfl

@[simp] theorem callsOfStack_append (s t : List Pending) :
    callsOfStack (s ++ t) = callsOfStack s ++ callsOfStack t := by
  simp [callsOfStack]

theorem callsOfStack_map_once (as : List Action) :
    callsOfStack (as.map .once) = Action.callsOfList as := by
  induction as with
  | nil => rfl
  | cons a as ih => simp [calls, Action.callsOfList, ih]

/-- An action makes at most one call itself and leaves the others to the work behind it. -/
theorem calls_unfold (a : Action) :
    a.calls = a.call?.toList ++ callsOfStack (unfold a) := by
  cases a with
  | moveForward => rfl
  | turnLeft => rfl
  | turnRight => rfl
  | sequence as =>
    rw [unfold, callsOfStack_map_once]
    rfl
  | repeated n a =>
    by_cases h : 0 < n
    · -- all runs of the body are left to its entry
      have hpos : 0 < n.toNat := by simpa [UInt32.lt_iff_toNat_lt] using h
      have hmax : max 1 n.toNat = n.toNat := by omega
      simp [Action.calls, Action.call?, unfold, h, calls, hmax]
    · have hzero : n.toNat = 0 := by simpa [UInt32.lt_iff_toNat_lt] using h
      simp [Action.calls, Action.call?, unfold, h, hzero]

/-- An entry stands for the calls of one run and for those of what is left of it. -/
theorem calls_eq (p : Pending) : p.calls = p.action.calls ++ callsOfStack p.rest := by
  cases p with
  | once a => simp [calls, action, rest]
  | again a n =>
    by_cases h : 1 < n
    · -- the first of the runs is taken off
      have hlt : 1 < n.toNat := by simpa [UInt32.lt_iff_toNat_lt] using h
      have hpred : (n - 1).toNat = n.toNat - 1 := by
        rw [UInt32.toNat_sub_of_le _ _ (by simp [UInt32.le_iff_toNat_le]; omega)]
        rfl
      have hmax : max 1 n.toNat = max 1 (n - 1).toNat + 1 := by omega
      simp [calls, action, rest, h, hmax, List.replicate_succ]
    · -- this is the last run
      have hle : ¬ 1 < n.toNat := by simpa [UInt32.lt_iff_toNat_lt] using h
      have hmax : max 1 n.toNat = 1 := by omega
      simp [calls, action, rest, h, hmax]

end Pending

namespace Machine

variable {σ : Type u}

/-- A step keeps the calls that are still to be made, apart from the one it makes. -/
theorem performAll_advance (robot : Robot σ) (p : Pending) (stack : List Pending) (s : σ) :
    robot.performAll (Pending.callsOfStack (advance robot p stack s).stack)
        (advance robot p stack s).state =
      robot.performAll (Pending.callsOfStack (p :: stack)) s := by
  rw [Pending.callsOfStack_cons, Pending.calls_eq p, Pending.calls_unfold p.action]
  simp only [advance]
  cases p.action.call? with
  | none => simp
  | some c => simp

/-- Running the machine makes the calls its stack stands for. -/
theorem run_eq_performAll (robot : Robot σ) (m : Machine σ) :
    m.run robot = robot.performAll (Pending.callsOfStack m.stack) m.state := by
  fun_induction Machine.run robot m with
  | case1 s => rfl
  | case2 p stack s ih => rw [ih, performAll_advance]

/-! ### Rounds -/

/-- The machine goes from one state to another in `n` rounds. -/
inductive Rounds (robot : Robot σ) : Nat → Machine σ → Machine σ → Prop where
  /-- No round is made. -/
  | zero (m : Machine σ) : Rounds robot 0 m m
  /-- One round is made, and the others after it. -/
  | succ {n : Nat} {m m' m'' : Machine σ} (hstep : m.step robot = some m')
      (hmore : Rounds robot n m' m'') : Rounds robot (n + 1) m m''

/-- A round lowers the weight of the stack. -/
theorem weightOfStack_lt_of_step {robot : Robot σ} {m m' : Machine σ}
    (h : m.step robot = some m') :
    Pending.weightOfStack m'.stack < Pending.weightOfStack m.stack := by
  obtain ⟨stack, s⟩ := m
  cases stack with
  | nil => cases h
  | cons p stack =>
    cases h
    exact weightOfStack_advance_lt robot p stack s

/-- The weight of the stack pays for all rounds. -/
theorem Rounds.add_weightOfStack_le {robot : Robot σ} {n : Nat} {m m' : Machine σ}
    (h : Rounds robot n m m') :
    n + Pending.weightOfStack m'.stack ≤ Pending.weightOfStack m.stack := by
  induction h with
  | zero m => omega
  | succ hstep _ ih =>
    have hround := weightOfStack_lt_of_step hstep
    omega

/-- Some number of rounds empties the stack, and the robot is then in the state that running
    gives. -/
theorem exists_rounds_run (robot : Robot σ) (m : Machine σ) :
    ∃ n, Rounds robot n m ⟨[], m.run robot⟩ := by
  fun_induction Machine.run robot m with
  | case1 s => exact ⟨0, .zero _⟩
  | case2 p stack s ih =>
    obtain ⟨n, hrounds⟩ := ih
    exact ⟨n + 1, .succ rfl hrounds⟩

end Machine

namespace Action

variable {σ : Type u}

/-- Applying an action makes its calls, in order. -/
theorem apply_eq_performAll (robot : Robot σ) (a : Action) (s : σ) :
    a.apply robot s = robot.performAll a.calls s := by
  rw [Action.apply, Machine.run_eq_performAll]
  simp [Machine.start, Pending.calls]

/-- A normal form has the same effect on every robot. -/
theorem apply_normalize_eq (robot : Robot σ) (a : Action) (s : σ) :
    (normalize a).apply robot s = a.apply robot s := by
  rw [apply_eq_performAll, apply_eq_performAll, calls_normalize]

/-- Running an action on any robot empties the stack after some rounds, no more than the weight of
    the action, and leaves the robot in the state it reaches by making the calls of the action in
    order.  So a recorder holds these calls behind those it held before. -/
theorem apply_makes_calls (robot : Robot σ) (a : Action) (s : σ) :
    (∃ n, n ≤ a.weight ∧
      Machine.Rounds robot n (.start a s) ⟨[], robot.performAll a.calls s⟩) ∧
    a.apply robot s = robot.performAll a.calls s ∧
    ∀ r : Recording, (a.apply recorder r).toList = r.toList ++ a.calls := by
  have hstate := apply_eq_performAll robot a s
  refine ⟨?_, hstate, ?_⟩
  · obtain ⟨n, hrounds⟩ := Machine.exists_rounds_run robot (.start a s)
    have hweight := hrounds.add_weightOfStack_le
    change Machine.Rounds robot n (.start a s) ⟨[], a.apply robot s⟩ at hrounds
    rw [hstate] at hrounds
    -- nothing is left on the stack, and the action was all that was on it
    simp only [Machine.start, Pending.weightOfStack_cons, Pending.weightOfStack_nil,
      Pending.weight] at hweight
    exact ⟨n, by omega, hrounds⟩
  · intro r
    rw [apply_eq_performAll, toList_performAll_recorder]

end Action
end RobotScript
