import RobotScript.Action.Basic
import RobotScript.Proofs.Action.Interpreter
import RobotScript.Robot

/-! # Counting the calls of an action

    How often an action makes a call is a sum over a sequence and a product at
    a repetition (`Action.callCount`), and it is the number of times the call
    occurs among the calls of the action.  The robot that counts adds these
    numbers to its 64-bit counters, so its counters are the counts as long as
    the action makes fewer than 2^64 calls.

    What a robot does never changes what is pending, so two robots that run the
    same action make the same calls in the same rounds
    (`Machine.Rounds.exists_calls`).  With it the counters can be read against a
    recording after every round and not only at the end: none of them ever
    wraps around if the sum of all counters stays in range. -/

namespace RobotScript

/-! ### Counting in a list of calls -/

/-- Every call is one of the three kinds. -/
theorem Call.length_eq_count_add (cs : List Call) :
    cs.length = cs.count .moveForward + cs.count .turnLeft + cs.count .turnRight := by
  induction cs with
  | nil => rfl
  | cons c cs ih =>
    simp only [List.length_cons, List.count_cons, ih]
    cases c with
    | moveForward => simp; omega
    | turnLeft => simp; omega
    | turnRight => simp; omega

theorem Call.count_singleton (c d : Call) : [d].count c = if c = d then 1 else 0 := by
  by_cases h : c = d
  · rw [h, List.count_singleton_self, if_pos rfl]
  · rw [if_neg h, List.count_eq_zero]
    exact fun hmem => h (List.mem_singleton.1 hmem)

/-- The counters add up the calls, up to overflow. -/
theorem performAll_counter (cs : List Call) (n : CallCounts) :
    counter.performAll cs n =
      { forward := n.forward + UInt64.ofNat (cs.count .moveForward)
        left := n.left + UInt64.ofNat (cs.count .turnLeft)
        right := n.right + UInt64.ofNat (cs.count .turnRight) } := by
  induction cs generalizing n with
  | nil => simp
  | cons c cs ih =>
    rw [Robot.performAll_cons, ih, counter, Robot.perform_ofPerform]
    -- counting one call first is counting one call more
    have hnext : ∀ (x : UInt64) (k : Nat), x + 1 + UInt64.ofNat k = x + UInt64.ofNat (k + 1) := by
      intro x k
      rw [UInt64.ofNat_add, UInt64.add_assoc, UInt64.add_comm 1]
      rfl
    cases c with
    | moveForward => simp [CallCounts.add, hnext]
    | turnLeft => simp [CallCounts.add, hnext]
    | turnRight => simp [CallCounts.add, hnext]

namespace Action

/-! ### Counting by recursion on the tree -/

mutual

/-- The count by recursion is the number of times the call occurs among the calls. -/
theorem count_calls (c : Call) : (a : Action) → (calls a).count c = callCount c a
  | .moveForward => Call.count_singleton c .moveForward
  | .turnLeft => Call.count_singleton c .turnLeft
  | .turnRight => Call.count_singleton c .turnRight
  | .sequence as => count_callsOfList c as
  | .repeated n a => by
    rw [calls, callCount, List.count_flatten, List.map_replicate, List.sum_replicate_nat,
      count_calls c a]

theorem count_callsOfList (c : Call) :
    (as : List Action) → (callsOfList as).count c = callCountOfList c as
  | [] => rfl
  | a :: as => by
    rw [callsOfList, callCountOfList, List.count_append, count_calls c a, count_callsOfList c as]

end

/-- How many calls running the action makes. -/
def totalCount (a : Action) : Nat :=
  callCount .moveForward a + callCount .turnLeft a + callCount .turnRight a

theorem length_calls (a : Action) : a.calls.length = a.totalCount := by
  rw [Call.length_eq_count_add, count_calls, count_calls, count_calls]
  rfl

end Action

/-! ### Counting without overflow -/

/-- A sum of words that is in range does not wrap around. -/
theorem toNat_add_of_lt {x y : UInt64} (h : x.toNat + y.toNat < UInt64.size) :
    (x + y).toNat = x.toNat + y.toNat := by
  rw [UInt64.toNat_add]
  exact Nat.mod_eq_of_lt h

theorem toNat_add_ofNat {x : UInt64} {k : Nat} (h : x.toNat + k < UInt64.size) :
    (x + UInt64.ofNat k).toNat = x.toNat + k := by
  have hk : (UInt64.ofNat k).toNat = k := UInt64.toNat_ofNat_of_lt' (by omega)
  rw [toNat_add_of_lt (by rwa [hk]), hk]

namespace CallCounts

/-- The number of calls of all kinds, however large it is. -/
def sum (n : CallCounts) : Nat := n.forward.toNat + n.left.toNat + n.right.toNat

/-- The counters `m` are those of `n` with the calls of `cs` counted on top, and none of them has
    wrapped around. -/
structure CountedUp (n : CallCounts) (cs : List Call) (m : CallCounts) : Prop where
  forward : m.forward.toNat = n.forward.toNat + cs.count .moveForward
  left : m.left.toNat = n.left.toNat + cs.count .turnLeft
  right : m.right.toNat = n.right.toNat + cs.count .turnRight
  total : m.total.toNat = n.total.toNat + cs.length

/-- The total is the sum of the counters if that is in range. -/
theorem toNat_total {n : CallCounts} (h : n.sum < UInt64.size) : n.total.toNat = n.sum := by
  unfold sum at h ⊢
  have hfront : (n.forward + n.left).toNat = n.forward.toNat + n.left.toNat :=
    toNat_add_of_lt (by omega)
  rw [total, toNat_add_of_lt (by rwa [hfront]), hfront]

/-- Calls are counted without overflow as long as the sum of the counters stays in range. -/
theorem countedUp_performAll {n : CallCounts} {cs : List Call}
    (h : n.sum + cs.length < UInt64.size) : n.CountedUp cs (counter.performAll cs n) := by
  have hlength := Call.length_eq_count_add cs
  have hparts : n.sum = n.forward.toNat + n.left.toNat + n.right.toNat := rfl
  have hforward : (counter.performAll cs n).forward.toNat =
      n.forward.toNat + cs.count .moveForward := by
    rw [performAll_counter]
    exact toNat_add_ofNat (by omega)
  have hleft : (counter.performAll cs n).left.toNat = n.left.toNat + cs.count .turnLeft := by
    rw [performAll_counter]
    exact toNat_add_ofNat (by omega)
  have hright : (counter.performAll cs n).right.toNat = n.right.toNat + cs.count .turnRight := by
    rw [performAll_counter]
    exact toNat_add_ofNat (by omega)
  have hsum : (counter.performAll cs n).sum = n.sum + cs.length := by
    unfold sum
    omega
  refine ⟨hforward, hleft, hright, ?_⟩
  rw [toNat_total (by rwa [hsum]), hsum, toNat_total (by omega)]

end CallCounts

/-! ### Two robots that run the same action -/

namespace Machine

universe u v

variable {σ : Type u} {τ : Type v}

/-- A round makes at most one call, and every other robot makes it in the same round. -/
theorem exists_calls_of_step {robot : Robot σ} {m m' : Machine σ} (h : m.step robot = some m') :
    ∃ cs, Pending.callsOfStack m.stack = cs ++ Pending.callsOfStack m'.stack ∧
      m'.state = robot.performAll cs m.state ∧
      ∀ (other : Robot τ) (t : τ),
        (⟨m.stack, t⟩ : Machine τ).step other = some ⟨m'.stack, other.performAll cs t⟩ := by
  obtain ⟨stack, s⟩ := m
  cases stack with
  | nil => cases h
  | cons p stack =>
    cases h
    refine ⟨p.action.call?.toList, ?_, ?_, fun other t => ?_⟩
    · simp only [advance, Pending.callsOfStack_cons, Pending.callsOfStack_append]
      rw [Pending.calls_eq p, Pending.calls_unfold p.action, List.append_assoc, List.append_assoc]
    · cases hcall : p.action.call? with
      | none => simp [advance, hcall]
      | some c => simp [advance, hcall]
    · cases hcall : p.action.call? with
      | none => simp [step, advance, hcall]
      | some c => simp [step, advance, hcall]

/-- Some rounds make the first of the pending calls, and every other robot makes them in the same
    rounds. -/
theorem Rounds.exists_calls {robot : Robot σ} {n : Nat} {m m' : Machine σ}
    (h : Rounds robot n m m') :
    ∃ cs, Pending.callsOfStack m.stack = cs ++ Pending.callsOfStack m'.stack ∧
      m'.state = robot.performAll cs m.state ∧
      ∀ (other : Robot τ) (t : τ),
        Rounds other n ⟨m.stack, t⟩ ⟨m'.stack, other.performAll cs t⟩ := by
  induction h with
  | zero m => exact ⟨[], rfl, rfl, fun other t => .zero _⟩
  | succ hstep _ ih =>
    obtain ⟨first, hfirst, hstate, hother⟩ := exists_calls_of_step (τ := τ) hstep
    obtain ⟨more, hmore, hstate', hothers⟩ := ih
    refine ⟨first ++ more, ?_, ?_, fun other t => ?_⟩
    · rw [hfirst, hmore, List.append_assoc]
    · rw [hstate', hstate, Robot.performAll_append]
    · rw [Robot.performAll_append]
      exact .succ (hother other t) (hothers other _)

end Machine

namespace Action

/-- A recorder that starts afresh records the calls of the action. -/
theorem toList_apply_recorder (a : Action) : (a.apply recorder #[]).toList = a.calls := by
  rw [apply_eq_performAll, toList_performAll_recorder, List.nil_append]

/-- Running an action on the counter adds how often the action makes each call, as long as all
    counters together stay in range.  A recorder that runs the action holds each call that often,
    and the total grows by the number of calls it holds.  The two are in step: after any number of
    rounds the counters say how often each call has been recorded so far, so none of them wraps
    around on the way. -/
theorem apply_counter_counts_recording (a : Action) (n : CallCounts)
    (hrange : (n.forward.toNat + callCount .moveForward a) +
      (n.left.toNat + callCount .turnLeft a) + (n.right.toNat + callCount .turnRight a) <
        UInt64.size) :
    let counted := a.apply counter n
    let recording := a.apply recorder #[]
    (counted.forward.toNat = n.forward.toNat + callCount .moveForward a ∧
      counted.left.toNat = n.left.toNat + callCount .turnLeft a ∧
      counted.right.toNat = n.right.toNat + callCount .turnRight a) ∧
    (∀ c, recording.toList.count c = callCount c a) ∧
    counted.total.toNat = n.total.toNat + recording.size ∧
    ∀ rounds m, Machine.Rounds counter rounds (.start a n) m →
      ∃ r : Recording, Machine.Rounds recorder rounds (.start a #[]) ⟨m.stack, r⟩ ∧
        n.CountedUp r.toList m.state := by
  intro counted recording
  have hrecording : recording.toList = a.calls := toList_apply_recorder a
  have hsum : n.sum + a.calls.length < UInt64.size := by
    rw [length_calls]
    unfold CallCounts.sum totalCount
    omega
  have hcounted : n.CountedUp a.calls counted := by
    change n.CountedUp a.calls (a.apply counter n)
    rw [apply_eq_performAll]
    exact CallCounts.countedUp_performAll hsum
  refine ⟨?_, fun c => ?_, ?_, fun rounds m hrounds => ?_⟩
  · rw [← count_calls, ← count_calls, ← count_calls]
    exact ⟨hcounted.forward, hcounted.left, hcounted.right⟩
  · rw [hrecording, count_calls]
  · rw [← Array.length_toList, hrecording]
    exact hcounted.total
  · obtain ⟨cs, hcalls, hstate, hothers⟩ := hrounds.exists_calls
    refine ⟨recorder.performAll cs #[], hothers recorder #[], ?_⟩
    rw [toList_performAll_recorder, hstate]
    -- the calls made so far are some of those that the action makes
    refine CallCounts.countedUp_performAll ?_
    have hstart : Pending.callsOfStack (Machine.start a n).stack = a.calls := by
      simp [Machine.start, Pending.calls]
    rw [hstart] at hcalls
    have hlength := congrArg List.length hcalls
    rw [List.length_append] at hlength
    change n.sum + _ < _
    simp
    omega

/-- Two repetitions inside one another that fill up a counter to the last call. -/
theorem apply_counter_counts_recording_full :
    let a : Action :=
      .repeated 3 (.sequence [.repeated 0 .moveForward, .repeated 4294967295 .turnLeft])
    let n : CallCounts := ⟨0, 18446744060824649730, 0⟩
    (n.forward.toNat + callCount .moveForward a) + (n.left.toNat + callCount .turnLeft a) +
      (n.right.toNat + callCount .turnRight a) < UInt64.size ∧
    (a.apply counter n).left.toNat = 18446744073709551615 ∧
    (a.apply counter n).total.toNat = n.total.toNat + (a.apply recorder #[]).size := by
  intro a n
  have hrange : (n.forward.toNat + callCount .moveForward a) +
      (n.left.toNat + callCount .turnLeft a) + (n.right.toNat + callCount .turnRight a) <
        UInt64.size := by
    decide +kernel
  obtain ⟨⟨-, hleft, -⟩, -, htotal, -⟩ := apply_counter_counts_recording a n hrange
  have hcount : n.left.toNat + callCount .turnLeft a = 18446744073709551615 := by decide +kernel
  exact ⟨hrange, hleft.trans hcount, htotal⟩

end Action
end RobotScript
