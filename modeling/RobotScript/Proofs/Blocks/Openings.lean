import Mathlib.Data.List.Forall2
import RobotScript.Proofs.Blocks.Offence
import RobotScript.Proofs.Blocks.Written

/-! # Where blocks are opened

    The tokens of a list that open blocks, and the bodies behind them.  Two
    bodies lie one inside the other or apart (`IsBody.apart_or_inside`).

    The tokens that write an action open a block for each of its repetitions,
    in the order of the tree, and the body behind each of them writes the body
    of that repetition (`repetitions_written`). -/

namespace RobotScript
namespace TokenKind

variable {ks ls : List TokenKind}

/-! ### Openings -/

/-- The places of the tokens that open blocks, from left to right. -/
def openings (ks : List TokenKind) : List Nat := ks.findIdxs opensBlock

/-- One token more at the end is one place more, if it opens a block. -/
theorem openings_take_succ {i : Nat} {k : TokenKind} (h : ks[i]? = some k) :
    openings (ks.take (i + 1)) =
      openings (ks.take i) ++ if k.opensBlock = true then [i] else [] := by
  obtain ⟨hlt, -⟩ := List.getElem?_eq_some_iff.1 h
  have hlength : (ks.take i).length = i := by rw [List.length_take]; omega
  rw [List.take_add_one, h, openings, List.findIdxs_append, hlength, Nat.zero_add]
  by_cases hopens : k.opensBlock = true
  · simp [openings, hopens]
  · simp [openings, hopens]

/-- The body behind a later opening lies behind a body, or it ends inside of it. -/
theorem IsBody.apart_or_inside {first close i close' : Nat} {k : TokenKind}
    (h : IsBody ks first close) (h' : IsBody ks (i + 1) close') (hfirst : first ≤ i)
    (hk : ks[i]? = some k) (hopens : k.opensBlock = true) : close < i ∨ close' < close := by
  by_cases hle : i ≤ close
  · -- the opening lies in the first body, and behind it the depth is higher than at its start
    right
    have hlow := h.above i hfirst hle
    have hnext : depth ks (i + 1) = depth ks i + 1 := by
      rw [depth_succ hk, delta_of_opensBlock hopens]
    have hne : i ≠ close := by
      rintro rfl
      have hkind := h.terminator
      rw [hk, Option.some_inj] at hkind
      subst hkind
      cases hopens
    have hlast := h.depth_succ_stop
    have hlast' := h'.level
    rcases Nat.lt_trichotomy close' close with hlt | heq | hgt
    · exact hlt
    · -- both would end where the depth is that of their starts
      subst heq
      have hlevel := h.level
      omega
    · -- the inner body would go on where the outer one has ended
      have := h'.above (close + 1) (by omega) hgt
      omega
  · left
    omega

/-! ### Tokens that are never below their start -/

/-- Tokens put together fall no lower than the second part does, if the first one does not fall. -/
theorem le_depth_append {m : Int} (hks : ∀ i, 0 ≤ depth ks i) (hls : ∀ i, m ≤ depth ls i)
    (i : Nat) : m ≤ depth (ks ++ ls) i := by
  by_cases hle : i ≤ ks.length
  · rw [depth_append_left ls hle]
    exact Int.le_trans (hls 0) (hks i)
  · obtain ⟨j, rfl⟩ := Nat.exists_eq_add_of_le (Nat.le_of_not_le hle)
    have hbalance := hks ks.length
    have := hls j
    rw [depth_length] at hbalance
    rw [depth_append_right]
    omega

/-- An `END REPEAT` takes away no more than one level. -/
theorem neg_one_le_depth_repeatEnd (i : Nat) : -1 ≤ depth [.repeatEnd] i := by
  cases i with
  | zero => decide
  | succ i => simp [depth, delta]

/-- Balanced tokens in front of an `END REPEAT` are a body. -/
theorem isBody_of_balance (before after : List TokenKind) (hks : ∀ i, 0 ≤ depth ks i)
    (hbalance : balance ks = 0) :
    IsBody (before ++ (ks ++ .repeatEnd :: after)) before.length (before.length + ks.length) := by
  -- in the body the depth is that of its start, with the depth inside of the body on top
  have hdepth : ∀ i, i ≤ ks.length →
      depth (before ++ (ks ++ .repeatEnd :: after)) (before.length + i) =
        balance before + depth ks i := by
    intro i hi
    rw [depth_append_right, depth_append_left _ hi]
  have hfirst := hdepth 0 (Nat.zero_le _)
  rw [Nat.add_zero, depth_zero] at hfirst
  have hlast := hdepth ks.length (Nat.le_refl _)
  rw [depth_length, hbalance] at hlast
  refine ⟨Nat.le_add_right _ _, ?_, ?_, ?_⟩
  · rw [List.getElem?_append_right (Nat.le_add_right _ _), Nat.add_sub_cancel_left,
      List.getElem?_append_right (Nat.le_refl _), Nat.sub_self]
    rfl
  · intro i hi hi'
    obtain ⟨j, rfl⟩ := Nat.exists_eq_add_of_le hi
    have := hks j
    rw [hfirst, hdepth j (by omega)]
    omega
  · rw [hfirst, hlast, Int.add_zero]

end TokenKind

/-! ### The repetitions of an action -/

namespace Action

open TokenKind

mutual

/-- The repetitions in an action, each in front of those in its body. -/
def repetitions : Action → List (UInt32 × Action)
  | .moveForward => []
  | .turnLeft => []
  | .turnRight => []
  | .sequence as => repetitionsOfList as
  | .repeated n a => (n, a) :: repetitions a

/-- The repetitions in some actions, one after the other. -/
def repetitionsOfList : List Action → List (UInt32 × Action)
  | [] => []
  | a :: as => repetitions a ++ repetitionsOfList as

end

mutual

/-- No `END REPEAT` in the tokens of an action closes a block that was opened in front of it. -/
theorem depth_kinds_nonneg : (a : Action) → (i : Nat) → 0 ≤ depth (kinds a) i
  | .moveForward, i => by cases i <;> simp [kinds, depth, delta]
  | .turnLeft, i => by cases i <;> simp [kinds, depth, delta]
  | .turnRight, i => by cases i <;> simp [kinds, depth, delta]
  | .sequence as, i => depth_kindsOfList_nonneg as i
  | .repeated n a, 0 => Int.le_refl 0
  | .repeated n a, i + 1 => by
    have hbody := le_depth_append (depth_kinds_nonneg a) neg_one_le_depth_repeatEnd i
    rw [kinds, depth_cons_succ]
    simp only [delta]
    omega

theorem depth_kindsOfList_nonneg : (as : List Action) → (i : Nat) → 0 ≤ depth (kindsOfList as) i
  | [], i => by simp [kindsOfList, depth]
  | a :: as, i => le_depth_append (depth_kinds_nonneg a) (depth_kindsOfList_nonneg as) i

end

/-- The repetition is the one that is opened at the place `i` of the tokens. -/
structure OpensAt (ks : List TokenKind) (repetition : UInt32 × Action) (i : Nat) : Prop where
  /-- A `REPEAT` with its count stands there. -/
  start : ks[i]? = some (.repeatStart (some repetition.1))
  /-- The tokens of its body stand behind it, and they are the body of the block. -/
  body : IsBody ks (i + 1) (i + 1 + (kinds repetition.2).length)
  kinds : (ks.take (i + 1 + (kinds repetition.2).length)).drop (i + 1) = kinds repetition.2

/-- A repetition is opened where it is written. -/
theorem opensAt_of_written (n : UInt32) (a : Action) (before after : List TokenKind) :
    OpensAt (before ++ (.repeatStart (some n) :: (kinds a ++ .repeatEnd :: after))) (n, a)
      before.length where
  start := by simp
  body := by
    have hbody := isBody_of_balance (before ++ [.repeatStart (some n)]) after
      (depth_kinds_nonneg a) (balance_kinds a)
    simpa using hbody
  kinds := by
    rw [List.append_cons, List.take_append, List.drop_append]
    simp

mutual

/-- The tokens of an action open its repetitions, one after the other. -/
theorem repetitions_written : (a : Action) → (before after : List TokenKind) →
    List.Forall₂ (OpensAt (before ++ (kinds a ++ after))) (repetitions a)
      ((kinds a).findIdxs opensBlock before.length)
  | .moveForward, _, _ => .nil
  | .turnLeft, _, _ => .nil
  | .turnRight, _, _ => .nil
  | .sequence as, before, after => repetitionsOfList_written as before after
  | .repeated n a, before, after => by
    have hbody := repetitions_written a (before ++ [.repeatStart (some n)]) (.repeatEnd :: after)
    have hthis := opensAt_of_written n a before after
    simp only [kinds, List.cons_append, List.append_assoc, List.nil_append, List.length_append,
      List.length_singleton] at hbody ⊢
    -- the `REPEAT` opens the first block, and the `END REPEAT` opens none
    have hopens : (TokenKind.repeatStart (some n)).opensBlock = true := rfl
    have hcloses : ¬ TokenKind.repeatEnd.opensBlock = true := by decide
    rw [List.findIdxs_cons, if_pos hopens, List.findIdxs_append, List.findIdxs_singleton,
      if_neg hcloses, List.append_nil]
    exact .cons hthis hbody

theorem repetitionsOfList_written : (as : List Action) → (before after : List TokenKind) →
    List.Forall₂ (OpensAt (before ++ (kindsOfList as ++ after))) (repetitionsOfList as)
      ((kindsOfList as).findIdxs opensBlock before.length)
  | [], _, _ => .nil
  | a :: as, before, after => by
    have hfirst := repetitions_written a before (kindsOfList as ++ after)
    have hothers := repetitionsOfList_written as (before ++ kinds a) after
    rw [List.append_assoc, List.length_append] at hothers
    rw [kindsOfList, repetitionsOfList, List.findIdxs_append, List.append_assoc]
    exact List.rel_append hfirst hothers

end

/-- The repetitions of an action are opened by its tokens, in order. -/
theorem repetitions_opened (a : Action) :
    List.Forall₂ (OpensAt (kinds a)) (repetitions a) (openings (kinds a)) := by
  have hwritten := repetitions_written a [] []
  rw [List.nil_append, List.append_nil] at hwritten
  exact hwritten

end Action
end RobotScript
