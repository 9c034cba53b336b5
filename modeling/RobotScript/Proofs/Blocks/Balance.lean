import RobotScript.Token

/-! # Balance of tokens

    Only the kinds of the tokens matter for the blocks they form.  The balance
    of some kinds is the number of blocks they open less the number of blocks
    they close, and the depth of a place is the balance of everything before
    it.

    The body of a block is a range on which the depth never falls below its
    value at the start, with an `END REPEAT` right behind it that does lower
    it.  A `REPEAT` has at most one body (`IsBody.stop_unique`), and it has one
    as soon as some later `END REPEAT` brings the balance back
    (`isTerminated_of_isBody` and `IsTerminated.exists_depth_lt`). -/

namespace RobotScript
namespace TokenKind

/-! ### Balance -/

/-- How a token of this kind changes the number of open blocks. -/
def delta : TokenKind → Int
  | .repeatStart _ => 1
  | .repeatEnd => -1
  | .forward => 0
  | .left => 0
  | .right => 0
  | .unknown => 0

/-- A token that opens a block adds one open block. -/
theorem delta_of_opensBlock {k : TokenKind} (h : k.opensBlock = true) : k.delta = 1 := by
  cases k with
  | repeatStart count => rfl
  | repeatEnd => cases h
  | forward => cases h
  | left => cases h
  | right => cases h
  | unknown => cases h

/-- The number of blocks that are opened less the number of blocks that are closed. -/
def balance (ks : List TokenKind) : Int :=
  ks.countP opensBlock - ks.count .repeatEnd

/-- The balance of everything before the place `i`. -/
def depth (ks : List TokenKind) (i : Nat) : Int := balance (ks.take i)

@[simp] theorem balance_nil : balance [] = 0 := rfl

@[simp] theorem balance_cons (k : TokenKind) (ks : List TokenKind) :
    balance (k :: ks) = k.delta + balance ks := by
  unfold balance
  rw [List.countP_cons, List.count_cons]
  cases k with
  | repeatStart count => simp [opensBlock, delta]; omega
  | repeatEnd => simp [opensBlock, delta]; omega
  | forward => simp [opensBlock, delta]
  | left => simp [opensBlock, delta]
  | right => simp [opensBlock, delta]
  | unknown => simp [opensBlock, delta]

@[simp] theorem balance_append (ks ls : List TokenKind) :
    balance (ks ++ ls) = balance ks + balance ls := by
  induction ks with
  | nil => simp
  | cons k ks ih => rw [List.cons_append, balance_cons, balance_cons, ih, Int.add_assoc]

/-! ### Depth -/

@[simp] theorem depth_zero (ks : List TokenKind) : depth ks 0 = 0 := rfl

/-- A token changes the depth by its delta. -/
theorem depth_succ {ks : List TokenKind} {i : Nat} {k : TokenKind} (h : ks[i]? = some k) :
    depth ks (i + 1) = depth ks i + k.delta := by
  unfold depth
  rw [List.take_add_one, balance_append, h]
  simp

/-- Behind its first token a list is as deep as the rest of it, changed by that token. -/
theorem depth_cons_succ (k : TokenKind) (ks : List TokenKind) (i : Nat) :
    depth (k :: ks) (i + 1) = k.delta + depth ks i := by
  unfold depth
  rw [List.take_succ_cons, balance_cons]

/-- The depth where the second of two parts begins is the balance of the first. -/
theorem depth_length_append (ks ls : List TokenKind) : depth (ks ++ ls) ks.length = balance ks := by
  unfold depth
  rw [List.take_left]

/-- Behind the last token the depth is the balance of all of them. -/
theorem depth_length (ks : List TokenKind) : depth ks ks.length = balance ks := by
  unfold depth
  rw [List.take_length]

/-- The balance of a range is the difference of the depths at its ends. -/
theorem balance_range (ks : List TokenKind) {i j : Nat} (h : i ≤ j) :
    balance ((ks.take j).drop i) = depth ks j - depth ks i := by
  -- what stands before `j` stands before `i` or in the range
  have hsplit : ks.take j = ks.take i ++ (ks.take j).drop i := by
    have htake : (ks.take j).take i = ks.take i := by
      rw [List.take_take, Nat.min_eq_left h]
    rw [← htake, List.take_append_drop]
  have hsum := congrArg balance hsplit
  rw [balance_append] at hsum
  unfold depth
  omega

/-! ### Bodies -/

/-- The tokens from `first` up to `stop` are balanced, and the token at `stop` closes a block. -/
structure IsBody (ks : List TokenKind) (first stop : Nat) : Prop where
  /-- The range may be empty, but it does not run backwards. -/
  le : first ≤ stop
  /-- The token behind the range is an `END REPEAT`. -/
  terminator : ks[stop]? = some .repeatEnd
  /-- No prefix of the range closes more blocks than it opens. -/
  above : ∀ i, first ≤ i → i ≤ stop → depth ks first ≤ depth ks i
  /-- The range closes as many blocks as it opens. -/
  level : depth ks stop = depth ks first

/-- Behind the terminator of a body the depth is one less than in front of the body. -/
theorem IsBody.depth_succ_stop {ks : List TokenKind} {first stop : Nat}
    (h : IsBody ks first stop) : depth ks (stop + 1) = depth ks first - 1 := by
  rw [depth_succ h.terminator, h.level]
  rfl

/-- A body ends where the depth first falls below its value at the start. -/
theorem IsBody.stop_unique {ks : List TokenKind} {first stop stop' : Nat}
    (h : IsBody ks first stop) (h' : IsBody ks first stop') : stop = stop' := by
  have hlow := h.depth_succ_stop
  have hlow' := h'.depth_succ_stop
  -- the body that ends first would end inside the other one, where the depth is not that low
  rcases Nat.lt_trichotomy stop stop' with hlt | heq | hgt
  · have := h'.above (stop + 1) (by have := h.le; omega) hlt
    omega
  · exact heq
  · have := h.above (stop' + 1) (by have := h'.le; omega) hgt
    omega

/-- The body that is left once its first token is read, if that token leaves the depth as it is. -/
theorem IsBody.tail {ks : List TokenKind} {first stop : Nat} (h : IsBody ks first stop)
    (hlt : first < stop) (hdepth : depth ks (first + 1) = depth ks first) :
    IsBody ks (first + 1) stop where
  le := hlt
  terminator := h.terminator
  above := by
    intro i hi hi'
    rw [hdepth]
    exact h.above i (by omega) hi'
  level := by rw [hdepth, h.level]

/-! ### Terminated blocks -/

/-- A counter that starts at 1 behind the token at `i` is brought to 0 by a later `END REPEAT`. -/
def IsTerminated (ks : List TokenKind) (i : Nat) : Prop :=
  ∃ e, i < e ∧ ks[e]? = some .repeatEnd ∧ 1 + balance ((ks.take (e + 1)).drop (i + 1)) = 0

instance (ks : List TokenKind) (i : Nat) : Decidable (IsTerminated ks i) :=
  decidable_of_iff
    (∃ e, e < ks.length ∧
      (i < e ∧ ks[e]? = some .repeatEnd ∧ 1 + balance ((ks.take (e + 1)).drop (i + 1)) = 0))
    ⟨fun ⟨e, _, h⟩ => ⟨e, h⟩, fun ⟨e, h⟩ => ⟨e, (List.getElem?_eq_some_iff.1 h.2.1).1, h⟩⟩

/-- A block whose body ends somewhere is terminated. -/
theorem isTerminated_of_isBody {ks : List TokenKind} {i stop : Nat}
    (h : IsBody ks (i + 1) stop) : IsTerminated ks i := by
  -- behind the terminator the depth is what it was in front of the `REPEAT`
  refine ⟨stop, by have := h.le; omega, h.terminator, ?_⟩
  rw [balance_range ks (by have := h.le; omega), h.depth_succ_stop]
  omega

/-- In a terminated block the depth falls below its value behind the `REPEAT` at some place. -/
theorem IsTerminated.exists_depth_lt {ks : List TokenKind} {i : Nat} (h : IsTerminated ks i) :
    ∃ j, i + 1 ≤ j ∧ j ≤ ks.length ∧ depth ks j < depth ks (i + 1) := by
  obtain ⟨e, hie, hend, hzero⟩ := h
  obtain ⟨hlt, -⟩ := List.getElem?_eq_some_iff.1 hend
  refine ⟨e + 1, by omega, hlt, ?_⟩
  rw [balance_range ks (by omega)] at hzero
  omega

end TokenKind
end RobotScript
