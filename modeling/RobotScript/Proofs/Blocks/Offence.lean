import RobotScript.Action.Basic
import RobotScript.Proofs.Blocks.Balance
import RobotScript.Report

/-! # Offences

    Which tokens of a list are wrong, and what more tokens in front of the list
    or behind it change about that. -/

namespace RobotScript

/-! ## Offending tokens

    Which tokens of a list are wrong, said without the loop that reads it: a
    token is judged by its own kind, by the depth it stands at and by the
    tokens behind it.  How the blocks around it were opened does not matter,
    and no other offence does. -/

/-- The action a token of this kind stands for on its own. -/
def TokenKind.leaf? : TokenKind → Option Action
  | .forward => some .moveForward
  | .left => some .turnLeft
  | .right => some .turnRight
  | .repeatStart _ => none
  | .repeatEnd => none
  | .unknown => none

/-- Tokens that stand for an action on their own neither open nor close a block. -/
theorem TokenKind.delta_of_leaf?_eq_some {k : TokenKind} {action : Action}
    (h : k.leaf? = some action) : k.delta = 0 := by
  cases k with
  | forward => rfl
  | left => rfl
  | right => rfl
  | repeatStart count => cases h
  | repeatEnd => cases h
  | unknown => cases h

/-- The token at the place `i` is wrong, if at most `limit` blocks may be open at once. -/
inductive Offends (ks : List TokenKind) (limit : Option Nat) (i : Nat) : Prop where
  /-- It is no command. -/
  | unknown (hkind : ks[i]? = some .unknown)
  /-- It closes a block, but none is open. -/
  | unmatched (hkind : ks[i]? = some .repeatEnd) (hdepth : TokenKind.depth ks i ≤ 0)
  /-- It is a `REPEAT` without a count. -/
  | malformed (hkind : ks[i]? = some (.repeatStart none))
  /-- It is a `REPEAT` with a count, but as many blocks as are allowed are open. -/
  | tooDeep {count : UInt32} {most : Nat} (hkind : ks[i]? = some (.repeatStart (some count)))
      (hlimit : limit = some most) (hdepth : most ≤ TokenKind.depth ks i)
  /-- It is a `REPEAT` with a count, but no later token closes its block. -/
  | unterminated {count : UInt32} (hkind : ks[i]? = some (.repeatStart (some count)))
      (hopen : ¬ TokenKind.IsTerminated ks i)

/-- The token at the place `i` is wrong, and all tokens before it are right. -/
def IsFirstOffence (ks : List TokenKind) (limit : Option Nat) (i : Nat) : Prop :=
  Offends ks limit i ∧ ∀ j, j < i → ¬ Offends ks limit j

/-- The error about an offending token that stands at some depth.  Of the three faults that a
    `REPEAT` can have the count comes first, then the depth, then the missing end. -/
def Token.refusal (token : Token) (limit : Option Nat) (depth : Int) : ParseError :=
  match token.kind, limit with
  | .repeatStart none, _ => .malformedRepeatCount token.text token.position
  | .repeatStart (some _), some most =>
    if most ≤ depth then .nestingTooDeep token.text most token.position
    else .unterminatedRepeat token.text token.position
  | .repeatStart (some _), none => .unterminatedRepeat token.text token.position
  | .repeatEnd, _ => .unmatchedEndRepeat token.position
  | _, _ => .unknownCommand token.text token.position

/-- An offending token is one of the list. -/
theorem Offends.lt_length {ks : List TokenKind} {limit : Option Nat} {i : Nat}
    (h : Offends ks limit i) : i < ks.length := by
  have hsome : ∃ k, ks[i]? = some k := by
    cases h with
    | unknown hkind => exact ⟨_, hkind⟩
    | unmatched hkind _ => exact ⟨_, hkind⟩
    | malformed hkind => exact ⟨_, hkind⟩
    | tooDeep hkind _ _ => exact ⟨_, hkind⟩
    | unterminated hkind _ => exact ⟨_, hkind⟩
  obtain ⟨k, hk⟩ := hsome
  exact (List.getElem?_eq_some_iff.1 hk).1

variable {ks : List TokenKind} {limit : Option Nat} {i : Nat}

/-- A list has at most one first offence. -/
theorem IsFirstOffence.unique {j : Nat} (hi : IsFirstOffence ks limit i)
    (hj : IsFirstOffence ks limit j) : i = j := by
  have hij : i ≤ j := Nat.le_of_not_lt fun hlt => hi.2 j hlt hj.1
  have hji : j ≤ i := Nat.le_of_not_lt fun hlt => hj.2 i hlt hi.1
  exact Nat.le_antisymm hij hji

/-- A command for the robot is never wrong. -/
theorem not_offends_of_leaf {k : TokenKind} {action : Action} (hk : ks[i]? = some k)
    (hleaf : k.leaf? = some action) : ¬ Offends ks limit i := by
  intro h
  have hother : ∀ k', ks[i]? = some k' → k'.leaf? = some action := by
    intro k' hk'
    rw [hk] at hk'
    cases hk'
    exact hleaf
  cases h with
  | unknown hkind => cases hother _ hkind
  | unmatched hkind _ => cases hother _ hkind
  | malformed hkind => cases hother _ hkind
  | tooDeep hkind _ _ => cases hother _ hkind
  | unterminated hkind _ => cases hother _ hkind

/-- An `END REPEAT` is wrong only where no block is open. -/
theorem offends_repeatEnd_iff (hk : ks[i]? = some .repeatEnd) :
    Offends ks limit i ↔ TokenKind.depth ks i ≤ 0 := by
  constructor
  · -- the other offences are those of tokens of other kinds
    intro h
    cases h with
    | unmatched _ hdepth => exact hdepth
    | unknown hkind => rw [hk] at hkind; cases hkind
    | malformed hkind => rw [hk] at hkind; cases hkind
    | tooDeep hkind _ _ => rw [hk] at hkind; cases hkind
    | unterminated hkind _ => rw [hk] at hkind; cases hkind
  · intro hdepth
    exact .unmatched hk hdepth

/-- A `REPEAT` with a count is wrong if it stands too deep or its block is not closed. -/
theorem offends_repeatStart_iff {count : UInt32} (hk : ks[i]? = some (.repeatStart (some count))) :
    Offends ks limit i ↔
      (∃ most ∈ limit, most ≤ TokenKind.depth ks i) ∨ ¬ TokenKind.IsTerminated ks i := by
  constructor
  · intro h
    cases h with
    | tooDeep _ hlimit hdepth => exact .inl ⟨_, hlimit, hdepth⟩
    | unterminated _ hopen => exact .inr hopen
    | unknown hkind => rw [hk] at hkind; cases hkind
    | unmatched hkind _ => rw [hk] at hkind; cases hkind
    | malformed hkind => rw [hk] at hkind; cases hkind
  · rintro (⟨most, hlimit, hdepth⟩ | hopen)
    · exact .tooDeep hk hlimit hdepth
    · exact .unterminated hk hopen

instance (ks : List TokenKind) (limit : Option Nat) (i : Nat) : Decidable (Offends ks limit i) :=
  match hk : ks[i]? with
  | none => isFalse fun h => absurd h.lt_length (Nat.not_lt.2 (List.getElem?_eq_none_iff.1 hk))
  | some .forward => isFalse (not_offends_of_leaf hk rfl)
  | some .left => isFalse (not_offends_of_leaf hk rfl)
  | some .right => isFalse (not_offends_of_leaf hk rfl)
  | some .unknown => isTrue (.unknown hk)
  | some .repeatEnd => decidable_of_iff _ (offends_repeatEnd_iff hk).symm
  | some (.repeatStart none) => isTrue (.malformed hk)
  | some (.repeatStart (some _)) => decidable_of_iff _ (offends_repeatStart_iff hk).symm

instance (ks : List TokenKind) (limit : Option Nat) (i : Nat) :
    Decidable (IsFirstOffence ks limit i) :=
  inferInstanceAs (Decidable (_ ∧ ∀ j, j < i → ¬ Offends ks limit j))

/-! ## Tokens in front of other tokens

    What offends in a list of tokens when more tokens come behind it or in
    front of it.  Tokens behind a list can only close blocks that were open, so
    they take offences away but never add one (`Offends.of_append`), and only a
    `REPEAT` whose block was not closed can be put right by them
    (`Offends.append_or_open`).  Tokens in front of a list do not matter if they
    are balanced (`offends_append_right_iff`). -/

namespace TokenKind

variable {ls : List TokenKind}

/-! ### Depth -/

/-- What comes behind a place does not matter for its depth. -/
theorem depth_append_left (ls : List TokenKind) (h : i ≤ ks.length) :
    depth (ks ++ ls) i = depth ks i := by
  unfold depth
  rw [List.take_append_of_le_length h]

/-- What comes in front of a list is added to its depths. -/
theorem depth_append_right (ks ls : List TokenKind) (i : Nat) :
    depth (ks ++ ls) (ks.length + i) = balance ks + depth ls i := by
  unfold depth
  rw [List.take_length_add_append, balance_append]

/-! ### Terminated blocks -/

/-- A block that is terminated stays so when more tokens come. -/
theorem IsTerminated.append (h : IsTerminated ks i) (ls : List TokenKind) :
    IsTerminated (ks ++ ls) i := by
  obtain ⟨e, hie, hend, hzero⟩ := h
  obtain ⟨hlt, -⟩ := List.getElem?_eq_some_iff.1 hend
  refine ⟨e, hie, by rw [List.getElem?_append_left hlt, hend], ?_⟩
  rw [balance_range _ (by omega)] at hzero ⊢
  rw [depth_append_left ls hlt, depth_append_left ls (by omega)]
  exact hzero

/-- Whether a block is terminated depends on the tokens behind it only. -/
theorem isTerminated_append_right_iff (ks ls : List TokenKind) (i : Nat) :
    IsTerminated (ks ++ ls) (ks.length + i) ↔ IsTerminated ls i := by
  have hrange : ∀ e, i < e →
      balance (((ks ++ ls).take (ks.length + e + 1)).drop (ks.length + i + 1)) =
        balance ((ls.take (e + 1)).drop (i + 1)) := by
    intro e he
    rw [balance_range _ (by omega), balance_range _ (by omega), Nat.add_assoc, Nat.add_assoc,
      depth_append_right, depth_append_right]
    omega
  have hget : ∀ e, (ks ++ ls)[ks.length + e]? = ls[e]? := fun e => by
    rw [List.getElem?_append_right (by omega), Nat.add_sub_cancel_left]
  constructor
  · rintro ⟨e, hie, hend, hzero⟩
    -- the `END REPEAT` lies behind the `REPEAT`, so it is one of the second list
    obtain ⟨e, rfl⟩ := Nat.exists_eq_add_of_le (show ks.length ≤ e by omega)
    rw [hget] at hend
    rw [hrange e (by omega)] at hzero
    exact ⟨e, by omega, hend, hzero⟩
  · rintro ⟨e, hie, hend, hzero⟩
    exact ⟨ks.length + e, by omega, by rw [hget, hend], by rw [hrange e hie, hzero]⟩

end TokenKind

/-! ### Offences -/

open TokenKind

variable {ls : List TokenKind} {j : Nat}

/-- Whether a token offends depends on its kind and its depth, and on whether its block is
    terminated. -/
theorem Offends.congr (h : Offends ks limit i) (hkind : ks[i]? = ls[j]?)
    (hdepth : depth ks i = depth ls j) (hterm : IsTerminated ls j → IsTerminated ks i) :
    Offends ls limit j := by
  cases h with
  | unknown hk => exact .unknown (hkind ▸ hk)
  | unmatched hk hlow => exact .unmatched (hkind ▸ hk) (hdepth ▸ hlow)
  | malformed hk => exact .malformed (hkind ▸ hk)
  | tooDeep hk hlimit hdeep => exact .tooDeep (hkind ▸ hk) hlimit (hdepth ▸ hdeep)
  | unterminated hk hopen => exact .unterminated (hkind ▸ hk) fun hclosed => hopen (hterm hclosed)

/-- Tokens behind a list add no offence to it. -/
theorem Offends.of_append (h : Offends (ks ++ ls) limit i) (hi : i < ks.length) :
    Offends ks limit i :=
  h.congr (List.getElem?_append_left hi) (depth_append_left ls (Nat.le_of_lt hi)) fun hterm =>
    hterm.append ls

/-- Tokens behind a list can put right no other token of it than a `REPEAT` with a count, at a place
    where one more block may be opened. -/
theorem Offends.append_or_open (h : Offends ks limit i) (ls : List TokenKind) :
    Offends (ks ++ ls) limit i ∨
      ∃ count, ks[i]? = some (.repeatStart (some count)) ∧
        ∀ most, limit = some most → depth ks i < most := by
  have hlt := h.lt_length
  have hget : (ks ++ ls)[i]? = ks[i]? := List.getElem?_append_left hlt
  have hdepth : depth (ks ++ ls) i = depth ks i := depth_append_left ls (Nat.le_of_lt hlt)
  cases h with
  | unknown hk => exact .inl (.unknown (hget.trans hk))
  | unmatched hk hlow => exact .inl (.unmatched (hget.trans hk) (hdepth ▸ hlow))
  | malformed hk => exact .inl (.malformed (hget.trans hk))
  | tooDeep hk hlimit hdeep => exact .inl (.tooDeep (hget.trans hk) hlimit (hdepth ▸ hdeep))
  | unterminated hk _ =>
    by_cases hdeep : ∃ most, limit = some most ∧ (most : Int) ≤ depth ks i
    · obtain ⟨most, hlimit, hdeep⟩ := hdeep
      exact .inl (.tooDeep (hget.trans hk) hlimit (hdepth ▸ hdeep))
    · refine .inr ⟨_, hk, fun most hlimit => ?_⟩
      exact Int.not_le.1 fun hle => hdeep ⟨most, hlimit, hle⟩

/-- Balanced tokens in front of a list change nothing about its offences. -/
theorem offends_append_right_iff (hlevel : balance ks = 0) :
    Offends (ks ++ ls) limit (ks.length + i) ↔ Offends ls limit i := by
  have hget : (ks ++ ls)[ks.length + i]? = ls[i]? := by
    rw [List.getElem?_append_right (by omega), Nat.add_sub_cancel_left]
  have hdepth : depth (ks ++ ls) (ks.length + i) = depth ls i := by
    rw [depth_append_right, hlevel, Int.zero_add]
  have hterm := isTerminated_append_right_iff ks ls i
  constructor
  · intro h
    exact h.congr hget hdepth hterm.2
  · intro h
    exact h.congr hget.symm hdepth.symm hterm.1

end RobotScript
