import RobotScript.Proofs.Blocks.Offence
import RobotScript.Proofs.Parser.Closing

/-! # The rounds of the loop

    In a well formed state of the parser every open block but the outermost is
    the body of a `REPEAT`: its range ends at an `END REPEAT`, and the tokens
    still to be read in it are balanced.  The depth of the next token is the
    number of open blocks around it.

    `round_step` lists all that a round can do in such a state, guards
    included, so nothing after it unfolds `step`.  The list has no fault in it:
    a round reads a token inside its block, and the scan ahead always gets a
    range of the program.  A round leads from a well formed state to a well
    formed state, and `run_induction` lifts what rounds keep to whole runs. -/

namespace RobotScript

/-- Does the error say that some block was opened and not closed, or closed and not opened? -/
def ParseError.IsUnbalanced : ParseError → Prop
  | .unterminatedRepeat _ _ => True
  | .unmatchedEndRepeat _ => True
  | .unknownCommand _ _ => False
  | .malformedRepeatCount _ _ => False
  | .nestingTooDeep _ _ _ => False

namespace Parser

/-! ### Well formed states -/

/-- The blocks are nested in one another around the place `pos`. -/
inductive Stacked (tokens : Array Token) : Nat → List Block → Prop where
  /-- The outermost block is the whole program. -/
  | bottom {pos : Nat} {block : Block} (hstop : block.stop = tokens.size)
      (hpos : pos ≤ tokens.size) (hdepth : depthAt tokens pos = 0) : Stacked tokens pos [block]
  /-- Every other block is the body of a `REPEAT`, and its parent goes on behind it. -/
  | inner {pos : Nat} {block parent : Block} {rest : List Block}
      (hbody : TokenKind.IsBody (kindsOf tokens) pos block.stop)
      (hdepth : depthAt tokens pos = rest.length + 1)
      (houter : Stacked tokens (block.stop + 1) (parent :: rest)) :
      Stacked tokens pos (block :: parent :: rest)

/-- The blocks of the state are nested in one another around its next token. -/
def WellFormed (tokens : Array Token) (s : State) : Prop := Stacked tokens s.pos s.blocks

variable {tokens : Array Token} {limit : Option Nat}

/-- The depth of the next token is the number of open blocks around the innermost one. -/
theorem Stacked.depthAt_eq {pos : Nat} {block : Block} {outer : List Block}
    (h : Stacked tokens pos (block :: outer)) : depthAt tokens pos = outer.length := by
  cases h with
  | bottom _ _ hdepth => simpa using hdepth
  | inner _ hdepth _ => simpa using hdepth

/-- The next token stands in the innermost block or right behind it. -/
theorem Stacked.pos_le {pos : Nat} {block : Block} {outer : List Block}
    (h : Stacked tokens pos (block :: outer)) : pos ≤ block.stop := by
  cases h with
  | bottom hstop hpos _ => omega
  | inner hbody _ _ => exact hbody.le

/-- The innermost block ends where the program does or before. -/
theorem Stacked.stop_le {pos : Nat} {block : Block} {outer : List Block}
    (h : Stacked tokens pos (block :: outer)) : block.stop ≤ tokens.size := by
  cases h with
  | bottom hstop _ _ => omega
  | inner hbody _ _ =>
    -- the token behind the block is its terminator
    obtain ⟨hlt, -⟩ := List.getElem?_eq_some_iff.1 hbody.terminator
    rw [length_kindsOf] at hlt
    omega

/-- An action that is added to the innermost block changes nothing about the nesting. -/
theorem Stacked.push {pos : Nat} {block : Block} {outer : List Block}
    (h : Stacked tokens pos (block :: outer)) (action : Action) :
    Stacked tokens pos (block.push action :: outer) := by
  cases h with
  | bottom hstop hpos hdepth => exact .bottom hstop hpos hdepth
  | inner hbody hdepth houter => exact .inner hbody hdepth houter

/-- A token that leaves the depth as it is can be read without a change to the blocks. -/
theorem Stacked.advance {pos : Nat} {block : Block} {outer : List Block}
    (h : Stacked tokens pos (block :: outer)) (hlt : pos < block.stop)
    (hdepth : depthAt tokens (pos + 1) = depthAt tokens pos) :
    Stacked tokens (pos + 1) (block :: outer) := by
  cases h with
  | bottom hstop _ h0 => exact .bottom hstop (by omega) (by omega)
  | inner hbody hd houter => exact .inner (hbody.tail hlt hdepth) (by omega) houter

/-- What is left of the innermost block behind a body inside it. -/
theorem Stacked.behind {pos close : Nat} {block : Block} {outer : List Block}
    (h : Stacked tokens pos (block :: outer))
    (hopen : depthAt tokens (pos + 1) = depthAt tokens pos + 1)
    (hbody : TokenKind.IsBody (kindsOf tokens) (pos + 1) close) (hclose : close < block.stop) :
    Stacked tokens (close + 1) (block :: outer) := by
  -- behind its terminator the inner block has left no trace in the depth
  have hback : depthAt tokens (close + 1) = depthAt tokens pos := by
    have := hbody.depth_succ_stop
    unfold depthAt at hopen ⊢
    omega
  cases h with
  | bottom hstop hpos hdepth => exact .bottom hstop (by omega) (by omega)
  | inner hb hdepth houter =>
    refine .inner ⟨hclose, hb.terminator, ?_, ?_⟩ (by omega) houter
    · intro i hi hi'
      have := hb.above i (by have := hbody.le; omega) hi'
      unfold depthAt at hback
      omega
    · have := hb.level
      unfold depthAt at hback
      omega

/-- The state before the first token is well formed. -/
theorem wellFormed_start (tokens : Array Token) : WellFormed tokens (start tokens) :=
  .bottom rfl (Nat.zero_le _) rfl

/-! ### One round -/

/-- All that a round can do in a well formed state. -/
inductive Round (tokens : Array Token) (limit : Option Nat) : State → Move → Prop where
  /-- The program is at its end. -/
  | finish {block : Block} {pos : Nat} {spans : Array Span} (hpos : pos = block.stop) :
      Round tokens limit ⟨[block], pos, spans⟩ (.halt (.parsed block.body) spans)
  /-- The innermost block is at its end and becomes a repetition. -/
  | close {block parent : Block} {rest : List Block} {pos : Nat} {spans : Array Span}
      (hpos : pos = block.stop) :
      Round tokens limit ⟨block :: parent :: rest, pos, spans⟩
        (.next ⟨parent.push (.repeated block.count block.body) :: rest, pos + 1, spans⟩)
  /-- The token is a command for the robot. -/
  | leaf {block : Block} {outer : List Block} {pos : Nat} {spans : Array Span} {token : Token}
      {action : Action} (hpos : pos < block.stop) (htoken : tokens[pos]? = some token)
      (hleaf : token.kind.leaf? = some action) :
      Round tokens limit ⟨block :: outer, pos, spans⟩
        (.next ⟨block.push action :: outer, pos + 1, spans⟩)
  /-- The token opens a block whose body lies inside the innermost one. -/
  | enter {block : Block} {outer : List Block} {pos close : Nat} {spans : Array Span}
      {token : Token} {count : UInt32} (hpos : pos < block.stop)
      (htoken : tokens[pos]? = some token) (hkind : token.kind = .repeatStart (some count))
      (hroom : ∀ most, limit = some most → outer.length < most)
      (hbody : TokenKind.IsBody (kindsOf tokens) (pos + 1) close) (hclose : close < block.stop) :
      Round tokens limit ⟨block :: outer, pos, spans⟩
        (.next {
          blocks := { actions := #[], stop := close, count } :: block :: outer
          pos := pos + 1
          spans := spans.push { count, position := token.position, first := pos + 1, close } })
  /-- The token is wrong.  A block that is not closed, or closed and not opened, shows only where
      no block is open. -/
  | refuse {blocks : List Block} {pos : Nat} {spans : Array Span} {token : Token}
      {error : ParseError} (htoken : tokens[pos]? = some token)
      (hoffends : Offends (kindsOf tokens) limit pos)
      (herror : error = token.refusal limit (depthAt tokens pos))
      (hdepth : error.IsUnbalanced → depthAt tokens pos = 0) :
      Round tokens limit ⟨blocks, pos, spans⟩ (.halt (.refused error) spans)

/-- In a block that is not the outermost one every block that is opened is closed again. -/
theorem Stacked.outer_eq_nil {pos : Nat} {block : Block} {outer : List Block}
    (h : Stacked tokens pos (block :: outer)) {first : Nat} (hstop : first ≤ block.stop)
    (hopen : depthAt tokens pos < depthAt tokens first)
    (habove : ∀ i, first ≤ i → i ≤ block.stop → depthAt tokens first ≤ depthAt tokens i) :
    outer = [] := by
  cases h with
  | bottom _ _ _ => rfl
  | inner hbody _ _ =>
    -- at the end of the body the depth is down at its first value again
    have hlast := habove block.stop hstop (Nat.le_refl _)
    have hlevel := hbody.level
    unfold depthAt at *
    omega

/-- A round on a `REPEAT` with a count opens a block or refuses the token. -/
theorem round_openBlock {block : Block} {outer : List Block} {pos : Nat} {spans : Array Span}
    {token : Token} {count : UInt32} (hs : Stacked tokens pos (block :: outer))
    (hpos : pos < block.stop) (htoken : tokens[pos]? = some token)
    (hkind : token.kind = .repeatStart (some count)) :
    Round tokens limit ⟨block :: outer, pos, spans⟩
      (openBlock tokens limit token count (block :: outer) block outer.length pos spans) := by
  have hdepth := hs.depthAt_eq
  have hstop := hs.stop_le
  have hk : (kindsOf tokens)[pos]? = some (.repeatStart (some count)) := by
    rw [getElem?_kindsOf, htoken, ← hkind]; rfl
  have hnext : depthAt tokens (pos + 1) = depthAt tokens pos + 1 := by
    rw [depthAt_succ htoken, hkind]; rfl
  unfold openBlock
  split
  · -- as many blocks as are allowed are open
    rename_i most hfilter
    obtain ⟨hlimit, hle⟩ := Option.filter_eq_some_iff.1 hfilter
    have hmost : (most : Int) ≤ depthAt tokens pos := by
      rw [hdepth]
      exact_mod_cast of_decide_eq_true hle
    refine .refuse htoken (.tooDeep hk hlimit hmost) ?_ False.elim
    simp only [Token.refusal, hkind, hlimit, if_pos hmost]
  · rename_i hfilter
    have hroom : ∀ most, limit = some most → outer.length < most := by
      intro most hlimit
      have := Option.filter_eq_none_iff.1 hfilter most hlimit
      simpa using this
    -- the scan gets a range of the program
    rw [if_pos ⟨hpos, hstop⟩]
    have hrange : pos + 1 + (block.stop - (pos + 1)) ≤ tokens.size := by omega
    split
    · -- no token of the innermost block closes the new one
      rename_i hmissing
      -- so no block is open, and what is missing in this range is missing in the whole program
      have habove := le_depthAt_of_closing_eq_missing hrange hmissing
      -- a block that is open would be closed in the range
      have hbottom : outer = [] :=
        hs.outer_eq_nil hpos (by rw [Nat.succ_eq_add_one]; omega) fun i hi hi' =>
          habove i hi (by omega)
      subst hbottom
      cases hs with
      | bottom hsize _ h0 =>
      refine .refuse htoken (.unterminated hk ?_) ?_ fun _ => h0
      · intro hterm
        obtain ⟨j, hj, hj', hlt⟩ := hterm.exists_depth_lt
        rw [length_kindsOf] at hj'
        have := habove j hj (by omega)
        unfold depthAt at this
        omega
      · cases limit with
        | none => simp only [Token.refusal, hkind]
        | some most =>
          have := hroom most rfl
          have hlt : ¬ (most : Int) ≤ depthAt tokens pos := by omega
          simp only [Token.refusal, hkind, if_neg hlt]
    · rename_i hunderflow
      exact absurd hunderflow (closing_ne_underflow hrange)
    · rename_i close hfound
      obtain ⟨hbody, hclose⟩ := isBody_of_closing_eq_found hrange hfound
      exact .enter hpos htoken hkind hroom hbody (by omega)

/-- An `END REPEAT` inside the innermost block stands at depth 0. -/
theorem Stacked.depthAt_eq_zero_of_repeatEnd {pos : Nat} {block : Block} {outer : List Block}
    {token : Token} (h : Stacked tokens pos (block :: outer)) (hpos : pos < block.stop)
    (htoken : tokens[pos]? = some token) (hkind : token.kind = .repeatEnd) :
    depthAt tokens pos = 0 := by
  cases h with
  | bottom _ _ hdepth => exact hdepth
  | inner hbody _ _ =>
    have hlow := hbody.above (pos + 1) (Nat.le_succ pos) hpos
    have hnext : depthAt tokens (pos + 1) = depthAt tokens pos - 1 := by
      rw [depthAt_succ htoken, hkind]; rfl
    unfold depthAt at hnext ⊢
    omega

/-- What a round does in a well formed state. -/
theorem round_step (limit : Option Nat) {s : State} (h : WellFormed tokens s) :
    Round tokens limit s (step tokens limit s) := by
  obtain ⟨blocks, pos, spans⟩ := s
  cases blocks with
  | nil => cases h
  | cons block outer =>
    change Stacked tokens pos (block :: outer) at h
    simp only [step]
    split
    · rename_i hstop
      cases outer with
      | nil => exact .finish hstop
      | cons parent rest =>
        subst hstop
        exact .close rfl
    · -- the next token lies in the innermost block, so there is one
      rename_i hne
      have hpos : pos < block.stop := by have := h.pos_le; omega
      have hsize := h.stop_le
      have htoken : tokens[pos]? = some tokens[pos] := Array.getElem?_eq_getElem (by omega)
      rw [htoken]
      generalize tokens[pos] = token at htoken
      have hk : (kindsOf tokens)[pos]? = some token.kind := by rw [getElem?_kindsOf, htoken]; rfl
      dsimp only
      split
      · rename_i hkind
        exact .leaf hpos htoken (by rw [hkind]; rfl)
      · rename_i hkind
        exact .leaf hpos htoken (by rw [hkind]; rfl)
      · rename_i hkind
        exact .leaf hpos htoken (by rw [hkind]; rfl)
      · rename_i hkind
        exact .refuse htoken (.malformed (hk.trans (by rw [hkind])))
          (by simp only [Token.refusal, hkind]) False.elim
      · rename_i count hkind
        exact round_openBlock h hpos htoken hkind
      · rename_i hkind
        have hzero := h.depthAt_eq_zero_of_repeatEnd hpos htoken hkind
        have hlow : TokenKind.depth (kindsOf tokens) pos ≤ 0 := Int.le_of_eq hzero
        exact .refuse htoken (.unmatched (hk.trans (by rw [hkind])) hlow)
          (by simp only [Token.refusal, hkind]) fun _ => hzero
      · rename_i hkind
        exact .refuse htoken (.unknown (hk.trans (by rw [hkind])))
          (by simp only [Token.refusal, hkind]) False.elim

/-- A round reads one token, or the end of a block. -/
theorem pos_of_round {s s' : State} (hround : Round tokens limit s (.next s')) :
    s'.pos = s.pos + 1 := by
  cases hround with
  | close _ => rfl
  | leaf _ _ _ => rfl
  | enter _ _ _ _ _ _ => rfl

/-- A round leads from a well formed state to a well formed state. -/
theorem wellFormed_of_round {s s' : State} (h : WellFormed tokens s)
    (hround : Round tokens limit s (.next s')) : WellFormed tokens s' := by
  unfold WellFormed at h ⊢
  cases hround with
  | close hpos =>
    -- the parent was well formed behind the block all along
    subst hpos
    cases h with
    | inner hbody _ houter => exact houter.push _
  | leaf hpos htoken hleaf =>
    refine (Stacked.advance h hpos ?_).push _
    rw [depthAt_succ htoken, TokenKind.delta_of_leaf?_eq_some hleaf, Int.add_zero]
  | @enter block outer pos close _ token count hpos htoken hkind hroom hbody hclose =>
    have hdepth : depthAt tokens pos = outer.length := Stacked.depthAt_eq h
    have hnext : depthAt tokens (pos + 1) = depthAt tokens pos + 1 := by
      rw [depthAt_succ htoken, hkind]; rfl
    refine .inner hbody ?_ (Stacked.behind h hnext hbody hclose)
    show depthAt tokens (pos + 1) = outer.length + 1
    omega

/-! ### Runs -/

/-- If every round keeps `P`, and a round from a state with `P` that leaves the loop does so
    with `Q`, then so does a run. -/
theorem run_induction {P : State → Prop} {Q : Outcome → Array Span → Prop}
    (hnext : ∀ s s', P s → step tokens limit s = .next s' → P s')
    (hhalt : ∀ s outcome spans, P s → step tokens limit s = .halt outcome spans → Q outcome spans)
    (s : State) (h : P s) : Q (run tokens limit s).1 (run tokens limit s).2 := by
  fun_induction run tokens limit s with
  | case1 s outcome spans hstep => exact hhalt s outcome spans h hstep
  | case2 s s' hstep _ ih => exact ih (hnext s s' h hstep)

end Parser
end RobotScript
