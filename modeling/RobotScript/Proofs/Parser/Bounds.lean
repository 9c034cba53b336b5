import RobotScript.Proofs.Parser.Round

/-! # The loop stays inside the program

    What is true each time the loop is at its head, and what the next round
    may therefore read.  The open blocks enclose the next token, each of them
    ends before the one around it does, and all of them end inside the program
    (`Enclosed`).  So a round that reads a token finds one there, and the scan
    ahead gets a range of the program (`Readable`): it closes no more blocks
    than are open, and it comes back empty-handed only outside of all blocks.

    A round reads one token, so the number of the round is the place of the
    next token (`Rounds.pos_eq`), and the loop is left after no more rounds
    than there are tokens. -/

namespace RobotScript
namespace Parser

variable {tokens : Array Token} {limit : Option Nat}

/-! ### States at the head of the loop -/

/-- The loop is at its head with this state after `n` rounds. -/
inductive Rounds (tokens : Array Token) (limit : Option Nat) : Nat → State → Prop where
  /-- Before the first round. -/
  | zero : Rounds tokens limit 0 (start tokens)
  /-- After one round more. -/
  | succ {n : Nat} {s s' : State} (hrounds : Rounds tokens limit n s)
      (hstep : step tokens limit s = .next s') : Rounds tokens limit (n + 1) s'

/-- The loop never leaves the well formed states. -/
theorem Rounds.wellFormed {n : Nat} {s : State} (h : Rounds tokens limit n s) :
    WellFormed tokens s := by
  induction h with
  | zero => exact wellFormed_start tokens
  | succ _ hstep ih => exact wellFormed_of_round ih (hstep ▸ round_step limit ih)

/-- After `n` rounds the next token is the one with the index `n`. -/
theorem Rounds.pos_eq {n : Nat} {s : State} (h : Rounds tokens limit n s) : s.pos = n := by
  induction h with
  | zero => rfl
  | succ hrounds hstep ih =>
    rw [pos_of_round (hstep ▸ round_step limit hrounds.wellFormed), ih]

/-! ### Blocks -/

/-- How the open blocks, the innermost first, lie around the next token. -/
structure Enclosed (tokens : Array Token) (pos : Nat) (block : Block) (outer : List Block) :
    Prop where
  /-- The next token stands in the innermost block or right behind it. -/
  pos_le : pos ≤ block.stop
  /-- Every block ends before the blocks around it do. -/
  stops : ((block :: outer).map Block.stop).Pairwise (· < ·)
  /-- The outermost block ends where the program does. -/
  last : ((block :: outer).map Block.stop).getLast? = some tokens.size
  /-- All other blocks end at an `END REPEAT`. -/
  terminated : ∀ b ∈ (block :: outer).dropLast, (kindsOf tokens)[b.stop]? = some .repeatEnd
  /-- In a repetition the tokens still to be read close the blocks they open, and no others. -/
  balanced : outer ≠ [] → TokenKind.IsBody (kindsOf tokens) pos block.stop

/-- Each block ends before the blocks around it. -/
theorem Stacked.pairwise_stop {pos : Nat} {blocks : List Block} (h : Stacked tokens pos blocks) :
    (blocks.map Block.stop).Pairwise (· < ·) := by
  induction h with
  | bottom _ _ _ => exact List.pairwise_singleton _ _
  | @inner pos block parent rest _ _ houter ih =>
    rw [List.map_cons, List.pairwise_cons]
    refine ⟨?_, ih⟩
    -- the parent goes on behind the block, and all others end behind the parent
    have hparent : block.stop < parent.stop := houter.pos_le
    intro stop hstop
    rw [List.map_cons, List.mem_cons] at hstop
    rcases hstop with rfl | hstop
    · exact hparent
    · exact Nat.lt_trans hparent (List.rel_of_pairwise_cons ih hstop)

/-- The outermost block is the whole program. -/
theorem Stacked.getLast?_stop {pos : Nat} {blocks : List Block} (h : Stacked tokens pos blocks) :
    (blocks.map Block.stop).getLast? = some tokens.size := by
  induction h with
  | bottom hstop _ _ => rw [← hstop]; rfl
  | inner _ _ _ ih =>
    rw [List.map_cons, List.map_cons, List.getLast?_cons_cons, ← List.map_cons]
    exact ih

/-- Every block but the outermost ends at an `END REPEAT`. -/
theorem Stacked.terminator {pos : Nat} {blocks : List Block} (h : Stacked tokens pos blocks) :
    ∀ b ∈ blocks.dropLast, (kindsOf tokens)[b.stop]? = some .repeatEnd := by
  induction h with
  | bottom _ _ _ => intro b hb; cases hb
  | inner hbody _ _ ih =>
    intro b hb
    rw [List.dropLast_cons_cons, List.mem_cons] at hb
    rcases hb with rfl | hb
    · exact hbody.terminator
    · exact ih b hb

theorem Stacked.enclosed {pos : Nat} {block : Block} {outer : List Block}
    (h : Stacked tokens pos (block :: outer)) : Enclosed tokens pos block outer where
  pos_le := h.pos_le
  stops := h.pairwise_stop
  last := h.getLast?_stop
  terminated := h.terminator
  balanced := by
    intro hopen
    cases h with
    | bottom _ _ _ => exact absurd rfl hopen
    | inner hbody _ _ => exact hbody

/-! ### Tokens -/

/-- A round that reads the token at `pos` in this block reads only what is there. -/
structure Readable (tokens : Array Token) (pos : Nat) (block : Block) (outer : List Block) :
    Prop where
  /-- There is a token to be read. -/
  token : pos < tokens.size
  /-- The rest of the block behind this token may be empty, but it does not run backwards. -/
  first_le : pos + 1 ≤ block.stop
  /-- The block ends inside the program. -/
  stop_le : block.stop ≤ tokens.size
  /-- A scan of these tokens never closes more blocks than are open. -/
  counted : closing tokens (block.stop - (pos + 1)) (pos + 1) 1 ≠ .underflow
  /-- For a `REPEAT` inside of a repetition it finds the `END REPEAT`. -/
  closed : outer ≠ [] → ∀ token, tokens[pos]? = some token → token.kind.opensBlock = true →
    ∃ close, closing tokens (block.stop - (pos + 1)) (pos + 1) 1 = .found close

/-- The scan behind a `REPEAT` inside of a repetition finds the `END REPEAT`. -/
theorem Stacked.exists_closing_eq_found {pos : Nat} {block : Block} {outer : List Block}
    {token : Token} (h : Stacked tokens pos (block :: outer)) (hpos : pos < block.stop)
    (hopen : outer ≠ []) (htoken : tokens[pos]? = some token)
    (hkind : token.kind.opensBlock = true) :
    ∃ close, closing tokens (block.stop - (pos + 1)) (pos + 1) 1 = .found close := by
  have hstop := h.stop_le
  have hrange : pos + 1 + (block.stop - (pos + 1)) ≤ tokens.size := by omega
  cases hscan : closing tokens (block.stop - (pos + 1)) (pos + 1) 1 with
  | found close => exact ⟨close, rfl⟩
  | underflow => exact absurd hscan (closing_ne_underflow hrange)
  | missing =>
    -- the depth would not come down again inside of the block, which is balanced
    have hdelta := TokenKind.delta_of_opensBlock hkind
    have hnext := depthAt_succ htoken
    have habove := le_depthAt_of_closing_eq_missing hrange hscan
    exact absurd
      (h.outer_eq_nil hpos (by rw [Nat.succ_eq_add_one]; omega) fun i hi hi' =>
        habove i hi (by omega))
      hopen

theorem Stacked.readable {pos : Nat} {block : Block} {outer : List Block}
    (h : Stacked tokens pos (block :: outer)) (hne : pos ≠ block.stop) :
    Readable tokens pos block outer := by
  have hpos : pos < block.stop := by have := h.pos_le; omega
  have hstop := h.stop_le
  exact {
    token := by omega
    first_le := hpos
    stop_le := hstop
    counted := closing_ne_underflow (by omega)
    closed := fun hopen _ htoken hkind => h.exists_closing_eq_found hpos hopen htoken hkind }

/-! ### Rounds and runs -/

/-- No round leaves the data of the loop. -/
theorem step_ne_fault {s : State} (h : WellFormed tokens s) (fault : Fault) (spans : Array Span) :
    step tokens limit s ≠ .halt (.fault fault) spans := by
  intro hstep
  have hround := hstep ▸ round_step limit h
  cases hround

/-- From every state that it reaches the loop is left after some more rounds. -/
theorem exists_rounds_halt {n : Nat} {s : State} (h : Rounds tokens limit n s) :
    ∃ m s' outcome spans, Rounds tokens limit m s' ∧
      step tokens limit s' = .halt outcome spans ∧ run tokens limit s = (outcome, spans) := by
  fun_induction run tokens limit s generalizing n with
  | case1 s outcome spans hstep => exact ⟨n, s, outcome, spans, h, hstep, rfl⟩
  | case2 s s' hstep _ ih => exact ih (h.succ hstep)

/-- Whenever the loop is at its head, a block is open, the open blocks enclose the next token, and
    a round that reads this token reads only what is there: it does not leave the data, and it goes
    on further behind if it goes on at all.  The loop is left after no more rounds than there are
    tokens, with the outcome of the run. -/
theorem loop_stays_inside (tokens : Array Token) (limit : Option Nat) :
    (∀ n s, Rounds tokens limit n s →
      (∃ block outer, s.blocks = block :: outer ∧ Enclosed tokens s.pos block outer ∧
        (s.pos ≠ block.stop → Readable tokens s.pos block outer)) ∧
      (∀ s', step tokens limit s = .next s' → s.pos < s'.pos) ∧
      ∀ fault spans, step tokens limit s ≠ .halt (.fault fault) spans) ∧
    ∃ n s outcome spans, n ≤ tokens.size ∧ Rounds tokens limit n s ∧
      step tokens limit s = .halt outcome spans ∧
      run tokens limit (start tokens) = (outcome, spans) := by
  constructor
  · intro n s hrounds
    have hwell := hrounds.wellFormed
    refine ⟨?_, ?_, step_ne_fault hwell⟩
    · obtain ⟨blocks, pos, spans⟩ := s
      cases blocks with
      | nil => cases hwell
      | cons block outer =>
        change Stacked tokens pos (block :: outer) at hwell
        exact ⟨block, outer, rfl, hwell.enclosed, hwell.readable⟩
    · intro s' hstep
      have hround : Round tokens limit s (.next s') := hstep ▸ round_step limit hwell
      rw [pos_of_round hround]
      exact Nat.lt_succ_self _
  · obtain ⟨n, s, outcome, spans, hrounds, hstep, hrun⟩ :=
      exists_rounds_halt (.zero : Rounds tokens limit 0 (start tokens))
    refine ⟨n, s, outcome, spans, ?_, hrounds, hstep, hrun⟩
    -- the next token lies in a block of the program, and its index is the number of rounds
    have hwell := hrounds.wellFormed
    rw [← hrounds.pos_eq]
    obtain ⟨blocks, pos, spans⟩ := s
    cases blocks with
    | nil => cases hwell
    | cons block outer =>
      change Stacked tokens pos (block :: outer) at hwell
      exact Nat.le_trans hwell.pos_le hwell.stop_le

/-- Inside of a repetition that is just open, the scan behind its first token is safe and finds the
    `END REPEAT` of the inner one, which has no body. -/
theorem loop_stays_inside_nested :
    let tokens : Array Token :=
      #[⟨.repeatStart (some 2), "REPEAT 2", ⟨1, 1⟩⟩, ⟨.repeatStart (some 3), "REPEAT 3", ⟨1, 10⟩⟩,
        ⟨.repeatEnd, "END REPEAT", ⟨2, 1⟩⟩, ⟨.repeatEnd, "END REPEAT", ⟨2, 12⟩⟩]
    let inner : Block := { actions := #[], stop := 3, count := 2 }
    let whole : Block := { actions := #[], stop := 4, count := 0 }
    let s : State := ⟨[inner, whole], 1, #[{ count := 2, position := ⟨1, 1⟩, first := 1, close := 3 }]⟩
    Rounds tokens (some 2) 1 s ∧ Enclosed tokens 1 inner [whole] ∧
      (1 ≠ inner.stop ∧ Readable tokens 1 inner [whole]) ∧ closing tokens 1 2 1 = .found 2 ∧
      ∀ fault spans, step tokens (some 2) s ≠ .halt (.fault fault) spans := by
  intro tokens inner whole s
  have hrounds : Rounds tokens (some 2) 1 s := .succ .zero rfl
  obtain ⟨⟨block, outer, hblocks, henclosed, hreadable⟩, -, hfault⟩ :=
    (loop_stays_inside tokens (some 2)).1 1 s hrounds
  cases hblocks
  have hne : 1 ≠ inner.stop := by decide
  exact ⟨hrounds, henclosed, ⟨hne, hreadable hne⟩, rfl, hfault⟩

end Parser
end RobotScript
