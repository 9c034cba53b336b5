import RobotScript.Program
import RobotScript.Proofs.Parser.Round

/-! # The first error

    A program is refused if and only if one of its tokens offends, and the
    error is about the first of them.  The loop reads the tokens in order and
    scans ahead only inside the innermost block, but what it says of a token is
    what a look at the whole program says.

    The invariant is that no token before the next one offends.  A token that
    is read is right, and a token that is refused is wrong (`round_step`). -/

namespace RobotScript
namespace Parser

variable {tokens : Array Token} {limit : Option Nat}

/-- The state is well formed, and no token read so far offends. -/
structure Clean (tokens : Array Token) (limit : Option Nat) (s : State) : Prop where
  wellFormed : WellFormed tokens s
  /-- The tokens before the next one are right. -/
  right : ∀ i, i < s.pos → ¬ Offends (kindsOf tokens) limit i

/-- The token at which a round goes on does not offend. -/
theorem not_offends_of_round {s s' : State} (h : WellFormed tokens s)
    (hround : Round tokens limit s (.next s')) : ¬ Offends (kindsOf tokens) limit s.pos := by
  cases hround with
  | @close block parent rest pos _ hpos =>
    subst hpos
    cases h with
    | inner hbody hdepth _ =>
      -- the `END REPEAT` of an open block stands at a positive depth
      intro hoff
      have hzero := (offends_repeatEnd_iff hbody.terminator).1 hoff
      have hlevel := hbody.level
      unfold depthAt at hdepth
      omega
  | leaf hpos htoken hleaf =>
    exact not_offends_of_leaf (by rw [getElem?_kindsOf, htoken]; rfl) hleaf
  | @enter block outer pos close _ token count hpos htoken hkind hroom hbody hclose =>
    have hk : (kindsOf tokens)[pos]? = some (.repeatStart (some count)) := by
      rw [getElem?_kindsOf, htoken, ← hkind]; rfl
    intro hoff
    rcases (offends_repeatStart_iff hk).1 hoff with ⟨most, hlimit, hdeep⟩ | hopen
    · -- there is room, as the depth is the number of open blocks
      have hdepth : depthAt tokens pos = outer.length := Stacked.depthAt_eq h
      have := hroom most hlimit
      unfold depthAt at hdepth
      omega
    · exact hopen (TokenKind.isTerminated_of_isBody hbody)

/-- A round keeps the tokens behind it free of offences. -/
theorem clean_of_step {s s' : State} (h : Clean tokens limit s)
    (hstep : step tokens limit s = .next s') : Clean tokens limit s' := by
  have hround := hstep ▸ round_step limit h.wellFormed
  refine ⟨wellFormed_of_round h.wellFormed hround, ?_⟩
  -- one token is added to those that are right
  intro i hi
  rw [pos_of_round hround] at hi
  rcases Nat.lt_or_eq_of_le (Nat.le_of_lt_succ hi) with hlt | heq
  · exact h.right i hlt
  · rw [heq]
    exact not_offends_of_round h.wellFormed hround

/-- The state before the first token is clean. -/
theorem clean_start (tokens : Array Token) (limit : Option Nat) :
    Clean tokens limit (start tokens) :=
  ⟨wellFormed_start tokens, fun _ hi => absurd hi (Nat.not_lt_zero _)⟩

/-- The outcome is right about the offences of the program. -/
def Outcome.Judges (tokens : Array Token) (limit : Option Nat) : Outcome → Prop
  | .parsed _ => ∀ i, ¬ Offends (kindsOf tokens) limit i
  | .refused error =>
    ∃ i token, tokens[i]? = some token ∧ IsFirstOffence (kindsOf tokens) limit i ∧
      error = token.refusal limit (depthAt tokens i) ∧
      (error.IsUnbalanced → depthAt tokens i = 0)
  | .fault _ => False

/-- If the loop is left in a clean state, it is left with a right outcome. -/
theorem judges_of_step {s : State} {outcome : Outcome} {spans : Array Span}
    (h : Clean tokens limit s) (hstep : step tokens limit s = .halt outcome spans) :
    outcome.Judges tokens limit := by
  have hround := hstep ▸ round_step limit h.wellFormed
  cases hround with
  | finish hpos =>
    -- all tokens are read
    subst hpos
    intro i hoff
    have hlt := hoff.lt_length
    rw [length_kindsOf] at hlt
    cases h.wellFormed with
    | bottom hstop _ _ => exact h.right i (by rw [hstop]; exact hlt) hoff
  | refuse htoken hoffends herror hdepth =>
    -- the token is the first that offends, as those before it are right
    exact ⟨_, _, htoken, ⟨hoffends, h.right⟩, herror, hdepth⟩

/-- Reading a program ends with a right outcome. -/
theorem judges_run (tokens : Array Token) (limit : Option Nat) :
    (run tokens limit (start tokens)).1.Judges tokens limit :=
  run_induction (Q := fun outcome _ => outcome.Judges tokens limit)
    (fun _ _ h hstep => clean_of_step h hstep) (fun _ _ _ h hstep => judges_of_step h hstep)
    (start tokens) (clean_start tokens limit)

end Parser

/-! ### Token lists -/

namespace Program

/-- Reading a list of tokens yields a tree if no token offends, and the error about the first
    offence otherwise. -/
theorem parseTokens_cases (tokens : List Token) (limit : Option Nat) :
    (∃ tree, parseTokens tokens limit = .ok tree ∧
      ∀ i, ¬ Offends (tokens.map Token.kind) limit i) ∨
    ∃ i token, tokens[i]? = some token ∧ IsFirstOffence (tokens.map Token.kind) limit i ∧
      parseTokens tokens limit =
        .error (token.refusal limit (TokenKind.depth (tokens.map Token.kind) i)) ∧
      ((token.refusal limit (TokenKind.depth (tokens.map Token.kind) i)).IsUnbalanced →
        TokenKind.depth (tokens.map Token.kind) i = 0) := by
  have hjudges := Parser.judges_run tokens.toArray limit
  have hparse : parseTokens tokens limit =
      (Parser.run tokens.toArray limit (Parser.start tokens.toArray)).1.result := rfl
  have hkinds : Parser.kindsOf tokens.toArray = tokens.map Token.kind := by
    simp [Parser.kindsOf]
  rw [hparse]
  generalize (Parser.run tokens.toArray limit (Parser.start tokens.toArray)).1 = outcome at hjudges
  cases outcome with
  | parsed tree =>
    refine .inl ⟨tree, rfl, ?_⟩
    rw [← hkinds]
    exact hjudges
  | refused error =>
    obtain ⟨i, token, htoken, hfirst, herror, hdepth⟩ := hjudges
    subst herror
    unfold Parser.depthAt at hdepth ⊢
    rw [hkinds] at hfirst hdepth ⊢
    exact .inr ⟨i, token, by simpa using htoken, hfirst, rfl, hdepth⟩
  | fault fault => exact hjudges.elim

/-- A list of tokens is refused if and only if some token of it offends.  The error is about the
    first token that does, and it says that a block is not closed, or closed and not opened, only if
    no block is open there. -/
theorem parseTokens_reports_first_offence (tokens : List Token) (limit : Option Nat) :
    ((∃ error, parseTokens tokens limit = .error error) ↔
      ∃ i, Offends (tokens.map Token.kind) limit i) ∧
    (∀ error, parseTokens tokens limit = .error error ↔
      ∃ i token, tokens[i]? = some token ∧ IsFirstOffence (tokens.map Token.kind) limit i ∧
        error = token.refusal limit (TokenKind.depth (tokens.map Token.kind) i)) ∧
    (∀ error i, parseTokens tokens limit = .error error →
      IsFirstOffence (tokens.map Token.kind) limit i → error.IsUnbalanced →
        TokenKind.depth (tokens.map Token.kind) i = 0) := by
  rcases parseTokens_cases tokens limit with
    ⟨tree, hok, hright⟩ | ⟨i, token, htoken, hfirst, herr, h0⟩
  · -- a tree: there is no error and no offence to speak of
    have hne : ∀ error, parseTokens tokens limit ≠ .error error := by
      intro error herror
      rw [hok] at herror
      cases herror
    refine ⟨⟨?_, ?_⟩, ?_, ?_⟩
    · rintro ⟨error, herror⟩
      exact absurd herror (hne error)
    · rintro ⟨i, hoff⟩
      exact absurd hoff (hright i)
    · intro error
      refine ⟨fun herror => absurd herror (hne error), ?_⟩
      rintro ⟨i, _, _, hfirst, _⟩
      exact absurd hfirst.1 (hright i)
    · intro error _ herror
      exact absurd herror (hne error)
  · -- an error: the first offence is unique, and so is what is said of it
    refine ⟨⟨fun _ => ⟨i, hfirst.1⟩, fun _ => ⟨_, herr⟩⟩, ?_, ?_⟩
    · intro error
      constructor
      · intro herror
        refine ⟨i, token, htoken, hfirst, ?_⟩
        rw [herr] at herror
        cases herror
        rfl
      · rintro ⟨j, token', htoken', hfirst', rfl⟩
        obtain rfl := hfirst.unique hfirst'
        rw [htoken] at htoken'
        cases htoken'
        exact herr
    · intro error j herror hfirst' hunbalanced
      obtain rfl := hfirst.unique hfirst'
      rw [herr] at herror
      cases herror
      exact h0 hunbalanced

/-- Of an open `REPEAT`, a `REPEAT` without a count inside it and a word that is no command, the
    first is reported, although the second would take the only `END REPEAT`. -/
theorem parseTokens_reports_open_block :
    let tokens : List Token :=
      [⟨.forward, "FORWARD", ⟨1, 1⟩⟩, ⟨.repeatStart (some 2), "REPEAT 2", ⟨1, 9⟩⟩,
        ⟨.repeatStart none, "REPEAT x", ⟨1, 18⟩⟩, ⟨.repeatEnd, "END REPEAT", ⟨1, 27⟩⟩,
        ⟨.unknown, "JUMP", ⟨2, 1⟩⟩]
    parseTokens tokens (some 1) = .error (.unterminatedRepeat "REPEAT 2" ⟨1, 9⟩) ∧
    TokenKind.depth (tokens.map Token.kind) 1 = 0 := by
  intro tokens
  have hspec := parseTokens_reports_first_offence tokens (some 1)
  have hfirst : IsFirstOffence (tokens.map Token.kind) (some 1) 1 := by decide
  have herror := (hspec.2.1 (.unterminatedRepeat "REPEAT 2" ⟨1, 9⟩)).2
    ⟨1, _, rfl, hfirst, by decide⟩
  exact ⟨herror, hspec.2.2 _ 1 herror hfirst trivial⟩

end Program
end RobotScript
