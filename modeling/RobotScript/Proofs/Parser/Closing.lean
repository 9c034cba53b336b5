import RobotScript.Program
import RobotScript.Proofs.Blocks.Balance

/-! # The scan for the end of a block

    What the scan ahead says about the tokens it has read, in terms of depths:
    it stops at the first token that brings the depth down to where it was in
    front of the innermost `depth` blocks, and if it stops at none, no token of
    its range does so. -/

namespace RobotScript
namespace Parser

/-- The kinds of the tokens of a program. -/
def kindsOf (tokens : Array Token) : List TokenKind := tokens.toList.map Token.kind

@[simp] theorem length_kindsOf (tokens : Array Token) : (kindsOf tokens).length = tokens.size := by
  simp [kindsOf]

@[simp] theorem getElem?_kindsOf (tokens : Array Token) (i : Nat) :
    (kindsOf tokens)[i]? = tokens[i]?.map Token.kind := by
  simp [kindsOf]

/-- The depth in front of a token of a program. -/
def depthAt (tokens : Array Token) (i : Nat) : Int := TokenKind.depth (kindsOf tokens) i

/-- A token changes the depth by the delta of its kind. -/
theorem depthAt_succ {tokens : Array Token} {i : Nat} {token : Token}
    (h : tokens[i]? = some token) :
    depthAt tokens (i + 1) = depthAt tokens i + token.kind.delta :=
  TokenKind.depth_succ (by rw [getElem?_kindsOf, h]; rfl)

/-- What the scan of `length` tokens from `index` on has found out, if the blocks it is to close
    were opened at the depth `bottom`. -/
def Closing.Holds (tokens : Array Token) (length index : Nat) (bottom : Int) : Closing → Prop
  | .found close =>
    index ≤ close ∧ close < index + length ∧
      (∃ token, tokens[close]? = some token ∧ token.kind = .repeatEnd) ∧
      (∀ i, index ≤ i → i ≤ close → bottom < depthAt tokens i) ∧
      depthAt tokens close = bottom + 1
  | .missing => ∀ i, index ≤ i → i ≤ index + length → bottom < depthAt tokens i
  | .underflow => False

/-- A scan that reads one more token at its beginning finds out the same. -/
theorem Closing.Holds.cons {tokens : Array Token} {length index : Nat} {bottom : Int} {c : Closing}
    (hindex : bottom < depthAt tokens index) (h : c.Holds tokens length (index + 1) bottom) :
    c.Holds tokens (length + 1) index bottom := by
  cases c with
  | found close =>
    obtain ⟨hle, hlt, hend, habove, hlevel⟩ := h
    refine ⟨by omega, by omega, hend, ?_, hlevel⟩
    intro i hi hi'
    rcases Nat.eq_or_lt_of_le hi with heq | hgt
    · rw [← heq]; exact hindex
    · exact habove i hgt hi'
  | missing =>
    intro i hi hi'
    rcases Nat.eq_or_lt_of_le hi with heq | hgt
    · rw [← heq]; exact hindex
    · exact h i hgt (by omega)
  | underflow => exact h

/-- The scan is right about the tokens it reads, whatever number of blocks it starts with. -/
theorem holds_closing (tokens : Array Token) (length index depth : Nat) (bottom : Int)
    (hrange : index + length ≤ tokens.size) (hdepth : depthAt tokens index = bottom + depth)
    (hpos : 0 < depth) : (closing tokens length index depth).Holds tokens length index bottom := by
  -- on the tokens still to be scanned; how many blocks are to be closed changes with each of them
  induction length generalizing index depth with
  | zero =>
    intro i hi hi'
    have hi : i = index := by omega
    rw [hi]
    omega
  | succ length ih =>
    have hsome : tokens[index]? = some tokens[index] := Array.getElem?_eq_getElem (by omega)
    have hnext := depthAt_succ hsome
    have hindex : bottom < depthAt tokens index := by omega
    unfold closing
    rw [hsome]
    generalize tokens[index] = token at hsome hnext
    dsimp only
    split
    · -- one more block is open behind the token
      rename_i hopens
      have hdelta := TokenKind.delta_of_opensBlock hopens
      exact (ih (index + 1) (depth + 1) (by omega) (by omega) (by omega)).cons hindex
    · split
      · -- the token closes the innermost block, which may be the one to close
        rename_i hkind
        have hdelta : token.kind.delta = -1 := by rw [hkind]; rfl
        obtain _ | _ | depth := depth
        · exact absurd hpos (Nat.lt_irrefl 0)
        · -- it is the one, and every place before it lies inside the block
          refine ⟨Nat.le_refl _, by omega, ⟨token, hsome, hkind⟩, ?_, by omega⟩
          intro i hi hi'
          have hi : i = index := by omega
          rw [hi]
          exact hindex
        · exact (ih (index + 1) (depth + 1) (by omega) (by omega) (by omega)).cons hindex
      · -- the token neither opens nor closes a block
        rename_i hopens hkind
        have hdelta : token.kind.delta = 0 := by
          cases hk : token.kind <;> simp_all [TokenKind.opensBlock, TokenKind.delta]
        exact (ih (index + 1) depth (by omega) (by omega) hpos).cons hindex

/-- A token that the scan finds ends the body that begins where the scan begins. -/
theorem isBody_of_closing_eq_found {tokens : Array Token} {length first close : Nat}
    (hrange : first + length ≤ tokens.size) (h : closing tokens length first 1 = .found close) :
    TokenKind.IsBody (kindsOf tokens) first close ∧ close < first + length := by
  -- the scan begins inside one block, so the depth to reach is one less than there
  have hscan := holds_closing tokens length first 1 (depthAt tokens first - 1) hrange (by omega)
    Nat.one_pos
  rw [h] at hscan
  obtain ⟨hle, hlt, ⟨token, htoken, hkind⟩, habove, hlevel⟩ := hscan
  refine ⟨⟨hle, by rw [getElem?_kindsOf, htoken, ← hkind]; rfl, ?_, ?_⟩, hlt⟩
  · intro i hi hi'
    have := habove i hi hi'
    unfold depthAt at this
    omega
  · unfold depthAt at hlevel
    omega

/-- If the scan finds no token, the depth stays at or above its first value on the whole range. -/
theorem le_depthAt_of_closing_eq_missing {tokens : Array Token} {length first : Nat}
    (hrange : first + length ≤ tokens.size) (h : closing tokens length first 1 = .missing) :
    ∀ i, first ≤ i → i ≤ first + length → depthAt tokens first ≤ depthAt tokens i := by
  have hscan := holds_closing tokens length first 1 (depthAt tokens first - 1) hrange (by omega)
    Nat.one_pos
  rw [h] at hscan
  intro i hi hi'
  have := hscan i hi hi'
  omega

/-- The scan for the end of one block never closes more blocks than are open. -/
theorem closing_ne_underflow {tokens : Array Token} {length first : Nat}
    (hrange : first + length ≤ tokens.size) : closing tokens length first 1 ≠ .underflow := by
  intro h
  have hscan := holds_closing tokens length first 1 (depthAt tokens first - 1) hrange (by omega)
    Nat.one_pos
  rw [h] at hscan
  exact hscan

end Parser
end RobotScript
