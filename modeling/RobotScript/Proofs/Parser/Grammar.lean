import RobotScript.Proofs.Blocks.Written
import RobotScript.Proofs.Parser.FirstError

/-! # The grammar

    The parser reads exactly the token lists that write canonical actions, and
    it reads each as the one canonical action that it writes.

    What is read is right by an invariant of the loop: the actions collected in
    the open blocks, written out with the `REPEAT`s of the blocks between them,
    are the tokens read so far.  What can be read is read because none of its
    tokens offends, and no other tree has the same tokens. -/

namespace RobotScript
namespace Parser

variable {tokens : Array Token} {limit : Option Nat}

/-! ### What the open blocks hold -/

/-- The tokens that write what the open blocks hold, the block at the bottom first. -/
def written : List Block → List TokenKind
  | [] => []
  | [block] => Action.kindsOfList block.actions.toList
  | block :: parent :: rest =>
    written (parent :: rest) ++
      .repeatStart (some block.count) :: Action.kindsOfList block.actions.toList

/-- The actions of a block are canonical, and there is room for their repetitions inside `level`
    other blocks. -/
structure Block.Canonical (limit : Option Nat) (level : Nat) (block : Block) : Prop where
  elements : Action.AreElements block.actions.toList
  /-- No more blocks were open at once than are allowed. -/
  shallow : ∀ most, limit = some most → Action.nestingOfList block.actions.toList + level ≤ most

/-- All open blocks hold canonical actions. -/
def AllCanonical (limit : Option Nat) : List Block → Prop
  | [] => True
  | block :: outer => block.Canonical limit outer.length ∧ AllCanonical limit outer

/-- The state is well formed, and its blocks hold what was read. -/
structure Faithful (tokens : Array Token) (limit : Option Nat) (s : State) : Prop where
  wellFormed : WellFormed tokens s
  /-- What the blocks hold is written with the tokens read so far. -/
  kinds : written s.blocks = (kindsOf tokens).take s.pos
  /-- What the blocks hold is canonical. -/
  canonical : AllCanonical limit s.blocks

/-- An action that is added to the innermost block is written behind everything else. -/
theorem written_push (block : Block) (outer : List Block) (action : Action) :
    written (block.push action :: outer) = written (block :: outer) ++ Action.kinds action := by
  cases outer with
  | nil => simp [written, Block.push, Action.kindsOfList]
  | cons parent rest => simp [written, Block.push, Action.kindsOfList]

/-- A block still holds canonical actions when an element is added that is not nested too deeply. -/
theorem Block.Canonical.push {level : Nat} {block : Block} {action : Action}
    (h : block.Canonical limit level) (helement : Action.IsElement action)
    (hnesting : ∀ most, limit = some most → Action.nesting action + level ≤ most) :
    (block.push action).Canonical limit level where
  elements := by
    have hsingle : Action.AreElements [action] := ⟨helement, trivial⟩
    simpa [Block.push] using ⟨h.elements, hsingle⟩
  shallow := by
    intro most hlimit
    have hblock := h.shallow most hlimit
    have haction := hnesting most hlimit
    simp [Block.push, Action.nestingOfList]
    omega

/-- Leaves are elements without repetitions in them, written with one token. -/
theorem leaf_spec {k : TokenKind} {action : Action} (h : k.leaf? = some action) :
    Action.IsElement action ∧ Action.nesting action = 0 ∧ Action.kinds action = [k] := by
  cases k with
  | forward => cases h; exact ⟨trivial, rfl, rfl⟩
  | left => cases h; exact ⟨trivial, rfl, rfl⟩
  | right => cases h; exact ⟨trivial, rfl, rfl⟩
  | repeatStart count => cases h
  | repeatEnd => cases h
  | unknown => cases h

/-! ### Rounds and runs -/

/-- One more token is read. -/
theorem take_succ_kindsOf {pos : Nat} {k : TokenKind} (h : (kindsOf tokens)[pos]? = some k) :
    (kindsOf tokens).take (pos + 1) = (kindsOf tokens).take pos ++ [k] := by
  rw [List.take_add_one, h]
  rfl

/-- A round adds what it reads to the open blocks. -/
theorem faithful_of_step {s s' : State} (h : Faithful tokens limit s)
    (hstep : step tokens limit s = .next s') : Faithful tokens limit s' := by
  have hround := hstep ▸ round_step limit h.wellFormed
  refine ⟨wellFormed_of_round h.wellFormed hround, ?_, ?_⟩
  · -- the tokens of the blocks
    have hkinds := h.kinds
    cases hround with
    | @close block parent rest pos _ hpos =>
      subst hpos
      cases h.wellFormed with
      | inner hbody _ _ =>
        -- its `REPEAT` is written already, and the token just read is its `END REPEAT`
        rw [take_succ_kindsOf hbody.terminator, ← hkinds]
        simp [written_push, written, Action.kinds, Block.body]
    | leaf hpos htoken hleaf =>
      rw [take_succ_kindsOf (by rw [getElem?_kindsOf, htoken]; rfl), ← hkinds, written_push,
        (leaf_spec hleaf).2.2]
    | @enter block outer pos close _ token count hpos htoken hkind hroom hbody hclose =>
      have hk : (kindsOf tokens)[pos]? = some (.repeatStart (some count)) := by
        rw [getElem?_kindsOf, htoken, ← hkind]; rfl
      rw [take_succ_kindsOf hk, ← hkinds]
      simp [written, Action.kindsOfList]
  · -- their actions
    have hcanonical := h.canonical
    cases hround with
    | @close block parent rest pos _ hpos =>
      obtain ⟨hblock, hparent, hrest⟩ := hcanonical
      -- the repetition is nested once more than its body, in a block less
      refine ⟨hparent.push hblock.elements fun most hlimit => ?_, hrest⟩
      have := hblock.shallow most hlimit
      simp only [Action.nesting, Block.body, List.length_cons] at this ⊢
      omega
    | leaf hpos htoken hleaf =>
      obtain ⟨hblock, houter⟩ := hcanonical
      obtain ⟨helement, hnesting, -⟩ := leaf_spec hleaf
      refine ⟨hblock.push helement fun most hlimit => ?_, houter⟩
      have := hblock.shallow most hlimit
      omega
    | enter hpos htoken hkind hroom hbody hclose =>
      -- the new block holds nothing yet
      refine ⟨⟨trivial, fun most hlimit => ?_⟩, hcanonical⟩
      have := hroom most hlimit
      simp [Action.nestingOfList]
      omega

/-- Before the first token nothing is held. -/
theorem faithful_start (tokens : Array Token) (limit : Option Nat) :
    Faithful tokens limit (start tokens) :=
  ⟨wellFormed_start tokens, rfl, ⟨⟨trivial, fun _ _ => Nat.zero_le _⟩, trivial⟩⟩

/-- A tree that comes out of the loop is canonical, and it is written with the tokens of the
    program. -/
def Outcome.Reads (tokens : Array Token) (limit : Option Nat) : Outcome → Prop
  | .parsed tree =>
    tree.IsCanonical ∧ tree.kinds = kindsOf tokens ∧
      ∀ most, limit = some most → tree.nesting ≤ most
  | .refused _ => True
  | .fault _ => True

theorem reads_of_step {s : State} {outcome : Outcome} {spans : Array Span}
    (h : Faithful tokens limit s) (hstep : step tokens limit s = .halt outcome spans) :
    outcome.Reads tokens limit := by
  have hround := hstep ▸ round_step limit h.wellFormed
  cases hround with
  | @finish block pos _ hpos =>
    subst hpos
    refine ⟨h.canonical.1.elements, ?_, h.canonical.1.shallow⟩
    cases h.wellFormed with
    | bottom hstop _ _ =>
      have hkinds := h.kinds
      simp only [hstop, ← length_kindsOf, List.take_length] at hkinds
      exact hkinds
  | refuse htoken hoffends herror hdepth => trivial

/-- Reading a program gives the tree that it writes. -/
theorem reads_run (tokens : Array Token) (limit : Option Nat) :
    (run tokens limit (start tokens)).1.Reads tokens limit :=
  run_induction (Q := fun outcome _ => outcome.Reads tokens limit)
    (fun _ _ h hstep => faithful_of_step h hstep) (fun _ _ _ h hstep => reads_of_step h hstep)
    (start tokens) (faithful_start tokens limit)

end Parser

/-! ### Token lists -/

namespace Program

open RobotScript.Action

/-- A tree that is read is canonical and written with the tokens, and it is nested no deeper than
    is allowed. -/
theorem isCanonical_of_parseTokens {tokens : List Token} {limit : Option Nat} {tree : Action}
    (h : parseTokens tokens limit = .ok tree) :
    IsCanonical tree ∧ kinds tree = tokens.map Token.kind ∧
      ∀ most, limit = some most → nesting tree ≤ most := by
  have hreads := Parser.reads_run tokens.toArray limit
  have hjudges := Parser.judges_run tokens.toArray limit
  have hparse : parseTokens tokens limit =
      (Parser.run tokens.toArray limit (Parser.start tokens.toArray)).1.result := rfl
  rw [hparse] at h
  generalize (Parser.run tokens.toArray limit (Parser.start tokens.toArray)).1 = outcome
    at h hreads hjudges
  cases outcome with
  | parsed tree' =>
    cases h
    simpa [Parser.Outcome.Reads, Parser.kindsOf] using hreads
  | refused error => cases h
  | fault fault => exact hjudges.elim

/-- The tokens of a canonical tree are read as that tree, if it is nested no deeper than is
    allowed. -/
theorem parseTokens_of_isCanonical {tokens : List Token} {limit : Option Nat} {tree : Action}
    (hcanonical : IsCanonical tree) (hkinds : kinds tree = tokens.map Token.kind)
    (hlimit : ∀ most, limit = some most → nesting tree ≤ most) :
    parseTokens tokens limit = .ok tree := by
  rcases parseTokens_cases tokens limit with ⟨tree', hok, -⟩ | ⟨i, _, _, hfirst, _⟩
  · -- the tree that is read is written with the same tokens
    obtain ⟨hcanonical', hkinds', -⟩ := isCanonical_of_parseTokens hok
    rw [hok, eq_of_kinds_eq hcanonical' hcanonical (hkinds'.trans hkinds.symm)]
  · -- no token of a tree offends
    rw [← hkinds] at hfirst
    exact absurd hfirst.1 (not_offends_kinds tree hlimit i)

/-- Exactly the token lists that write a canonical tree can be read, and what is read is that
    tree. -/
theorem parseTokens_eq_ok_iff (tokens : List Token) (limit : Option Nat) (tree : Action) :
    parseTokens tokens limit = .ok tree ↔
      IsCanonical tree ∧ kinds tree = tokens.map Token.kind ∧
        ∀ most, limit = some most → nesting tree ≤ most := by
  constructor
  · intro h
    exact isCanonical_of_parseTokens h
  · rintro ⟨hcanonical, hkinds, hlimit⟩
    exact parseTokens_of_isCanonical hcanonical hkinds hlimit

end Program
end RobotScript
