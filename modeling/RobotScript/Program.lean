import RobotScript.Action.Basic
import RobotScript.Report
import RobotScript.Token

/-! # Programs

    How the tokens of a program become an action tree, and the ways to read a
    program. -/

namespace RobotScript

/-! ## From tokens to an action tree

    The tokens are read from left to right with a stack of blocks.  A block is
    a range of tokens: the whole program at the bottom of the stack, and above
    it the bodies of the repetitions that are open.  When a `REPEAT` is read,
    a scan ahead finds the `END REPEAT` that closes it, and the tokens between
    the two become a block of their own.

    The loop is a step function on explicit states.  A step that would leave
    the tokens or the stack is a `Fault`, kept apart from the errors a program
    can have. -/

/-- The report about one repetition: its count, its place and the tokens of its body. -/
structure Span where
  count : UInt32
  position : Position
  /-- Index of the first token of the body. -/
  first : Nat
  /-- Index of the `END REPEAT` behind the body. -/
  close : Nat
deriving Repr, DecidableEq, Inhabited

namespace Parser

/-! ### States -/

/-- A range of tokens that is being read. -/
structure Block where
  /-- The actions read so far. -/
  actions : Array Action
  /-- Index of the first token behind the block. -/
  stop : Nat
  /-- How often the block is to be run; of no use in the whole program. -/
  count : UInt32
deriving Repr

/-- The state at the head of the loop. -/
structure State where
  /-- Open blocks, innermost first. -/
  blocks : List Block
  /-- Index of the next token. -/
  pos : Nat
  /-- The repetitions opened so far. -/
  spans : Array Span
deriving Repr

/-- The ways in which the loop could leave the data it works on. -/
inductive Fault where
  /-- No block is open. -/
  | noBlock
  /-- The next token lies behind the last one. -/
  | position
  /-- The tokens to scan for an `END REPEAT` are not a range of the program. -/
  | range
  /-- More blocks are closed than were opened in the tokens scanned. -/
  | depth
deriving Repr, DecidableEq

/-- How the loop ends. -/
inductive Outcome where
  /-- The program was read. -/
  | parsed (action : Action)
  /-- The program was refused. -/
  | refused (error : ParseError)
  /-- The loop left its data. -/
  | fault (fault : Fault)
deriving Repr

/-- What one round of the loop comes to. -/
inductive Move where
  /-- Go on with the next round. -/
  | next (state : State)
  /-- Leave the loop, with the repetitions opened until then. -/
  | halt (outcome : Outcome) (spans : Array Span)
deriving Repr

/-! ### The scan for the end of a block -/

/-- What the scan for an `END REPEAT` comes to. -/
inductive Closing where
  /-- The closing token has this index. -/
  | found (index : Nat)
  /-- No token of the range closes the block. -/
  | missing
  /-- A block was closed while none was open. -/
  | underflow
deriving Repr, DecidableEq

/-- Find the token that closes the innermost of `depth` open blocks, among the next `length`
    tokens from `index` on. -/
def closing (tokens : Array Token) : (length index depth : Nat) → Closing
  | 0, _, _ => .missing
  | length + 1, index, depth =>
    match tokens[index]? with
    | none => .missing
    | some token =>
      if token.kind.opensBlock then closing tokens length (index + 1) (depth + 1)
      else if token.kind = .repeatEnd then
        match depth with
        | 0 => .underflow
        | 1 => .found index
        | depth + 2 => closing tokens length (index + 1) (depth + 1)
      else closing tokens length (index + 1) depth

/-! ### One round -/

/-- The state before the first token. -/
def start (tokens : Array Token) : State where
  blocks := [{ actions := #[], stop := tokens.size, count := 0 }]
  pos := 0
  spans := #[]

/-- Add an action to a block. -/
def Block.push (block : Block) (action : Action) : Block :=
  { block with actions := block.actions.push action }

/-- The body a finished block stands for. -/
def Block.body (block : Block) : Action := .sequence block.actions.toList

/-- Close the innermost block: it ends the program, or it becomes a repetition in the block
    around it and its `END REPEAT` is skipped. -/
def closeBlock (block : Block) (outer : List Block) (spans : Array Span) : Move :=
  match outer with
  | [] => .halt (.parsed block.body) spans
  | parent :: rest =>
    .next {
      blocks := parent.push (.repeated block.count block.body) :: rest
      pos := block.stop + 1
      spans }

/-- Open the block of a `REPEAT` with a good count, if there is room for one more. -/
def openBlock (tokens : Array Token) (limit : Option Nat) (token : Token) (count : UInt32)
    (blocks : List Block) (block : Block) (depth pos : Nat) (spans : Array Span) : Move :=
  match limit.filter (· ≤ depth) with
  | some limit => .halt (.refused (.nestingTooDeep token.text limit token.position)) spans
  | none =>
    if pos + 1 ≤ block.stop ∧ block.stop ≤ tokens.size then
      match closing tokens (block.stop - (pos + 1)) (pos + 1) 1 with
      | .missing => .halt (.refused (.unterminatedRepeat token.text token.position)) spans
      | .underflow => .halt (.fault .depth) spans
      | .found close =>
        .next {
          blocks := { actions := #[], stop := close, count } :: blocks
          pos := pos + 1
          spans := spans.push { count, position := token.position, first := pos + 1, close } }
    else .halt (.fault .range) spans

/-- One round of the loop, with at most `limit` blocks open at once. -/
def step (tokens : Array Token) (limit : Option Nat) : State → Move
  | ⟨[], _, spans⟩ => .halt (.fault .noBlock) spans
  | ⟨block :: outer, pos, spans⟩ =>
    if pos = block.stop then closeBlock block outer spans
    else
      match tokens[pos]? with
      | none => .halt (.fault .position) spans
      | some token =>
        match token.kind with
        | .forward => .next ⟨block.push .moveForward :: outer, pos + 1, spans⟩
        | .left => .next ⟨block.push .turnLeft :: outer, pos + 1, spans⟩
        | .right => .next ⟨block.push .turnRight :: outer, pos + 1, spans⟩
        | .repeatStart none =>
          .halt (.refused (.malformedRepeatCount token.text token.position)) spans
        | .repeatStart (some count) =>
          openBlock tokens limit token count (block :: outer) block outer.length pos spans
        | .repeatEnd => .halt (.refused (.unmatchedEndRepeat token.position)) spans
        | .unknown => .halt (.refused (.unknownCommand token.text token.position)) spans

/-! ### The loop -/

/-- Every round reads a token or closes a block, and this bounds the number of rounds to go. -/
def State.measure (tokens : Array Token) (s : State) : Nat :=
  2 * (tokens.size - s.pos) + s.blocks.length

/-- Closing a block brings the loop closer to its end. -/
theorem measure_close_lt (tokens : Array Token) (block parent parent' : Block) (rest : List Block)
    (pos : Nat) (spans : Array Span) :
    State.measure tokens ⟨parent' :: rest, pos + 1, spans⟩ <
      State.measure tokens ⟨block :: parent :: rest, pos, spans⟩ := by
  simp [State.measure]
  omega

/-- Reading a token brings the loop closer to its end, even if it opens a block. -/
theorem measure_read_lt {tokens : Array Token} {pos : Nat} (hpos : pos < tokens.size)
    {blocks blocks' : List Block} (hblocks : blocks'.length ≤ blocks.length + 1)
    (spans spans' : Array Span) :
    State.measure tokens ⟨blocks', pos + 1, spans'⟩ < State.measure tokens ⟨blocks, pos, spans⟩ := by
  simp only [State.measure]
  omega

/-- A `REPEAT` whose block is opened brings the loop closer to its end. -/
theorem measure_openBlock_lt {tokens : Array Token} {limit : Option Nat} {token : Token}
    {count : UInt32} {blocks : List Block} {block : Block} {depth pos : Nat} {spans : Array Span}
    {s' : State} (hpos : pos < tokens.size)
    (h : openBlock tokens limit token count blocks block depth pos spans = .next s') :
    s'.measure tokens < State.measure tokens ⟨blocks, pos, spans⟩ := by
  unfold openBlock at h
  split at h
  · cases h
  · split at h
    · split at h
      · cases h
      · cases h
      · cases h
        exact measure_read_lt hpos (Nat.le_refl _) spans _
    · cases h

/-- A round that does not leave the loop brings it closer to its end. -/
theorem measure_step_lt {tokens : Array Token} {limit : Option Nat} {s s' : State}
    (h : step tokens limit s = .next s') : s'.measure tokens < s.measure tokens := by
  obtain ⟨blocks, pos, spans⟩ := s
  cases blocks with
  | nil => cases h
  | cons block outer =>
    simp only [step] at h
    split at h
    · -- the end of the block: a parent takes it up, or the loop ends
      rename_i hstop
      cases outer with
      | nil => cases h
      | cons parent rest =>
        cases h
        exact hstop ▸ measure_close_lt tokens block parent _ rest pos spans
    · -- a token of the block: a command, a `REPEAT` with a count, or an error
      split at h
      · cases h
      · rename_i token htoken
        obtain ⟨hpos, -⟩ := Array.getElem?_eq_some_iff.1 htoken
        split at h
        · cases h
          exact measure_read_lt hpos (Nat.le_succ _) spans spans
        · cases h
          exact measure_read_lt hpos (Nat.le_succ _) spans spans
        · cases h
          exact measure_read_lt hpos (Nat.le_succ _) spans spans
        · cases h
        · exact measure_openBlock_lt hpos h
        · cases h
        · cases h

/-- Run the loop from a state on. -/
def run (tokens : Array Token) (limit : Option Nat) (s : State) : Outcome × Array Span :=
  match h : step tokens limit s with
  | .halt outcome spans => (outcome, spans)
  | .next s' =>
    have := measure_step_lt h
    run tokens limit s'
termination_by s.measure tokens

/-- What the loop says about the program.  A fault does not occur, and reads as the empty program. -/
def Outcome.result : Outcome → Except ParseError Action
  | .parsed action => .ok action
  | .refused error => .error error
  | .fault _ => .ok .idle

end Parser

/-! ### Reading a token list -/

/-- What reading a token list yields. -/
structure Reading where
  /-- The tree, or why there is none. -/
  result : Except ParseError Action
  /-- The repetitions opened on the way, in order. -/
  spans : Array Span
  /-- The number of tokens. -/
  size : Nat

/-- Read a token list with at most `limit` blocks open at once; `none` sets no limit. -/
def Reading.ofTokens (tokens : Array Token) (limit : Option Nat) : Reading :=
  let (outcome, spans) := Parser.run tokens limit (Parser.start tokens)
  { result := outcome.result, spans, size := tokens.size }

/-- The target under which reading reports. -/
def Reading.target : String := "robot_commands::parser"

/-- The record about one repetition. -/
def Span.record (s : Span) : Log.Record where
  level := .trace
  target := Reading.target
  message := s!"repeat x{s.count.toNat} at {s.position.line}:{s.position.column} " ++
    s!"spans tokens {s.first}..{s.close}"

/-- The records of reading a token list: its size, then one record for each repetition. -/
def Reading.log (r : Reading) : List Log.Record :=
  { level := .debug, target := target, message := s!"parsing {r.size} tokens" } ::
    r.spans.toList.map Span.record

/-! ## Programs

    The ways to read a program: from a text, or from a list of commands of
    which each counts as one line. -/

namespace Program

/-- Read a program text with at most `limit` blocks open at once. -/
def readText (text : String) (limit : Option Nat) : Reading :=
  .ofTokens (Token.ofText text).toArray limit

/-- Read a list of commands; the place of a command in the list is its line number. -/
def readCommands (commands : List String) : Reading :=
  .ofTokens (Token.ofCommands commands).toArray none

/-- The tree of a token list. -/
def parseTokens (tokens : List Token) (limit : Option Nat) : Except ParseError Action :=
  (Reading.ofTokens tokens.toArray limit).result

/-- The tree of a program text. -/
def parse (text : String) (limit : Option Nat) : Except ParseError Action :=
  (readText text limit).result

/-- The tree of a list of commands. -/
def parseCommands (commands : List String) : Except ParseError Action :=
  (readCommands commands).result

end Program

end RobotScript
