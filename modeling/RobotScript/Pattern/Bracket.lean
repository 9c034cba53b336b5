import RobotScript.Pattern.Escape

/-! # Sets in brackets

    A set in brackets is a row of characters, ranges, named sets and further
    sets in brackets, which together make up the set.  Two rows may be joined
    by `&&`, `--` or `~~`, for the characters that are in both, in the first
    only, or in just one; of several such joints the left one comes first.
    Behind the opening bracket a `^` negates the set. -/

namespace RobotScript
namespace Pattern

/-- A thing that was read, and how deeply brackets, groups, repetitions and rows nest in it. -/
structure Nested (α : Type) where
  value : α
  depth : Nat
deriving Repr, DecidableEq

namespace Bracket

/-! ### Joints -/

/-- What two rows are joined by. -/
inductive Joint where
  | inter
  | diff
  | symmDiff
deriving Repr, DecidableEq

/-- The set of two joined ones. -/
def Joint.apply : Joint → CharSet → CharSet → CharSet
  | inter, a, b => a.inter b
  | diff, a, b => a.diff b
  | symmDiff, a, b => a.symmDiff b

/-- The joint that begins with a character. -/
def joint? (c : Char) (cs : List Char) : Option Joint :=
  if cs.head? = some c then
    match c with
    | '&' => some .inter
    | '-' => some .diff
    | '~' => some .symmDiff
    | _ => none
  else none

/-! ### Brackets that are open -/

/-- How far the reading of a row has come. -/
inductive Phase where
  /-- Nothing has been read; a bracket stands for itself. -/
  | opening
  /-- Only dashes have been read; a dash stands for itself. -/
  | dashes
  /-- Brackets and dashes have their meaning. -/
  | inside
deriving Repr, DecidableEq

/-- A bracket that is open. -/
structure Level where
  negated : Bool
  phase : Phase
  /-- The rows that have been joined so far, and the joint behind them. -/
  left : Option (Nested CharSet × Joint)
  /-- The parts of the row, the last one first. -/
  row : List (Nested CharSet)
deriving Repr, DecidableEq

namespace Level

/-- A bracket that has just been opened, and the text behind its `^` if there is one. -/
def start (m : Mode) (cs : List Char) : Level × List Char :=
  match m.skip cs with
  | '^' :: r => (⟨true, .opening, none, []⟩, r)
  | r => (⟨false, .opening, none, []⟩, r)

/-- Add a part to the row. -/
def push (l : Level) (part : Nested CharSet) : Level :=
  { l with phase := .inside, row := part :: l.row }

/-- Add characters to the row. -/
def pushSet (l : Level) (s : CharSet) : Level := l.push ⟨s, 0⟩

/-- The set of the row. -/
def rowSet (l : Level) : Nested CharSet :=
  match l.row with
  | [] => ⟨.none, 0⟩
  | [part] => part
  | part :: row =>
    ⟨row.foldl (fun s p => p.value.union s) part.value,
      1 + row.foldl (fun d p => max d p.depth) part.depth⟩

/-- The set of all rows. -/
def joined (m : Mode) (l : Level) : Nested CharSet :=
  let folded (s : CharSet) : CharSet := (m.close? false s).getD s
  match l.left with
  | none => l.rowSet
  | some (left, joint) =>
    ⟨joint.apply (folded left.value) (folded l.rowSet.value), 1 + max left.depth l.rowSet.depth⟩

/-- Begin a new row behind a joint. -/
def join (m : Mode) (l : Level) (joint : Joint) : Level :=
  { l with phase := .inside, left := some (l.joined m, joint), row := [] }

/-- The set of the bracket, once it is closed. -/
def close? (m : Mode) (l : Level) : Option (Nested CharSet) :=
  let inner := l.joined m
  (m.close? l.negated inner.value).map fun s => ⟨s, inner.depth + 1⟩

end Level

/-! ### Parts of a row -/

/-- A named set of ASCII characters, if one stands here: `:name:]`, or `:^name:]` for all others. -/
def named? (cs : List Char) : Option (CharSet × Bool × List Char) :=
  match cs with
  | ':' :: r =>
    let (negated, r) := match r with
      | '^' :: r => (true, r)
      | r => (false, r)
    match r.dropWhile (· != ':') with
    | ':' :: ']' :: rest =>
      (CharSet.asciiNamed? (r.takeWhile (· != ':'))).map fun s => (s, negated, rest)
    | _ => none
  | _ => none

/-- A character or an escape. -/
def atom? (m : Mode) (c : Char) (cs : List Char) : Option (Atom × List Char) :=
  if c = '\\' then Escape.read? m cs else some (.char c false, cs)

/-- The range from one character to another. -/
def range? (m : Mode) (first last : Atom) : Option CharSet :=
  match first.char? m, last.char? m with
  | some a, some b => if a ≤ b then some (.range a b) else none
  | _, _ => none

/-- A character, an escape, or a range of characters.  A dash in front of a closing bracket or of
    another dash is no sign of a range. -/
def part? (m : Mode) (c : Char) (cs : List Char) : Option (CharSet × List Char) :=
  (atom? m c cs).bind fun (atom, rest) =>
    let single := (atom.set? m).map fun s => (s, rest)
    match m.skip rest with
    | [] => none
    | '-' :: r =>
      if m.peek? r = some ']' ∨ m.peek? r = some '-' then single
      else
        match m.skip r with
        | [] => none
        | d :: r =>
          (atom? m d r).bind fun (last, rest) => (range? m atom last).map fun s => (s, rest)
    | _ => single

/-! ### Reading -/

/-- Read on with the brackets that are open, the innermost first; every round reads at least one
    of the `fuel` characters that are left. -/
def readFrom? (m : Mode) : Nat → Level → List Level → List Char →
    Option (Nested CharSet × List Char)
  | 0, _, _, _ => none
  | fuel + 1, level, outer, cs =>
    match m.skip cs with
    | [] => none
    | c :: r =>
      if c = '-' ∧ level.phase ≠ .inside then
        readFrom? m fuel { level.pushSet (.single c) with phase := .dashes } outer r
      else if c = ']' ∧ level.phase = .opening then
        readFrom? m fuel (level.pushSet (.single c)) outer r
      else if c = ']' then
        match level.close? m, outer with
        | none, _ => none
        | some set, [] => some (set, r)
        | some set, level :: outer => readFrom? m fuel (level.push set) outer r
      else if c = '[' then
        match named? r with
        | some (set, negated, rest) =>
          match m.close? negated set with
          | none => none
          | some set => readFrom? m fuel (level.pushSet set) outer rest
        | none =>
          let (inner, rest) := Level.start m r
          readFrom? m fuel inner (level :: outer) rest
      else
        match joint? c r with
        | some joint => readFrom? m fuel (level.join m joint) outer (r.drop 1)
        | none =>
          match part? m c r with
          | none => none
          | some (set, rest) => readFrom? m fuel (level.pushSet set) outer rest

/-- Read a set from behind its opening bracket. -/
def read? (m : Mode) (cs : List Char) : Option (Nested CharSet × List Char) :=
  let (level, rest) := Level.start m cs
  readFrom? m (cs.length + 1) level [] rest

end Bracket
end Pattern
end RobotScript
