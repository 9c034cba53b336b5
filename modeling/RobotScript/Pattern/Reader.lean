import RobotScript.Pattern.Bracket
import RobotScript.Text

/-! # Reading patterns

    A pattern is a row of parts, or several such rows with `|` between them.
    A part is a character, a dot, a condition on a place, an escape, a set in
    brackets or a group in parentheses; behind it may stand how often it is
    repeated: `?`, `*`, `+`, or numbers in braces.  Behind the opening
    parenthesis of a group `?` begins its name or settings; settings without a
    group are in force up to the end of the group they stand in.

    A text that is not written so is no pattern, nor is one that is nested too
    deeply or grows too large when its repetitions are written out. -/

namespace RobotScript
namespace Pattern

/-! ### Rows -/

/-- A part of a row. -/
structure Part where
  pattern : Nested Pattern
  /-- Settings stand in a row as well, but they cannot be repeated. -/
  repeatable : Bool
deriving Repr, DecidableEq

/-- The pattern of a row, which is given from its last part on. -/
def ofRow : List Part → Nested Pattern
  | [] => ⟨.empty, 0⟩
  | [part] => part.pattern
  | part :: row =>
    ⟨row.foldl (fun p q => .seq q.pattern.value p) part.pattern.value,
      1 + row.foldl (fun d q => max d q.pattern.depth) part.pattern.depth⟩

/-- The pattern of several rows, which are given from the last one on. -/
def ofRows : List (Nested Pattern) → Nested Pattern
  | [] => ⟨.empty, 0⟩
  | [row] => row
  | row :: rows =>
    ⟨rows.foldl (fun p q => .alt q.value p) row.value,
      1 + rows.foldl (fun d q => max d q.depth) row.depth⟩

/-! ### The state of the reading -/

/-- A group that is open: the rows that are finished and the one that is being read, each from its
    end on. -/
structure Group where
  /-- The settings in force. -/
  mode : Mode
  rows : List (Nested Pattern)
  row : List Part
deriving Repr, DecidableEq

/-- What has been read. -/
structure Reading where
  /-- The group that is being read; the whole pattern counts as one. -/
  group : Group
  /-- The groups around it, the innermost first. -/
  outer : List Group
  /-- The names of groups. -/
  names : List (List Char)
deriving Repr, DecidableEq

namespace Group

/-- A group of which nothing has been read. -/
def start (m : Mode) : Group := ⟨m, [], []⟩

/-- The pattern of a group that has been read. -/
def pattern (g : Group) : Nested Pattern := ofRows (ofRow g.row :: g.rows)

/-- Add a part to the row. -/
def push (g : Group) (p : Pattern) (depth : Nat) : Group :=
  { g with row := ⟨⟨p, depth⟩, true⟩ :: g.row }

/-- Repeat the last part. -/
def repeated? (g : Group) (least : Nat) (most : Option Nat) : Option Group :=
  match g.row with
  | [] => none
  | part :: row =>
    if part.repeatable then
      let p := part.pattern
      some { g with row := ⟨⟨.times p.value least most, p.depth + 1⟩, true⟩ :: row }
    else none

end Group

namespace Reading

/-- The state before a pattern is read. -/
def initial : Reading := ⟨.start .initial, [], []⟩

/-- The settings in force. -/
def mode (s : Reading) : Mode := s.group.mode

/-- Add a part to the row. -/
def push (s : Reading) (p : Pattern) (depth : Nat) : Reading :=
  { s with group := s.group.push p depth }

/-- Add an atom to the row. -/
def pushAtom? (s : Reading) (a : Atom) : Option Reading :=
  (a.pattern? s.mode).map fun p => s.push p 0

/-- Begin another row. -/
def nextRow (s : Reading) : Reading :=
  { s with group := { s.group with rows := ofRow s.group.row :: s.group.rows, row := [] } }

/-! ### Groups -/

/-- Open a group. -/
def openGroup (s : Reading) (m : Mode) : Reading :=
  { s with group := .start m, outer := s.group :: s.outer }

/-- Close the group. -/
def closeGroup? (s : Reading) : Option Reading :=
  match s.outer with
  | [] => none
  | g :: outer =>
    let inner := s.group.pattern
    some { s with group := g.push inner.value (inner.depth + 1), outer := outer }

/-- May a group have this name? -/
def isName (name : List Char) : Bool :=
  let isLetter (c : Char) : Bool := Unicode.Property.alphabetic.holds c
  let isNumber (c : Char) : Bool :=
    Unicode.Category.of c ∈
      [Unicode.Category.decimalNumber, Unicode.Category.letterNumber, Unicode.Category.otherNumber]
  match name with
  | [] => false
  | c :: cs =>
    (c == '_' || isLetter c) &&
      cs.all fun c => c ∈ ['_', '.', '[', ']'] || isLetter c || isNumber c

/-- Open a group from behind the sign that its name follows.  No two groups have the same name. -/
def openNamed? (s : Reading) (cs : List Char) : Option (Reading × List Char) :=
  let name := cs.takeWhile (· != '>')
  match cs.dropWhile (· != '>') with
  | [] => none
  | _ :: rest =>
    if isName name ∧ name ∉ s.names then
      some ({ s with names := name :: s.names }.openGroup s.mode, rest)
    else none

/-- Read settings, which either end with `:` and are those of a group, or are in force from here
    on. -/
def settings? (s : Reading) (cs : List Char) : Option (Reading × List Char) :=
  let isEnd (c : Char) : Bool := c == ':' || c == ')'
  let text := cs.takeWhile (!isEnd ·)
  match cs.dropWhile (!isEnd ·) with
  | [] => none
  | c :: rest =>
    (s.mode.change? text).bind fun m =>
      if c = ':' then some (s.openGroup m, rest)
      else if text = [] then none
      else
        let part : Part := ⟨⟨.empty, 0⟩, false⟩
        some ({ s with group := { s.group with mode := m, row := part :: s.group.row } }, rest)

/-- Read the beginning of a group from behind the parenthesis.  Conditions on what stands before
    or behind a place are refused. -/
def group? (s : Reading) (cs : List Char) : Option (Reading × List Char) :=
  match s.mode.skip cs with
  | '?' :: '=' :: _ => none
  | '?' :: '!' :: _ => none
  | '?' :: '<' :: '=' :: _ => none
  | '?' :: '<' :: '!' :: _ => none
  | '?' :: '<' :: r => s.openNamed? r
  | '?' :: 'P' :: '<' :: r => s.openNamed? r
  | '?' :: r => s.settings? r
  | r => some (s.openGroup s.mode, r)

/-! ### Repetitions -/

/-- Drop the sign that prefers short matches; whether there is a match does not depend on it. -/
def dropShort : List Char → List Char
  | '?' :: r => r
  | r => r

/-- A number of repetitions, which may have blanks around it. -/
def count? (cs : List Char) : Option Nat := Decimal.readUpTo? 4294967295 (trim cs)

/-- The least and the greatest number of repetitions that are written in braces. -/
def counts? (cs : List Char) : Option (Nat × Option Nat) :=
  match cs.splitOn ',' with
  | [n] => (count? n).map fun n => (n, some n)
  | [least, []] => (count? least).map fun n => (n, none)
  | [least, most] =>
    match count? least, count? most with
    | some a, some b => if a ≤ b then some (a, some b) else none
    | _, _ => none
  | _ => none

/-- Repeat the last part. -/
def repeated? (s : Reading) (least : Nat) (most : Option Nat) : Option Reading :=
  (s.group.repeated? least most).map fun g => { s with group := g }

/-- Repeat the last part as often as the braces say that open here. -/
def counted? (s : Reading) (cs : List Char) : Option (Reading × List Char) :=
  (s.mode.braced? false cs).bind fun (text, rest) =>
    (counts? text).bind fun (least, most) =>
      (s.repeated? least most).map fun s => (s, dropShort (s.mode.skip rest))

/-! ### All parts -/

/-- Read on from behind the character `c`. -/
def step? (s : Reading) (c : Char) (cs : List Char) : Option (Reading × List Char) :=
  match c with
  | '(' => s.group? cs
  | ')' => s.closeGroup?.map fun s => (s, cs)
  | '|' => some (s.nextRow, cs)
  | '[' =>
    (Bracket.read? s.mode cs).map fun (set, rest) => (s.push (.one set.value) set.depth, rest)
  | '?' => (s.repeated? 0 (some 1)).map fun s => (s, dropShort cs)
  | '*' => (s.repeated? 0 none).map fun s => (s, dropShort cs)
  | '+' => (s.repeated? 1 none).map fun s => (s, dropShort cs)
  | '\x7b' => s.counted? cs
  | '\\' =>
    (Escape.read? s.mode cs).bind fun (atom, rest) => (s.pushAtom? atom).map fun s => (s, rest)
  | '.' => s.mode.dot?.map fun set => (s.push (.one set) 0, cs)
  | '^' => some (s.push (.place s.mode.start) 0, cs)
  | '$' => some (s.push (.place s.mode.stop) 0, cs)
  | c => (s.pushAtom? (.char c false)).map fun s => (s, cs)

/-- Read to the end; every round reads at least one of the `fuel` characters that are left. -/
def readFrom? : Nat → Reading → List Char → Option Reading
  | 0, _, _ => none
  | fuel + 1, s, cs =>
    match s.mode.skip cs with
    | [] => some s
    | c :: r =>
      match s.step? c r with
      | none => none
      | some (s, rest) => readFrom? fuel s rest

end Reading

/-! ### Whole patterns -/

/-- The deepest nesting of a pattern. -/
def depthLimit : Nat := 250

/-- The largest size of a pattern: ten times 1024 times 1024. -/
def sizeLimit : Nat := 10485760

/-- The pattern that is written as a text. -/
def read? (cs : List Char) : Option Pattern :=
  match Reading.readFrom? (cs.length + 1) .initial cs with
  | none => none
  | some s =>
    let whole := s.group.pattern
    if s.outer = [] ∧ whole.depth ≤ depthLimit ∧ whole.value.size ≤ sizeLimit then
      some whole.value
    else none

end Pattern
end RobotScript
