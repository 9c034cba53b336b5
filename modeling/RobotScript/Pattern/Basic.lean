import RobotScript.Pattern.CharSet

/-! # Text patterns

    A pattern describes texts.  It is looked for in a text by following all
    ways to match it at once: `Pattern.ends` takes the places of the text at
    which a match may begin to the places at which it may then end, as one
    truth value per place.  There is one place more than there are characters,
    so no match is missed and none is followed twice. -/

namespace RobotScript

/-! ### Places in a text -/

/-- A place in a text: between two characters, or at an end. -/
structure Place where
  /-- The character in front of the place. -/
  before : Option Char
  /-- The character behind it. -/
  after : Option Char
deriving Repr, DecidableEq

namespace Place

/-- The places of a text that has the character `before` in front of it. -/
def behind (before : Option Char) : List Char → List Place
  | [] => [⟨before, none⟩]
  | c :: cs => ⟨before, some c⟩ :: behind (some c) cs

/-- The places of a text. -/
def ofText (cs : List Char) : List Place := behind none cs

end Place

/-! ### Conditions on places -/

/-- How a place may lie to the words of a text. -/
inductive WordPlace where
  /-- At the beginning or the end of a word. -/
  | border
  /-- Within a word or outside all words. -/
  | noBorder
  /-- At the beginning of a word. -/
  | start
  /-- At the end of a word. -/
  | stop
  /-- Behind no character of a word. -/
  | startHalf
  /-- In front of no character of a word. -/
  | stopHalf
deriving Repr, DecidableEq

/-- A condition on a place. -/
inductive Condition where
  /-- The beginning of the text. -/
  | textStart
  /-- The end of the text. -/
  | textEnd
  /-- The beginning of a line; lines may end with a carriage return, too, if `crlf` is set. -/
  | lineStart (crlf : Bool)
  /-- The end of a line. -/
  | lineEnd (crlf : Bool)
  /-- The place lies so to the words that are made of these characters. -/
  | word (place : WordPlace) (chars : CharSet)
deriving Repr, DecidableEq

namespace Condition

/-- Does a place meet the condition? -/
def holds : Condition → Place → Bool
  | textStart, p => p.before.isNone
  | textEnd, p => p.after.isNone
  | lineStart false, p => p.before.isNone || p.before == some '\n'
  | lineStart true, p =>
    p.before.isNone || p.before == some '\n' || (p.before == some '\r' && p.after != some '\n')
  | lineEnd false, p => p.after.isNone || p.after == some '\n'
  | lineEnd true, p =>
    p.after.isNone || p.after == some '\r' || (p.after == some '\n' && p.before != some '\r')
  | word place chars, p =>
    let before := p.before.any chars.has
    let after := p.after.any chars.has
    match place with
    | .border => before != after
    | .noBorder => before == after
    | .start => !before && after
    | .stop => before && !after
    | .startHalf => !before
    | .stopHalf => !after

end Condition

/-! ### Patterns -/

/-- A pattern. -/
inductive Pattern where
  /-- The empty text. -/
  | empty
  /-- A text of one character, which is in a set. -/
  | one (set : CharSet)
  /-- The empty text, at a place that meets a condition. -/
  | place (condition : Condition)
  /-- A text that fits the first pattern, and behind it one that fits the second. -/
  | seq (p q : Pattern)
  /-- A text that fits one of two patterns. -/
  | alt (p q : Pattern)
  /-- At least `least` texts that fit a pattern, one behind the other, and at most `most` if
      there is a bound. -/
  | times (p : Pattern) (least : Nat) (most : Option Nat)
deriving Repr, DecidableEq

namespace Pattern

/-! ### Matching -/

/-- Move the marks of the places behind the next character, where that is in the set. -/
def shift (set : CharSet) (mark : Bool) : List Place → List Bool → List Bool
  | p :: places, b :: marks => mark :: shift set (b && p.after.any set.has) places marks
  | _, _ => []

/-- Marks that are set in one of two lists. -/
def join (a b : List Bool) : List Bool := List.zipWith (· || ·) a b

/-- Do a thing `n` times, or until it changes nothing any more. -/
def repeated (f : List Bool → List Bool) : Nat → List Bool → List Bool
  | 0, marks => marks
  | n + 1, marks =>
    let next := f marks
    if next = marks then marks else repeated f n next

/-- Where matches end that begin at a marked place.  A repetition without a bound adds no new
    place after as many rounds as there are places. -/
def ends (places : List Place) : Pattern → List Bool → List Bool
  | empty, marks => marks
  | one set, marks => shift set false places marks
  | place condition, marks => List.zipWith (fun p b => b && condition.holds p) places marks
  | seq p q, marks => q.ends places (p.ends places marks)
  | alt p q, marks => join (p.ends places marks) (q.ends places marks)
  | times p least most, marks =>
    let more := match most with
      | none => places.length
      | some most => most - least
    repeated (fun marks => join marks (p.ends places marks)) more
      (repeated (p.ends places) least marks)

/-- Does a part of the text fit the pattern? -/
def occursIn (p : Pattern) (cs : List Char) : Bool :=
  let places := Place.ofText cs
  (p.ends places (places.map fun _ => true)).any id

/-! ### Size -/

/-- Does no text but the empty one fit the pattern? -/
def isPlain : Pattern → Bool
  | empty => true
  | one _ => false
  | place _ => true
  | seq p q => p.isPlain && q.isPlain
  | alt p q => p.isPlain && q.isPlain
  | times p _ most => p.isPlain || most == some 0

/-- The size of a pattern with its repetitions written out, roughly, in bytes of a matcher that
    goes through a text byte by byte.  Repetitions of the empty text count once. -/
def size : Pattern → Nat
  | empty => 32
  | one set => set.size
  | place _ => 32
  | seq p q => p.size + q.size
  | alt p q => 40 + p.size + q.size
  | times p least most =>
    let bound (n : Nat) : Nat := if p.isPlain then min 1 n else n
    match most with
    | none => 72 + bound (max 1 least) * p.size
    | some most => 72 + bound most * p.size + 36 * bound (most - least)

end Pattern

end RobotScript
