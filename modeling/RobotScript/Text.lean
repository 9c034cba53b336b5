/-! # Texts

    A text falls into lines, and a line into words with blanks between them.
    Numbers are words, too, written with decimal or hexadecimal digits. -/

namespace RobotScript

/-! ## Blanks

    The characters that separate words.  They are the code points with the
    Unicode property `White_Space`: the ASCII controls from tab to carriage
    return, the space, the next-line control, the no-break space and the
    typographic spaces and separators beyond Latin-1. -/

/-- Does `c` have the Unicode property `White_Space`? -/
def isBlank (c : Char) : Bool :=
  let n := c.toNat
  (0x09 ≤ n && n ≤ 0x0D) || n == 0x20 || n == 0x85 || n == 0xA0 || n == 0x1680 ||
    (0x2000 ≤ n && n ≤ 0x200A) || n == 0x2028 || n == 0x2029 || n == 0x202F ||
    n == 0x205F || n == 0x3000

/-- A line feed is a blank, so a word never crosses a line end. -/
theorem isBlank_newline : isBlank '\n' = true := rfl

/-- A carriage return is a blank, so dropping one never changes the words of a line. -/
theorem isBlank_carriage_return : isBlank '\r' = true := rfl

/-- A text without the blanks at its ends. -/
def trim (cs : List Char) : List Char :=
  ((cs.dropWhile isBlank).reverse.dropWhile isBlank).reverse

/-! ## Lines of a text

    A line ends at a line feed, and one carriage return right before the line
    feed belongs to the line end.  A text that ends with a line end has no
    further empty line after it, and the empty text has no line at all.

    The lines are built from the end of the text to its beginning, so the only
    thing to remember is whether the characters already seen start with a line
    feed. -/

/-- The lines of the text read so far, from its end backwards. -/
structure LineSplit where
  /-- Lines of the text, first line first. -/
  lines : List (List Char)
  /-- Does the text start with a line feed? -/
  atNewline : Bool
deriving Repr

namespace LineSplit

/-- The split of the empty text. -/
def empty : LineSplit := ⟨[], false⟩

/-- Put a character in front of the first line. -/
def extend (c : Char) : List (List Char) → List (List Char)
  | [] => [[c]]
  | line :: more => (c :: line) :: more

/-- The split of `c` followed by a text whose split is known. -/
def cons (c : Char) (s : LineSplit) : LineSplit :=
  if c = '\n' then ⟨[] :: s.lines, true⟩
  else if c = '\r' ∧ s.atNewline then ⟨s.lines, false⟩
  else ⟨extend c s.lines, false⟩

/-- The split of a whole text. -/
def ofChars (cs : List Char) : LineSplit :=
  cs.foldr cons empty

@[simp] theorem ofChars_nil : ofChars [] = empty := rfl

@[simp] theorem ofChars_cons (c : Char) (cs : List Char) :
    ofChars (c :: cs) = cons c (ofChars cs) := by
  simp only [ofChars, List.foldr_cons]

end LineSplit

/-- The lines of a text, without their line ends. -/
def textLines (cs : List Char) : List (List Char) :=
  (LineSplit.ofChars cs).lines

/-! ## Words of a line

    A line is a run of blanks followed by words, each with the run of blanks
    behind it.  Nothing is lost: the leading blanks, the words and their gaps
    put together again are the line (`Spaced.chars_ofChars`). -/

/-- A word of a line together with the blanks that follow it. -/
structure Word where
  /-- The characters of the word, none of them blank. -/
  text : List Char
  /-- The blanks between this word and the next one, or the end of the line. -/
  gap : List Char
deriving Repr, DecidableEq

/-- The characters that a word and the gap behind it cover. -/
def Word.chars (w : Word) : List Char := w.text ++ w.gap

/-- A line taken apart into blanks and words. -/
structure Spaced where
  /-- The blanks before the first word. -/
  lead : List Char
  /-- The words, in order. -/
  words : List Word
deriving Repr, DecidableEq

namespace Spaced

/-- The empty line. -/
def empty : Spaced := ⟨[], []⟩

/-- The line that starts with `c` and goes on as `s`. -/
def cons (c : Char) (s : Spaced) : Spaced :=
  if isBlank c then { s with lead := c :: s.lead }
  else match s with
    | ⟨[], w :: more⟩ => ⟨[], { w with text := c :: w.text } :: more⟩
    | ⟨lead, words⟩ => ⟨[], ⟨[c], lead⟩ :: words⟩

/-- Take a line apart. -/
def ofChars (cs : List Char) : Spaced :=
  cs.foldr cons empty

/-- Put a line together again. -/
def chars (s : Spaced) : List Char :=
  s.lead ++ s.words.flatMap Word.chars

@[simp] theorem ofChars_nil : ofChars [] = empty := rfl

@[simp] theorem ofChars_cons (c : Char) (cs : List Char) :
    ofChars (c :: cs) = cons c (ofChars cs) := by
  simp only [ofChars, List.foldr_cons]

/-- Adding a character in front adds it to the characters covered. -/
@[simp] theorem chars_cons (c : Char) (s : Spaced) : (cons c s).chars = c :: s.chars := by
  unfold cons
  split
  · rfl
  · split <;> simp [chars, Word.chars]

/-- Taking a line apart loses nothing. -/
@[simp] theorem chars_ofChars (cs : List Char) : (ofChars cs).chars = cs := by
  induction cs with
  | nil => rfl
  | cons c cs ih => simp [ih]

end Spaced

/-! ## Decimal numbers

    Reading of numbers written with ASCII digits.  Any number of digits is
    read, leading zeros included; signs, blanks and other digits are refused. -/

namespace Decimal

/-- Is `c` one of the ten ASCII digits? -/
def isDigit (c : Char) : Bool := '0' ≤ c && c ≤ '9'

/-- The value of an ASCII digit. -/
def digit (c : Char) : Nat := c.toNat - '0'.toNat

/-- The number whose digits are `cs`, most significant first. -/
def value (cs : List Char) : Nat :=
  cs.foldl (fun n c => 10 * n + digit c) 0

/-- The number written by a non-empty run of digits. -/
def read? (cs : List Char) : Option Nat :=
  if cs ≠ [] ∧ cs.all isDigit then some (value cs) else none

/-- The number written by `cs`, if it is at most `bound`. -/
def readUpTo? (bound : Nat) (cs : List Char) : Option Nat :=
  (read? cs).filter (· ≤ bound)

end Decimal

/-! ## Hexadecimal numbers

    Reading of numbers written with the digits `0` to `9` and the letters from
    `a` to `f` in either size, and of the characters that have such a number
    as their code point. -/

namespace Hexadecimal

/-- The value of a hexadecimal digit. -/
def digit? (c : Char) : Option Nat :=
  if '0' ≤ c ∧ c ≤ '9' then some (c.toNat - '0'.toNat)
  else if 'a' ≤ c ∧ c ≤ 'f' then some (c.toNat - 'a'.toNat + 10)
  else if 'A' ≤ c ∧ c ≤ 'F' then some (c.toNat - 'A'.toNat + 10)
  else none

/-- The number whose digits have the values `ds`, most significant first. -/
def value (ds : List Nat) : Nat :=
  ds.foldl (fun n d => 16 * n + d) 0

/-- The number written by a non-empty run of digits. -/
def read? (cs : List Char) : Option Nat :=
  if cs = [] then none else (cs.mapM digit?).map value

/-- The character whose code point is written by a non-empty run of digits. -/
def char? (cs : List Char) : Option Char :=
  (read? cs).bind fun code => if code.isValidChar then some (Char.ofNat code) else none

end Hexadecimal

end RobotScript
