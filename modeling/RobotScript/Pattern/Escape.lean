import RobotScript.Pattern.Basic
import RobotScript.Pattern.CharSet
import RobotScript.Text

/-! # Modes and escapes

    The settings under which a pattern is read, and the escapes in it. -/

namespace RobotScript

/-! ## Modes of reading

    Settings inside a pattern change how the rest of it is read: `(?i)` makes
    letters fit in either size, `(?x)` lets blanks and remarks stand between
    the parts of a pattern, and so on.  A `Mode` holds the settings in force. -/

namespace Pattern

/-- The settings in force. -/
structure Mode where
  /-- Characters fit that differ in case only. -/
  anyCase : Bool
  /-- `^` and `$` are about lines and not about the text. -/
  lines : Bool
  /-- The dot fits every character, line ends too. -/
  dotAll : Bool
  /-- Characters of all of Unicode are meant, and not those of ASCII. -/
  unicode : Bool
  /-- Lines may end with a carriage return, too. -/
  crlf : Bool
  /-- Blanks, and remarks from `#` to the end of the line, mean nothing. -/
  spaced : Bool
deriving Repr, DecidableEq

namespace Mode

/-- The mode in which the reading of a pattern begins. -/
def initial : Mode := ⟨false, false, false, true, false, false⟩

/-! ### Changing modes -/

/-- The letters of the settings.  `U` is about which of several matches is preferred, so it
    changes nothing here. -/
def letters : List Char := ['i', 'm', 's', 'U', 'u', 'R', 'x']

/-- Switch a setting on or off. -/
def set (on : Bool) (m : Mode) (letter : Char) : Mode :=
  match letter with
  | 'i' => { m with anyCase := on }
  | 'm' => { m with lines := on }
  | 's' => { m with dotAll := on }
  | 'u' => { m with unicode := on }
  | 'R' => { m with crlf := on }
  | 'x' => { m with spaced := on }
  | _ => m

/-- Change a mode by a row of letters: those behind a dash are switched off.  No letter may occur
    twice, nor the dash, which must have a letter behind it. -/
def change? (m : Mode) (text : List Char) : Option Mode :=
  if text.all (· ∈ '-' :: letters) ∧ text.Nodup ∧ text.getLast? ≠ some '-' then
    let on := (text.takeWhile (· != '-')).foldl (set true) m
    some (((text.dropWhile (· != '-')).drop 1).foldl (set false) on)
  else none

/-! ### What means nothing -/

/-- Drop the blanks and remarks at the beginning; the flag tells whether a remark has begun. -/
def dropRemarks : Bool → List Char → List Char
  | _, [] => []
  | true, c :: cs => dropRemarks (c != '\n') cs
  | false, c :: cs =>
    if isBlank c then dropRemarks false cs
    else if c = '#' then dropRemarks true cs
    else c :: cs

/-- Drop what means nothing at the beginning. -/
def skip (m : Mode) (cs : List Char) : List Char :=
  if m.spaced then dropRemarks false cs else cs

/-- The next character but for blanks and a number sign. -/
def peek? (m : Mode) (cs : List Char) : Option Char :=
  if m.spaced then
    match cs.dropWhile isBlank with
    | '#' :: r => (r.dropWhile isBlank).head?
    | r => r.head?
  else cs.head?

/-- Read up to the closing brace, without what means nothing: the text in front of it and the text
    behind it.  The flag tells whether a remark has begun. -/
def braced? (m : Mode) : Bool → List Char → Option (List Char × List Char)
  | _, [] => none
  | true, c :: cs => braced? m (c != '\n') cs
  | false, c :: cs =>
    if c = '\x7d' then some ([], cs)
    else if m.spaced ∧ isBlank c then braced? m false cs
    else if m.spaced ∧ c = '#' then braced? m true cs
    else (braced? m false cs).map fun (text, rest) => (c :: text, rest)

/-! ### Sets of characters -/

/-- A set as it is meant: letters in either size if the mode says so, and all other characters
    instead if it is negated.  Only ASCII characters are meant outside Unicode, so there is no set
    of all others. -/
def close? (m : Mode) (negated : Bool) (s : CharSet) : Option CharSet :=
  let folded := if m.anyCase then s.anyCase else s
  match m.unicode, negated with
  | true, true => some folded.compl
  | true, false => some folded
  | false, true => none
  | false, false => some (if m.anyCase then folded.inter .ascii else folded)

/-- The set that a character stands for. -/
def literal (m : Mode) (c : Char) : CharSet :=
  let isAscii (d : Char) : Bool := d.toNat < 0x80
  if m.anyCase then
    let forms := Unicode.CaseFold.forms c
    .ofList (c :: forms.filter fun d => d != c && (m.unicode || (isAscii c && isAscii d)))
  else .single c

/-- The characters that words are made of. -/
def word (m : Mode) : CharSet := if m.unicode then .word else .asciiWord

/-- The set of the dot. -/
def dot? (m : Mode) : Option CharSet :=
  if m.unicode then
    some (if m.dotAll then .all
      else if m.crlf then .compl (.ofList ['\r', '\n'])
      else .compl (.single '\n'))
  else none

/-- The condition of `^`. -/
def start (m : Mode) : Condition := if m.lines then .lineStart m.crlf else .textStart

/-- The condition of `$`. -/
def stop (m : Mode) : Condition := if m.lines then .lineEnd m.crlf else .textEnd

end Mode
end Pattern

/-! ## Escapes

    What a backslash and the characters behind it stand for: a character, a set
    of characters, or a condition on a place. -/

namespace Pattern

/-- The smallest part of a pattern. -/
inductive Atom where
  /-- A character; the flag says that it is written as a byte. -/
  | char (c : Char) (byte : Bool)
  | set (s : CharSet)
  | place (c : Condition)
deriving Repr, DecidableEq

namespace Atom

/-- The pattern of an atom.  Outside Unicode a byte must be an ASCII character. -/
def pattern? (m : Mode) : Atom → Option Pattern
  | char c byte =>
    if byte ∧ ¬m.unicode ∧ 0x80 ≤ c.toNat then none else some (.one (m.literal c))
  | set s => some (.one s)
  | place c => some (.place c)

/-- The character an atom stands for within brackets; outside Unicode only those of ASCII do. -/
def char? (m : Mode) : Atom → Option Char
  | char c _ => if m.unicode ∨ c.toNat < 0x80 then some c else none
  | _ => none

/-- The set an atom stands for within brackets. -/
def set? (m : Mode) : Atom → Option CharSet
  | char c byte => ((char c byte).char? m).map .single
  | set s => some s
  | place _ => none

end Atom

namespace Escape

/-! ### Code points -/

/-- Take `n` characters. -/
def take? (m : Mode) : Nat → List Char → Option (List Char × List Char)
  | 0, cs => some ([], cs)
  | _ + 1, [] => none
  | n + 1, c :: cs => (take? m n (m.skip cs)).map fun (taken, rest) => (c :: taken, rest)

/-- The character whose code point is written with `n` hexadecimal digits, or with any number of
    them in braces. -/
def codePoint? (m : Mode) (n : Nat) (cs : List Char) : Option (Atom × List Char) :=
  match m.skip cs with
  | '\x7b' :: r =>
    (m.braced? false r).bind fun (digits, rest) =>
      (Hexadecimal.char? digits).map fun c => (.char c false, rest)
  | r =>
    (take? m n r).bind fun (digits, rest) =>
      (Hexadecimal.char? digits).map fun c => (.char c (n == 2), rest)

/-! ### Sets -/

/-- The text in front of a separator and the text behind it. -/
def cut? (separator : List Char) : List Char → Option (List Char × List Char)
  | [] => none
  | c :: cs =>
    if separator.isPrefixOf (c :: cs) then some ([], (c :: cs).drop separator.length)
    else (cut? separator cs).map fun (front, back) => (c :: front, back)

/-- The set that a text in braces names: a name, or a property with a value. -/
def named? (text : List Char) : Option CharSet :=
  match cut? ['!', '='] text <|> cut? [':'] text <|> cut? ['='] text with
  | some (property, value) => CharSet.valued? property value
  | none => CharSet.named? text

/-- A set with a Unicode name, which is one letter or stands in braces. -/
def property? (m : Mode) (negated : Bool) (cs : List Char) : Option (Atom × List Char) :=
  let finish (set? : Option CharSet) (rest : List Char) : Option (Atom × List Char) :=
    if m.unicode then (set?.bind (m.close? negated)).map fun s => (.set s, rest) else none
  match m.skip cs with
  | [] => none
  | '\\' :: _ => none
  | '\x7b' :: r => (m.braced? false r).bind fun (text, rest) => finish (named? text) rest
  | c :: r => finish (CharSet.named? [c]) r

/-- One of the three sets that have a letter: digits, blanks and characters of words. -/
def family (m : Mode) : Char → CharSet
  | 'd' => if m.unicode then .digit else .asciiDigit
  | 's' => if m.unicode then .blank else .asciiBlank
  | _ => m.word

/-- The set of a letter; the capital letter stands for all other characters. -/
def family? (m : Mode) (letter : Char) : Option CharSet :=
  if letter.isUpper then
    if m.unicode then some (.compl (family m letter.toLower)) else none
  else some (family m letter)

/-! ### Borders of words -/

/-- The place that a name in braces stands for. -/
def wordPlace? (name : List Char) : Option WordPlace :=
  match String.ofList name with
  | "start" => some .start
  | "end" => some .stop
  | "start-half" => some .startHalf
  | "end-half" => some .stopHalf
  | _ => none

/-- The border of a word, or the place named in braces.  Braces that do not begin like a name
    belong to a repetition. -/
def border? (m : Mode) (cs : List Char) : Option (Atom × List Char) :=
  match cs with
  | '\x7b' :: r =>
    match m.skip r with
    | [] => none
    | c :: _ =>
      if c.isAlpha ∨ c = '-' then
        (m.braced? false r).bind fun (name, rest) =>
          (wordPlace? name).map fun place => (.place (.word place m.word), rest)
      else some (.place (.word .border m.word), cs)
  | cs => some (.place (.word .border m.word), cs)

/-! ### All escapes -/

/-- Read what stands behind a backslash.  ASCII characters other than letters and digits stand for
    themselves. -/
def read? (m : Mode) : List Char → Option (Atom × List Char)
  | [] => none
  | 'x' :: r => codePoint? m 2 r
  | 'u' :: r => codePoint? m 4 r
  | 'U' :: r => codePoint? m 8 r
  | 'p' :: r => property? m false r
  | 'P' :: r => property? m true r
  | 'a' :: r => some (.char '\x07' false, r)
  | 'f' :: r => some (.char '\x0c' false, r)
  | 't' :: r => some (.char '\t' false, r)
  | 'n' :: r => some (.char '\n' false, r)
  | 'r' :: r => some (.char '\r' false, r)
  | 'v' :: r => some (.char '\x0b' false, r)
  | 'A' :: r => some (.place .textStart, r)
  | 'z' :: r => some (.place .textEnd, r)
  | 'b' :: r => border? m r
  | 'B' :: r => some (.place (.word .noBorder m.word), r)
  | '<' :: r => some (.place (.word .start m.word), r)
  | '>' :: r => some (.place (.word .stop m.word), r)
  | c :: r =>
    if c ∈ ['d', 's', 'w', 'D', 'S', 'W'] then (family? m c).map fun s => (.set s, r)
    else if c.toNat < 0x80 ∧ ¬c.isAlphanum then some (.char c false, r)
    else none

end Escape
end Pattern

end RobotScript
