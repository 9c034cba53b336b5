import RobotScript.Text

/-! # Tokens of a program text

    What tokens are, the words they are made of, and how they are found in a
    text. -/

namespace RobotScript

/-! ## Tokens

    A program text is read as a list of tokens.  A token is one word, or the
    two words of `REPEAT <N>` and `END REPEAT`.  Every word belongs to some
    token: a word that is no command becomes a token of kind `unknown`, and it
    is left to the reader of the token list to refuse it. -/

/-- A place in a text. -/
structure Position where
  /-- Line number, counted from 1. -/
  line : Nat
  /-- Column, counted from 1 in characters. -/
  column : Nat
deriving Repr, DecidableEq, Inhabited

/-- What a token stands for. -/
inductive TokenKind where
  /-- `FORWARD` -/
  | forward
  /-- `LEFT` -/
  | left
  /-- `RIGHT` -/
  | right
  /-- `REPEAT <N>`; the count is missing when there is no `N` or `N` is no number below `2 ^ 32`. -/
  | repeatStart (count : Option UInt32)
  /-- `END REPEAT` -/
  | repeatEnd
  /-- Any other word. -/
  | unknown
deriving Repr, DecidableEq, Inhabited

/-- Does a token of this kind open a block?  A `REPEAT` with a bad count does, too. -/
def TokenKind.opensBlock : TokenKind → Bool
  | .repeatStart _ => true
  | _ => false

/-- A token and where it stands in the text. -/
structure Token where
  kind : TokenKind
  /-- The characters the token covers, inner blanks of a two-word token included. -/
  text : String
  position : Position
deriving Repr, DecidableEq, Inhabited

/-! ## Keywords

    The words of the command language.  Capital letters are part of them. -/

namespace Keyword

/-- Move ahead. -/
def forward : String := "FORWARD"

/-- Turn left. -/
def left : String := "LEFT"

/-- Turn right. -/
def right : String := "RIGHT"

/-- The word that opens a block, and the second word of the end of one. -/
def repetition : String := "REPEAT"

/-- The first word of the end of a block. -/
def ending : String := "END"

end Keyword

/-! ## From text to tokens

    The words of a line are put into groups from left to right: `REPEAT` takes
    the word behind it, whatever that word is; `END` takes the word behind it
    if that word is `REPEAT`; every other word stands alone.  Each group is one
    token.  A group never crosses a line end.

    Columns count characters, and a token's text is everything from its first
    character to its last, so the tokens of a line and the gaps between them
    are the line again. -/

/-! ### Counts -/

/-- The largest repeat count. -/
def maxRepeatCount : Nat := 4294967295

/-- The repeat count written by a word: a run of digits with a value of at most `maxRepeatCount`. -/
def repeatCount? (word : List Char) : Option UInt32 :=
  (Decimal.readUpTo? maxRepeatCount word).map UInt32.ofNat

/-! ### Groups of words -/

/-- Is the word this keyword? -/
def Word.is (w : Word) (keyword : String) : Bool := w.text == keyword.toList

/-- The words of one token. -/
inductive WordGroup where
  /-- A word that stands alone. -/
  | single (word : Word)
  /-- A word that has taken the one behind it. -/
  | pair (first second : Word)
deriving Repr, DecidableEq

namespace WordGroup

/-- Does `first` take `second` into its token? -/
def fuses (first second : Word) : Bool :=
  first.is Keyword.repetition || (first.is Keyword.ending && second.is Keyword.repetition)

/-- Group the words of a line from left to right. -/
def ofWords : List Word → List WordGroup
  | [] => []
  | [w] => [single w]
  | w :: v :: more =>
    if fuses w v then pair w v :: ofWords more
    else single w :: ofWords (v :: more)

/-- The kind of token a group stands for. -/
def kind : WordGroup → TokenKind
  | single w =>
    if w.is Keyword.forward then .forward
    else if w.is Keyword.left then .left
    else if w.is Keyword.right then .right
    else if w.is Keyword.repetition then .repeatStart none
    else .unknown
  | pair w v =>
    if w.is Keyword.repetition then .repeatStart (repeatCount? v.text) else .repeatEnd

/-- The characters from the first to the last word of a group. -/
def text : WordGroup → List Char
  | single w => w.text
  | pair w v => w.text ++ w.gap ++ v.text

/-- The blanks behind a group. -/
def gap : WordGroup → List Char
  | single w => w.gap
  | pair _ v => v.gap

/-- The tokens of a line's groups, the first of them at the given column. -/
def place (line column : Nat) : List WordGroup → List Token
  | [] => []
  | g :: more =>
    { kind := g.kind, text := String.ofList g.text, position := ⟨line, column⟩ } ::
      place line (column + g.text.length + g.gap.length) more

end WordGroup

/-! ### Lines and texts -/

namespace Token

/-- The tokens of the characters of one line, numbered `line`. -/
def ofLineChars (line : Nat) (cs : List Char) : List Token :=
  let spaced := Spaced.ofChars cs
  WordGroup.place line (1 + spaced.lead.length) (WordGroup.ofWords spaced.words)

/-- The tokens of a string taken as one line, whatever line ends it holds. -/
def ofLine (line : Nat) (s : String) : List Token :=
  ofLineChars line s.toList

/-- The tokens of a list of lines, numbered from `first` on. -/
def ofLines (first : Nat) (lines : List (List Char)) : List Token :=
  (lines.zipIdx first).flatMap fun (cs, n) => ofLineChars n cs

/-- The tokens of a text, line by line. -/
def ofText (text : String) : List Token :=
  ofLines 1 (textLines text.toList)

/-- The tokens of a list of commands, each taken as one line. -/
def ofCommands (commands : List String) : List Token :=
  ofLines 1 (commands.map String.toList)

end Token

end RobotScript
