import RobotScript.Settings

/-! # Settings documents

    The part of the TOML 1.1 syntax in which settings are written.  A document
    is a list of statements: table headers, and assignments of a value to a
    key.  Strings are read in all four forms, integers in all four bases.

    Of arrays and inline tables only the empty ones and the table with one
    empty entry are read, as no setting has another one.  All other values
    (floats, booleans, dates, filled arrays and tables) are refused.

    This is the reader that the program uses (`FileSettings.ofToml`).  What is
    said about runs is said for any reader. -/

namespace RobotScript
namespace Toml

/-- A value that a setting can have. -/
inductive Value where
  /-- A string. -/
  | text (s : String)
  /-- An integer. -/
  | integer (n : Int)
  /-- An empty array or an empty table. -/
  | empty
  /-- A table whose only entry has an empty value and this key. -/
  | choice (key : String)
deriving Repr, DecidableEq

/-- A statement of a document. -/
inductive Statement where
  /-- The header of the table with this path. -/
  | header (path : List String)
  /-- An assignment in the table with path `table`, the empty path for the document itself. -/
  | assign (table : List String) (key : List String) (value : Value)
deriving Repr, DecidableEq

/-- The key of the document that a statement is about. -/
def Statement.root : Statement → Option String
  | .header path => path.head?
  | .assign table key _ => (table ++ key).head?

/-! ### Characters -/

/-- A blank inside a line. -/
def isSpace (c : Char) : Bool := c == ' ' || c == '\t'

/-- A blank or a part of a line end. -/
def isVoid (c : Char) : Bool := isSpace c || c == '\n' || c == '\r'

/-- Any character but the control characters; the tab is no control character here. -/
def isPlain (c : Char) : Bool := c == '\t' || (0x20 ≤ c.toNat && c.toNat != 0x7F)

/-- Does every carriage return stand before a line feed?  Nowhere else is one allowed. -/
def returnsPaired : List Char → Bool
  | [] => true
  | '\r' :: '\n' :: cs => returnsPaired cs
  | '\r' :: _ => false
  | _ :: cs => returnsPaired cs

/-- The text behind blanks, line ends and comments. -/
def skipVoid (cs : List Char) : List Char :=
  match cs with
  | [] => []
  | c :: r =>
    have := (List.dropWhile_suffix isPlain (l := r)).length_le
    if isVoid c then skipVoid r
    else if c = '#' then skipVoid (r.dropWhile isPlain)
    else c :: r
termination_by cs.length

/-- The text behind the line end, which may have blanks and a comment before it. -/
def lineEnd? (cs : List Char) : Option (List Char) :=
  let cs := cs.dropWhile isSpace
  let cs := match cs with
    | '#' :: r => r.dropWhile isPlain
    | cs => cs
  match cs with
  | [] => some []
  | '\n' :: r => some r
  | '\r' :: '\n' :: r => some r
  | _ => none

/-! ### Strings -/

/-- The character an escape of one letter stands for. -/
def letterEscape? : Char → Option Char
  | 'b' => some '\x08'
  | 't' => some '\t'
  | 'n' => some '\n'
  | 'f' => some '\x0c'
  | 'r' => some '\r'
  | 'e' => some '\x1b'
  | '"' => some '"'
  | '\\' => some '\\'
  | _ => none

/-- The number of hexadecimal digits behind the letter of a code point escape. -/
def codePointDigits? : Char → Option Nat
  | 'x' => some 2
  | 'u' => some 4
  | 'U' => some 8
  | _ => none

/-- The character whose code point is written with exactly `n` hexadecimal digits. -/
def codePoint? (n : Nat) (digits : List Char) : Option Char :=
  if digits.length = n then Hexadecimal.char? digits else none

/-- Read a string from behind its opening quotes, which are `quote` characters: three of them if
    `multi`, else one.  Double quotes allow escapes.  A string in triple quotes may hold line ends,
    a backslash at the end of a line takes the blanks and line ends behind it away, and one or two
    quotes right before the closing ones belong to the string. -/
def quoted? (quote : Char) (multi : Bool) (cs acc : List Char) : Option (String × List Char) :=
  match cs with
  | [] => none
  | c :: r =>
    if c = quote then
      match multi, r with
      | false, r => some (String.ofList acc.reverse, r)
      | true, a :: b :: r' =>
        if a = quote ∧ b = quote then
          let extra := (r'.takeWhile (· == quote)).take 2
          some (String.ofList (acc.reverse ++ extra), r'.drop extra.length)
        else quoted? quote multi (a :: b :: r') (c :: acc)
      | true, _ => none
    else if c = '\\' ∧ quote = '"' then
      match r with
      | [] => none
      | k :: r' =>
        match letterEscape? k, codePointDigits? k with
        | some e, _ => quoted? quote multi r' (e :: acc)
        | none, some n =>
          match codePoint? n (r'.take n) with
          | some e => quoted? quote multi (r'.drop n) (e :: acc)
          | none => none
        | none, none =>
          let behind := (k :: r').dropWhile isSpace
          if multi && isVoid k && (behind.head? == some '\n' || behind.head? == some '\r') then
            have := (List.dropWhile_suffix isVoid (l := r')).length_le
            quoted? quote multi (r'.dropWhile isVoid) acc
          else none
    else if isPlain c || (multi && isVoid c) then quoted? quote multi r (c :: acc)
    else none
termination_by cs.length

/-- The text without the line end that it may begin with. -/
def dropLineEnd : List Char → List Char
  | '\n' :: r => r
  | '\r' :: '\n' :: r => r
  | cs => cs

/-- Read a string in any of its forms, if one begins here. -/
def string? : List Char → Option (String × List Char)
  | '"' :: '"' :: '"' :: r => quoted? '"' true (dropLineEnd r) []
  | '\'' :: '\'' :: '\'' :: r => quoted? '\'' true (dropLineEnd r) []
  | '"' :: r => quoted? '"' false r []
  | '\'' :: r => quoted? '\'' false r []
  | _ => none

/-! ### Integers -/

/-- The value of a digit in a base of at most sixteen. -/
def digitIn? (base : Nat) (c : Char) : Option Nat :=
  (Hexadecimal.digit? c).filter (· < base)

/-- The digits of a number in which underscores may stand between two digits. -/
def digits? (base : Nat) : List Char → Option (List Nat)
  | [] => none
  | [c] => (digitIn? base c).map ([·])
  | c :: '_' :: r => do
    let d ← digitIn? base c
    let ds ← digits? base r
    return d :: ds
  | c :: r => do
    let d ← digitIn? base c
    let ds ← digits? base r
    return d :: ds

/-- The number with the given digits. -/
def ofDigits (base : Nat) (ds : List Nat) : Nat :=
  ds.foldl (fun n d => base * n + d) 0

/-- A decimal number without a sign; it has no leading zeros. -/
def decimal? (cs : List Char) : Option Nat :=
  match digits? 10 cs with
  | some (0 :: _ :: _) => none
  | some ds => some (ofDigits 10 ds)
  | none => none

/-- An integer: decimal with an optional sign, or in another base without one. -/
def integer? : List Char → Option Int
  | '0' :: 'x' :: r => (digits? 16 r).map fun ds => (ofDigits 16 ds : Int)
  | '0' :: 'o' :: r => (digits? 8 r).map fun ds => (ofDigits 8 ds : Int)
  | '0' :: 'b' :: r => (digits? 2 r).map fun ds => (ofDigits 2 ds : Int)
  | '+' :: r => (decimal? r).map fun n => (n : Int)
  | '-' :: r => (decimal? r).map fun n => -(n : Int)
  | cs => (decimal? cs).map fun n => (n : Int)

/-- The characters that numbers, dates and names of values consist of. -/
def isScalarChar (c : Char) : Bool :=
  c.isAlphanum || c == '_' || c == '+' || c == '-' || c == '.' || c == ':'

/-! ### Keys -/

/-- The characters of a key without quotes. -/
def isKeyChar (c : Char) : Bool := c.isAlphanum || c == '_' || c == '-'

/-- One part of a key. -/
def keyPart? : List Char → Option (String × List Char)
  | '"' :: r => quoted? '"' false r []
  | '\'' :: r => quoted? '\'' false r []
  | cs =>
    let name := cs.takeWhile isKeyChar
    if name = [] then none else some (String.ofList name, cs.dropWhile isKeyChar)

/-- A key of at most `fuel` parts joined by dots. -/
def keyParts? : Nat → List Char → Option (List String × List Char)
  | 0, _ => none
  | fuel + 1, cs => do
    let (part, r) ← keyPart? (cs.dropWhile isSpace)
    match r.dropWhile isSpace with
    | '.' :: r' =>
      let (parts, r'') ← keyParts? fuel r'
      return (part :: parts, r'')
    | r' => return ([part], r')

/-- A key, and the text behind it and the blanks that follow it. -/
def key? (cs : List Char) : Option (List String × List Char) :=
  keyParts? (cs.length + 1) cs

/-! ### Values -/

/-- The text behind an empty array or an empty inline table. -/
def emptyValue? : List Char → Option (List Char)
  | '[' :: r =>
    match skipVoid r with
    | ']' :: r' => some r'
    | _ => none
  | '\x7b' :: r =>
    match skipVoid r with
    | '\x7d' :: r' => some r'
    | _ => none
  | _ => none

/-- The inline table with one entry of an empty value, which a comma may follow.  Between the
    braces, line ends and comments may stand wherever blanks may, around the equals sign too. -/
def choice? : List Char → Option (String × List Char)
  | '\x7b' :: r => do
    let ([name], r) ← key? (skipVoid r) | none
    let '=' :: r := skipVoid r | none
    let r ← emptyValue? (skipVoid r)
    let r := match skipVoid r with
      | ',' :: r' => skipVoid r'
      | r' => r'
    match r with
    | '\x7d' :: r' => some (name, r')
    | _ => none
  | _ => none

/-- Read a value. -/
def value? (cs : List Char) : Option (Value × List Char) :=
  match string? cs, emptyValue? cs, choice? cs with
  | some (s, r), _, _ => some (.text s, r)
  | none, some r, _ => some (.empty, r)
  | none, none, some (name, r) => some (.choice name, r)
  | none, none, none =>
    (integer? (cs.takeWhile isScalarChar)).map fun n => (.integer n, cs.dropWhile isScalarChar)

/-! ### Documents -/

/-- Read the statement that begins here, in the table with the given path. -/
def statement? (table : List String) : List Char → Option (Statement × List Char)
  | '[' :: r => do
    let (path, r) ← key? r
    let ']' :: r := r | none
    return (.header path, ← lineEnd? r)
  | cs => do
    let (key, r) ← key? cs
    let '=' :: r := r | none
    let (value, r) ← value? (r.dropWhile isSpace)
    return (.assign table key value, ← lineEnd? r)

/-- The table that the statements behind a statement belong to. -/
def tableAfter (table : List String) : Statement → List String
  | .header path => path
  | .assign _ _ _ => table

/-- Read at most `fuel` statements. -/
def statements? : (fuel : Nat) → (table : List String) → List Char → Option (List Statement)
  | 0, _, _ => none
  | fuel + 1, table, cs =>
    match skipVoid cs with
    | [] => some []
    | cs => do
      let (s, r) ← statement? table cs
      let more ← statements? fuel (tableAfter table s) r
      return s :: more

/-- Read a document.  It may begin with a byte order mark. -/
def document? (cs : List Char) : Option (List Statement) :=
  let cs := match cs with
    | '\ufeff' :: r => r
    | cs => cs
  if returnsPaired cs then statements? (cs.length + 1) [] cs else none

end Toml

/-! ### Settings -/

/-- The largest number a limit can be. -/
def maxWord : Nat := UInt64.size - 1

namespace FileSettings

/-- The names of the settings. -/
def keys : List String := ["max_depth", "emit", "format", "log_level"]

open Toml

/-- The value of a setting that is a number. -/
def number? : List Statement → Option (Option Nat)
  | [] => some .none
  | [.assign [] [_] (.integer n)] =>
    if 0 ≤ n ∧ n ≤ (maxWord : Int) then some (some n.toNat) else .none
  | _ => .none

/-- The value of a setting that is a text. -/
def text? : List Statement → Option (Option String)
  | [] => some .none
  | [.assign [] [_] (.text s)] => some (some s)
  | _ => .none

/-- The value of a setting that is one of several names.  The name is written as a string, or as
    the only entry of a table, with an empty value. -/
def name? : List Statement → Option (Option String)
  | [] => some .none
  | [.assign [] [_] (.text s)] => some (some s)
  | [.assign [] [_] (.choice s)] => some (some s)
  | [.assign [] [_, s] .empty] => some (some s)
  | [.header [_], .assign [_] [s] .empty] => some (some s)
  | [.header [_, s]] => some (some s)
  | [.header [_], .header [_, s]] => some (some s)
  | [.header [_, s], .header [_]] => some (some s)
  | _ => .none

/-- A name that is set has to be known. -/
def known? {α : Type} (ofName? : String → Option α) : Option String → Option (Option α)
  | .none => some .none
  | some s => (ofName? s).map some

/-- The settings made by a document. -/
def ofDocument? (doc : List Statement) : Option FileSettings := do
  let about (key : String) := doc.filter fun s => s.root == some key
  guard (doc.all fun s => s.root.any (keys.contains ·))
  return {
    maxDepth := ← number? (about "max_depth")
    emit := ← known? Emit.ofName? (← name? (about "emit"))
    format := ← known? Format.ofName? (← name? (about "format"))
    logLevel := ← text? (about "log_level") }

/-- The settings made by the text of a file. -/
def ofText? (text : String) : Option FileSettings := do
  ofDocument? (← document? text.toList)

/-- The settings made by a text, or a word about the fact that it makes none. -/
def ofToml : SettingsReader := fun text =>
  match ofText? text with
  | .none => .error "not a valid settings file"
  | some settings => .ok settings

end FileSettings
end RobotScript
