import RobotScript.Text
import RobotScript.Unicode.Property
import RobotScript.Unicode.Script
import RobotScript.Unicode.Table

/-! # Sets of characters in patterns

    The sets that patterns are made of, and the names that some of them
    have. -/

namespace RobotScript

/-! ## Sets of characters

    The sets that patterns are made of, as expressions: what is written in a
    pattern becomes a `CharSet`, and `CharSet.has` says which characters are
    in it. -/

/-- A set of characters. -/
inductive CharSet where
  /-- The characters in one of the spans. -/
  | spans (parts : List Unicode.Span)
  /-- The characters of some general categories. -/
  | categories (cs : List Unicode.Category)
  /-- The characters that have a property. -/
  | property (p : Unicode.Property)
  /-- The characters of the script with this code. -/
  | script (code : String)
  /-- The characters in one of two sets, or in both. -/
  | union (a b : CharSet)
  /-- The characters in both sets. -/
  | inter (a b : CharSet)
  /-- All other characters. -/
  | compl (a : CharSet)
  /-- The characters that differ from one of the set in case at most. -/
  | anyCase (a : CharSet)
deriving Repr, DecidableEq

namespace CharSet

/-- Is a character in the set? -/
def has : CharSet → Char → Bool
  | spans parts, c => parts.any (·.has c.toNat)
  | categories cs, c => cs.contains (Unicode.Category.of c)
  | property p, c => p.holds c
  | script code, c => Unicode.Script.of c == code
  | union a b, c => a.has c || b.has c
  | inter a b, c => a.has c && b.has c
  | compl a, c => !a.has c
  | anyCase a, c => a.has c || (Unicode.CaseFold.forms c).any fun d => a.has d

/-! ### Sets made of others -/

/-- The empty set. -/
def none : CharSet := spans []

/-- All characters. -/
def all : CharSet := compl none

/-- The set of one character. -/
def single (c : Char) : CharSet := spans [⟨c.toNat, c.toNat⟩]

/-- The characters from `a` to `b`. -/
def range (a b : Char) : CharSet := spans [⟨a.toNat, b.toNat⟩]

/-- The characters of a list. -/
def ofList (cs : List Char) : CharSet := spans (cs.map fun c => ⟨c.toNat, c.toNat⟩)

/-- The characters of the first set that are not in the second. -/
def diff (a b : CharSet) : CharSet := inter a (compl b)

/-- The characters that are in just one of the sets. -/
def symmDiff (a b : CharSet) : CharSet := union (diff a b) (diff b a)

/-- The characters of ASCII. -/
def ascii : CharSet := spans [⟨0, 0x7F⟩]

/-! ### Digits, blanks and characters of words -/

/-- The decimal digits of all scripts. -/
def digit : CharSet := categories [.decimalNumber]

/-- The decimal digits of ASCII. -/
def asciiDigit : CharSet := range '0' '9'

/-- The blanks. -/
def blank : CharSet :=
  spans [⟨0x09, 0x0D⟩, ⟨0x20, 0x20⟩, ⟨0x85, 0x85⟩, ⟨0xA0, 0xA0⟩, ⟨0x1680, 0x1680⟩,
    ⟨0x2000, 0x200A⟩, ⟨0x2028, 0x2029⟩, ⟨0x202F, 0x202F⟩, ⟨0x205F, 0x205F⟩, ⟨0x3000, 0x3000⟩]

/-- The blanks of ASCII. -/
def asciiBlank : CharSet := spans [⟨0x09, 0x0D⟩, ⟨0x20, 0x20⟩]

/-- The characters that words are made of: letters, marks, digits, and what joins them. -/
def word : CharSet :=
  union
    (categories [.lowercaseLetter, .uppercaseLetter, .decimalNumber, .connectorPunctuation,
      .titlecaseLetter, .modifierLetter, .otherLetter, .nonspacingMark, .spacingMark,
      .enclosingMark, .letterNumber])
    (spans [⟨0x200C, 0x200D⟩, ⟨0x24B6, 0x24E9⟩, ⟨0x1F130, 0x1F149⟩, ⟨0x1F150, 0x1F169⟩,
      ⟨0x1F170, 0x1F189⟩])

/-- The characters of ASCII that words are made of. -/
def asciiWord : CharSet :=
  spans [⟨0x30, 0x39⟩, ⟨0x41, 0x5A⟩, ⟨0x5F, 0x5F⟩, ⟨0x61, 0x7A⟩]

/-! ### Size -/

/-- The room that a span takes in a matcher that goes through a text byte by byte. -/
def spanSize (s : Unicode.Span) : Nat :=
  if s.last < 0x80 then 8
  else 60 + 180 * min 4 ((s.last - s.first) / 0x1000)

/-- The room that the characters of some categories take in such a matcher. -/
def categoriesSize (cs : List Unicode.Category) : Nat :=
  60 * Unicode.Segment.stretches cs.contains false Unicode.Category.segments

/-- The room that a set takes in such a matcher, roughly, in bytes. -/
def size : CharSet → Nat
  | spans parts => 24 + (parts.map spanSize).sum
  | categories cs => 24 + categoriesSize cs
  | property p => 24 + categoriesSize p.categories + 60 * (p.besides.length + p.except.length)
  | script code => 24 + 60 * Unicode.Segment.stretches (· == code) false Unicode.Script.segments
  | union a b => a.size + b.size
  | inter a b => min a.size b.size
  | compl a => 700 + a.size
  | anyCase a => a.size

end CharSet

/-! ## Sets of characters by name

    Two families of sets have names: some sets of ASCII characters, and the
    categories, properties and scripts of the Unicode standard. -/

namespace CharSet

/-- The set of ASCII characters with a name. -/
def asciiNamed? (name : List Char) : Option CharSet :=
  match String.ofList name with
  | "alnum" => some (spans [⟨0x30, 0x39⟩, ⟨0x41, 0x5A⟩, ⟨0x61, 0x7A⟩])
  | "alpha" => some (spans [⟨0x41, 0x5A⟩, ⟨0x61, 0x7A⟩])
  | "ascii" => some ascii
  | "blank" => some (ofList ['\t', ' '])
  | "cntrl" => some (spans [⟨0x00, 0x1F⟩, ⟨0x7F, 0x7F⟩])
  | "digit" => some asciiDigit
  | "graph" => some (range '!' '~')
  | "lower" => some (range 'a' 'z')
  | "print" => some (range ' ' '~')
  | "punct" => some (spans [⟨0x21, 0x2F⟩, ⟨0x3A, 0x40⟩, ⟨0x5B, 0x60⟩, ⟨0x7B, 0x7E⟩])
  | "space" => some asciiBlank
  | "upper" => some (range 'A' 'Z')
  | "word" => some asciiWord
  | "xdigit" => some (spans [⟨0x30, 0x39⟩, ⟨0x41, 0x46⟩, ⟨0x61, 0x66⟩])
  | _ => Option.none

/-- The set of a general category, or of a group of them, with a canonical name. -/
def categoryNamed? (name : String) : Option CharSet :=
  if name = "ascii" then some ascii else (Unicode.Category.named? name).map categories

/-- The set of a script with a canonical name. -/
def scriptNamed? (name : String) : Option CharSet := (Unicode.Script.named? name).map script

/-- The set with a Unicode name, which may be that of a property, a category or a script.  Three
    names of categories are names of properties as well; they stand for the categories. -/
def named? (name : List Char) : Option CharSet :=
  let name := Unicode.canonical name
  let property? :=
    if name ∈ ["cf", "sc", "lc"] then Option.none else (Unicode.Property.named? name).map property
  property? <|> categoryNamed? name <|> scriptNamed? name

/-- The set of the characters for which a property has a value: a category, or a script.  A
    character that several scripts share counts to its own one only. -/
def valued? (property value : List Char) : Option CharSet :=
  match Unicode.canonical property with
  | "gc" => categoryNamed? (Unicode.canonical value)
  | "generalcategory" => categoryNamed? (Unicode.canonical value)
  | "sc" => scriptNamed? (Unicode.canonical value)
  | "script" => scriptNamed? (Unicode.canonical value)
  | "scx" => scriptNamed? (Unicode.canonical value)
  | "scriptextensions" => scriptNamed? (Unicode.canonical value)
  | _ => Option.none

end CharSet

end RobotScript
