import RobotScript.Action.Basic
import RobotScript.Token

/-! # Actions in writing

    The two forms in which an action is written: as command text, and as a JSON
    document. -/

namespace RobotScript

/-! ## Actions as command text

    The command text of an action has one command on a line.  The body of a
    repetition is indented by two blanks more than its `REPEAT` and its
    `END REPEAT`; a sequence has no line of its own, so its parts stand where
    the sequence stands.

    The lines are found with a stack of items still to be written, which holds
    the `END REPEAT` lines of the repetitions that are being written.  The same
    text by recursion on the tree is `Action.pretty`.

    A line is padded to its indentation, and padding to more than `maxPadding`
    columns is not possible: an action that has such a line has no text. -/

/-! ### Lines -/

/-- The widest padding a line can have. -/
def maxPadding : Nat := 65535

/-- A line of command text. -/
structure Line where
  /-- How many repetitions the line stands in. -/
  indent : Nat
  /-- The command. -/
  command : String
deriving Repr, DecidableEq, Inhabited

namespace Line

/-- The number of blanks in front of the command. -/
def padding (l : Line) : Nat := l.indent * 2

/-- The characters of a line, with its line end. -/
def text (l : Line) : String :=
  String.ofList (List.replicate l.padding ' ') ++ l.command ++ "\n"

/-- Can the line be padded? -/
def Fits (l : Line) : Prop := l.padding ≤ maxPadding

instance (l : Line) : Decidable l.Fits := inferInstanceAs (Decidable (_ ≤ _))

end Line

/-! ### Commands -/

namespace Command

/-- The command that opens a repetition. -/
def repeatStart (count : UInt32) : String := Keyword.repetition ++ " " ++ count.toNat.repr

/-- The command that closes a repetition. -/
def repeatEnd : String := Keyword.ending ++ " " ++ Keyword.repetition

end Command

/-! ### The items still to be written -/

/-- An item of the stack. -/
inductive ListingItem where
  /-- An action at some indentation. -/
  | node (action : Action) (indent : Nat)
  /-- The end of a repetition at some indentation. -/
  | close (indent : Nat)
deriving Repr

namespace ListingItem

/-- The line an item begins with, if it has one of its own. -/
def line? : ListingItem → Option Line
  | .node .moveForward d => some ⟨d, Keyword.forward⟩
  | .node .turnLeft d => some ⟨d, Keyword.left⟩
  | .node .turnRight d => some ⟨d, Keyword.right⟩
  | .node (.sequence _) _ => none
  | .node (.repeated n _) d => some ⟨d, Command.repeatStart n⟩
  | .close d => some ⟨d, Command.repeatEnd⟩

/-- The items that follow the line of an item. -/
def rest : ListingItem → List ListingItem
  | .node (.sequence as) d => as.map (.node · d)
  | .node (.repeated _ a) d => [.node a (d + 1), .close d]
  | .node .moveForward _ => []
  | .node .turnLeft _ => []
  | .node .turnRight _ => []
  | .close _ => []

end ListingItem

namespace Action

mutual

/-- The number of steps it takes to list the action. -/
def listingSize : Action → Nat
  | .sequence as => 1 + listingSizeOfList as
  | .repeated _ a => 2 + listingSize a
  | .moveForward => 1
  | .turnLeft => 1
  | .turnRight => 1

/-- The number of steps it takes to list some actions. -/
def listingSizeOfList : List Action → Nat
  | [] => 0
  | a :: as => listingSize a + listingSizeOfList as

end

end Action

namespace ListingItem

/-- The number of steps it takes to write an item. -/
def size : ListingItem → Nat
  | .node a _ => a.listingSize
  | .close _ => 1

/-- The number of steps it takes to write all items of a stack. -/
def sizeOfStack : List ListingItem → Nat
  | [] => 0
  | item :: stack => item.size + sizeOfStack stack

@[simp] theorem sizeOfStack_append (s t : List ListingItem) :
    sizeOfStack (s ++ t) = sizeOfStack s + sizeOfStack t := by
  induction s with
  | nil => simp [sizeOfStack]
  | cons item s ih => simp [sizeOfStack, ih, Nat.add_assoc]

theorem sizeOfStack_map_node (as : List Action) (d : Nat) :
    sizeOfStack (as.map (.node · d)) = Action.listingSizeOfList as := by
  induction as with
  | nil => rfl
  | cons a as ih => simp_all [sizeOfStack, size, Action.listingSizeOfList]

/-- The items behind the line of an item take one step less than the item. -/
theorem sizeOfStack_rest (item : ListingItem) : sizeOfStack item.rest + 1 = item.size := by
  cases item with
  | close d => rfl
  | node a d =>
    cases a with
    | moveForward => rfl
    | turnLeft => rfl
    | turnRight => rfl
    | sequence as => simp [rest, sizeOfStack_map_node, size, Action.listingSize, Nat.add_comm]
    | repeated n a => simp [rest, sizeOfStack, size, Action.listingSize]; omega

/-- Writing the line of an item leaves fewer steps for the whole stack. -/
theorem sizeOfStack_rest_append_lt (item : ListingItem) (stack : List ListingItem) :
    sizeOfStack (item.rest ++ stack) < sizeOfStack (item :: stack) := by
  have := sizeOfStack_rest item
  rw [sizeOfStack_append, sizeOfStack]
  omega

/-- Write all items of a stack behind the lines already written. -/
def listAll (stack : List ListingItem) (lines : Array Line) : Array Line :=
  match stack with
  | [] => lines
  | item :: stack =>
    listAll (item.rest ++ stack)
      (match item.line? with
        | some line => lines.push line
        | none => lines)
termination_by sizeOfStack stack
decreasing_by exact sizeOfStack_rest_append_lt item stack

end ListingItem

/-! ### The text of an action -/

namespace Action

/-- The lines of the action's command text. -/
def listing (a : Action) : List Line :=
  (ListingItem.listAll [.node a 0] #[]).toList

/-- The action's command text, if every line of it can be padded. -/
def text? (a : Action) : Option String :=
  if a.listing.all (fun l => decide l.Fits) then some (String.join (a.listing.map Line.text)) else none

mutual

/-- The command text of the action inside `d` repetitions, by recursion on the tree. -/
def pretty (d : Nat) : Action → String
  | .moveForward => Line.text ⟨d, Keyword.forward⟩
  | .turnLeft => Line.text ⟨d, Keyword.left⟩
  | .turnRight => Line.text ⟨d, Keyword.right⟩
  | .sequence as => prettyList d as
  | .repeated n a =>
    Line.text ⟨d, Command.repeatStart n⟩ ++ pretty (d + 1) a ++ Line.text ⟨d, Command.repeatEnd⟩

/-- The command texts of some actions, one after the other. -/
def prettyList (d : Nat) : List Action → String
  | [] => ""
  | a :: as => pretty d a ++ prettyList d as

end

end Action

/-! ## Actions as JSON

    An action is a JSON object that names its kind in the field `type`.  A
    sequence has the field `actions`, a repetition the fields `count` and
    `action`.  The layout is the usual one for reading by people: one field or
    element on a line, two blanks for each level, and `[]` for an empty array.

    The document is first laid out as a list of pieces, in which a line break
    only knows its level, so the blanks of deep levels are not made before
    they are written. -/

/-- A piece of a JSON document. -/
inductive JsonPiece where
  /-- Characters without a line break. -/
  | word (s : String)
  /-- A line break and the blanks of a level. -/
  | newline (level : Nat)
deriving Repr, DecidableEq

/-- The characters of a piece. -/
def JsonPiece.text : JsonPiece → String
  | .word s => s
  | .newline level => "\n" ++ String.ofList (List.replicate (2 * level) ' ')

namespace Action

/-- The object of an action without fields besides its type. -/
def jsonLeaf (level : Nat) (type : String) (tail : List JsonPiece) : List JsonPiece :=
  .word "\x7b" :: .newline (level + 1) :: .word ("\"type\": \"" ++ type ++ "\"") ::
    .newline level :: .word "\x7d" :: tail

mutual

/-- The pieces of the action's object at a level, followed by `tail`. -/
def jsonPieces (level : Nat) : Action → List JsonPiece → List JsonPiece
  | .moveForward, tail => jsonLeaf level "move_forward" tail
  | .turnLeft, tail => jsonLeaf level "turn_left" tail
  | .turnRight, tail => jsonLeaf level "turn_right" tail
  | .sequence as, tail =>
    .word "\x7b" :: .newline (level + 1) :: .word "\"type\": \"sequence\"," ::
      .newline (level + 1) :: .word "\"actions\": [" ::
      jsonElements level true as
        (.word "]" :: .newline level :: .word "\x7d" :: tail)
  | .repeated n a, tail =>
    .word "\x7b" :: .newline (level + 1) :: .word "\"type\": \"repeat\"," ::
      .newline (level + 1) :: .word ("\"count\": " ++ n.toNat.repr ++ ",") ::
      .newline (level + 1) :: .word "\"action\": " ::
      jsonPieces (level + 1) a (.newline level :: .word "\x7d" :: tail)

/-- The pieces of the elements of an array of actions, up to its closing bracket in `tail`; `first`
    tells whether no element stands before them. -/
def jsonElements (level : Nat) (first : Bool) : List Action → List JsonPiece → List JsonPiece
  | [], tail => if first then tail else .newline (level + 1) :: tail
  | a :: as, tail =>
    let elements := .newline (level + 2) :: jsonPieces (level + 2) a (jsonElements level false as tail)
    if first then elements else .word "," :: elements

end

/-- The pieces of the action's JSON document. -/
def json (a : Action) : List JsonPiece := jsonPieces 0 a []

/-- The action's JSON document. -/
def jsonText (a : Action) : String := String.join (a.json.map JsonPiece.text)

end Action

end RobotScript
