import RobotScript.Action.Normal
import RobotScript.Action.Printing

/-! # The forms of an action

    The lines and the JSON document of an action by recursion on the tree,
    and that they are what the stacks of items and pieces yield. -/

namespace RobotScript

/-! ## The lines of an action

    The lines that the stack of items yields are the lines by recursion on the
    tree.  As for running, the statement is about any stack: an item stands for
    the line it begins with and for the items that follow. -/

namespace Action

mutual

/-- The lines of the action inside `d` repetitions, by recursion on the tree. -/
def lines (d : Nat) : Action → List Line
  | .moveForward => [⟨d, Keyword.forward⟩]
  | .turnLeft => [⟨d, Keyword.left⟩]
  | .turnRight => [⟨d, Keyword.right⟩]
  | .sequence as => linesOfList d as
  | .repeated n a => ⟨d, Command.repeatStart n⟩ :: (lines (d + 1) a ++ [⟨d, Command.repeatEnd⟩])

/-- The lines of some actions, one after the other. -/
def linesOfList (d : Nat) : List Action → List Line
  | [] => []
  | a :: as => lines d a ++ linesOfList d as

end

@[simp] theorem linesOfList_append (d : Nat) (as bs : List Action) :
    linesOfList d (as ++ bs) = linesOfList d as ++ linesOfList d bs := by
  induction as with
  | nil => rfl
  | cons a as ih => simp [linesOfList, ih]

end Action

namespace ListingItem

/-- The lines an item stands for. -/
def lines : ListingItem → List Line
  | .node a d => a.lines d
  | .close d => [⟨d, Command.repeatEnd⟩]

theorem flatMap_lines_map_node (as : List Action) (d : Nat) :
    (as.map (.node · d)).flatMap lines = Action.linesOfList d as := by
  induction as with
  | nil => rfl
  | cons a as ih => simp [lines, Action.linesOfList, ih]

/-- An item stands for its own line and for the items that follow it. -/
theorem lines_eq (item : ListingItem) :
    item.lines = item.line?.toList ++ item.rest.flatMap lines := by
  cases item with
  | close d => rfl
  | node a d =>
    cases a with
    | moveForward => rfl
    | turnLeft => rfl
    | turnRight => rfl
    | sequence as =>
      rw [rest, flatMap_lines_map_node]
      rfl
    | repeated n a => simp [lines, line?, rest, Action.lines]

/-- Writing a stack of items adds the lines they stand for. -/
theorem toList_listAll (stack : List ListingItem) (lines : Array Line) :
    (listAll stack lines).toList = lines.toList ++ stack.flatMap ListingItem.lines := by
  fun_induction listAll stack lines with
  | case1 lines => simp
  | case2 lines item stack ih =>
    -- the line of the item is written, and the items behind it take its place on the stack
    rw [ih, List.flatMap_append, List.flatMap_cons, lines_eq item]
    cases item.line? with
    | none => simp
    | some line => simp

end ListingItem

namespace Action

/-- The lines of an action's command text are those by recursion. -/
theorem listing_eq_lines (a : Action) : a.listing = a.lines 0 := by
  rw [listing, ListingItem.toList_listAll]
  simp [ListingItem.lines]

/-- An action has a text if and only if all of its lines can be padded. -/
theorem text?_eq_some_iff (a : Action) (s : String) :
    a.text? = some s ↔ (∀ l ∈ a.lines 0, l.Fits) ∧ s = String.join ((a.lines 0).map Line.text) := by
  rw [text?, listing_eq_lines]
  constructor
  · intro h
    split at h
    · rename_i hall
      cases h
      exact ⟨by simpa using hall, rfl⟩
    · cases h
  · rintro ⟨hfits, rfl⟩
    rw [if_pos (by simpa using hfits)]

mutual

theorem linesOfList_elements : (d : Nat) → (a : Action) → linesOfList d (elements a) = lines d a
  | _, .moveForward => rfl
  | _, .turnLeft => rfl
  | _, .turnRight => rfl
  | d, .sequence as => linesOfList_elementsOfList d as
  | d, .repeated n a => by
    simp [elements, linesOfList, lines, linesOfList_elements (d + 1) a]

theorem linesOfList_elementsOfList :
    (d : Nat) → (as : List Action) → linesOfList d (elementsOfList as) = linesOfList d as
  | _, [] => rfl
  | d, a :: as => by
    simp [elementsOfList, linesOfList, linesOfList_elements d a, linesOfList_elementsOfList d as]

end

/-- A normal form has the same lines. -/
theorem lines_normalize (d : Nat) (a : Action) : lines d (normalize a) = lines d a :=
  linesOfList_elements d a

/-! ### The text of the lines -/

mutual

/-- The lines of an action put together are its command text. -/
theorem join_lines (d : Nat) : (a : Action) → String.join ((lines d a).map Line.text) = pretty d a
  | .moveForward => by simp [lines, pretty]
  | .turnLeft => by simp [lines, pretty]
  | .turnRight => by simp [lines, pretty]
  | .sequence as => join_linesOfList d as
  | .repeated n a => by
    rw [lines, pretty, List.map_cons, List.map_append, String.join_cons, String.join_append,
      join_lines (d + 1) a]
    simp [String.append_assoc]

theorem join_linesOfList (d : Nat) :
    (as : List Action) → String.join ((linesOfList d as).map Line.text) = prettyList d as
  | [] => rfl
  | a :: as => by
    rw [linesOfList, prettyList, List.map_append, String.join_append, join_lines d a,
      join_linesOfList d as]

end

end Action

/-! ## The JSON document of an action

    The pieces that are written one after the other make up a JSON document in
    the usual layout for reading by people.  That layout is stated here for any
    object and any array: an object has a field on each line, an array has an
    element on each line, each of them one level deeper than the brackets, and
    an empty array is `[]`. -/

/-! ### Layout -/

namespace JsonLayout

/-- A line break and the blanks of a level. -/
def lineBreak (level : Nat) : String := (JsonPiece.newline level).text

/-- A field of an object. -/
def field (name value : String) : String := "\"" ++ name ++ "\": " ++ value

/-- Items between brackets, each on a line of its own. -/
def items (level : Nat) (items : List String) : String :=
  ",".intercalate (items.map (lineBreak (level + 1) ++ ·)) ++ lineBreak level

/-- An object with some fields. -/
def object (level : Nat) (fields : List (String × String)) : String :=
  "\x7b" ++ items level (fields.map fun f => field f.1 f.2) ++ "\x7d"

/-- An array with some elements. -/
def array (level : Nat) (elements : List String) : String :=
  if elements.isEmpty then "[]" else "[" ++ items level elements ++ "]"

/-- The text of some pieces. -/
def pieceText (pieces : List JsonPiece) : String := String.join (pieces.map JsonPiece.text)

@[simp] theorem pieceText_nil : pieceText [] = "" := rfl

@[simp] theorem pieceText_word (s : String) (pieces : List JsonPiece) :
    pieceText (.word s :: pieces) = s ++ pieceText pieces := by
  simp [pieceText, JsonPiece.text]

@[simp] theorem pieceText_newline (level : Nat) (pieces : List JsonPiece) :
    pieceText (.newline level :: pieces) = lineBreak level ++ pieceText pieces := by
  simp [pieceText, lineBreak]

/-- Separated texts are the first one and then each other one behind a separator. -/
theorem intercalate_cons (separator text : String) (texts : List String) :
    separator.intercalate (text :: texts) =
      text ++ String.join (texts.map (separator ++ ·)) := by
  induction texts generalizing text with
  | nil => simp
  | cons text' texts ih =>
    rw [String.intercalate_cons_cons, ih, List.map_cons, String.join_cons]
    simp only [String.append_assoc]

end JsonLayout

namespace Action

open JsonLayout

mutual

/-- The JSON document of the action at a level. -/
def jsonDocument (level : Nat) : Action → String
  | .moveForward => object level [("type", "\"move_forward\"")]
  | .turnLeft => object level [("type", "\"turn_left\"")]
  | .turnRight => object level [("type", "\"turn_right\"")]
  | .sequence as =>
    object level
      [("type", "\"sequence\""), ("actions", array (level + 1) (jsonDocuments (level + 2) as))]
  | .repeated n a =>
    object level
      [("type", "\"repeat\""), ("count", n.toNat.repr), ("action", jsonDocument (level + 1) a)]

/-- The JSON documents of some actions at a level. -/
def jsonDocuments (level : Nat) : List Action → List String
  | [] => []
  | a :: as => jsonDocument level a :: jsonDocuments level as

end

/-! ### The document of an action -/

/-- The fields of a sequence, as they are written. -/
theorem object_sequence (level : Nat) (actions : String) :
    object level [("type", "\"sequence\""), ("actions", actions)] =
      "\x7b" ++ lineBreak (level + 1) ++ "\"type\": \"sequence\"," ++ lineBreak (level + 1) ++
        "\"actions\": " ++ actions ++ lineBreak level ++ "\x7d" := by
  apply String.toList_inj.1
  simp [object, items, field, intercalate_cons]

/-- The fields of a repetition, as they are written. -/
theorem object_repeat (level : Nat) (count action : String) :
    object level [("type", "\"repeat\""), ("count", count), ("action", action)] =
      "\x7b" ++ lineBreak (level + 1) ++ "\"type\": \"repeat\"," ++ lineBreak (level + 1) ++
        "\"count\": " ++ count ++ "," ++ lineBreak (level + 1) ++ "\"action\": " ++ action ++
        lineBreak level ++ "\x7d" := by
  apply String.toList_inj.1
  simp [object, items, field, intercalate_cons]

theorem array_nil (level : Nat) : array level [] = "[]" := rfl

theorem array_cons (level : Nat) (element : String) (elements : List String) :
    array level (element :: elements) =
      "[" ++ lineBreak (level + 1) ++ element ++
        String.join (elements.map ("," ++ lineBreak (level + 1) ++ ·)) ++ lineBreak level ++
        "]" := by
  simp [array, items, intercalate_cons, Function.comp_def, String.append_assoc]

mutual

/-- The pieces of an action put together are its document. -/
theorem pieceText_jsonPieces (level : Nat) (tail : List JsonPiece) : (a : Action) →
    pieceText (jsonPieces level a tail) = jsonDocument level a ++ pieceText tail
  | .moveForward => by
    simp [jsonPieces, jsonLeaf, jsonDocument, object, items, field, String.append_assoc]
  | .turnLeft => by
    simp [jsonPieces, jsonLeaf, jsonDocument, object, items, field, String.append_assoc]
  | .turnRight => by
    simp [jsonPieces, jsonLeaf, jsonDocument, object, items, field, String.append_assoc]
  | .sequence [] => by
    -- the brackets of an empty array stand in one line
    rw [jsonPieces, jsonElements, jsonDocument, jsonDocuments, object_sequence, array_nil]
    apply String.toList_inj.1
    simp
  | .sequence (a :: as) => by
    -- the first element has no comma in front of it
    rw [jsonPieces, jsonElements, jsonDocument, jsonDocuments, object_sequence, array_cons]
    apply String.toList_inj.1
    simp [pieceText_jsonPieces (level + 2) _ a, pieceText_jsonElements level _ as, Nat.add_assoc]
  | .repeated n a => by
    rw [jsonPieces, jsonDocument, object_repeat]
    simp [pieceText_jsonPieces (level + 1) _ a, String.append_assoc]

/-- The pieces of the elements behind the first one, put together. -/
theorem pieceText_jsonElements (level : Nat) (tail : List JsonPiece) : (as : List Action) →
    pieceText (jsonElements level false as tail) =
      String.join ((jsonDocuments (level + 2) as).map ("," ++ lineBreak (level + 2) ++ ·)) ++
        lineBreak (level + 1) ++ pieceText tail
  | [] => by simp [jsonElements, jsonDocuments]
  | a :: as => by
    simp [jsonElements, jsonDocuments, String.append_assoc, pieceText_jsonPieces (level + 2) _ a,
      pieceText_jsonElements level _ as]

end

/-- The JSON document that is written for an action is the one laid out by the rules. -/
theorem jsonText_eq_jsonDocument (a : Action) : a.jsonText = jsonDocument 0 a := by
  have h := pieceText_jsonPieces 0 [] a
  rw [pieceText_nil, String.append_empty] at h
  exact h

end Action

end RobotScript
