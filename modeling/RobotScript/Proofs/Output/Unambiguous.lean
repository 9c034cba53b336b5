import Mathlib.Data.List.Basic
import RobotScript.Proofs.Output.Process

/-! # JSON documents are unambiguous

    The JSON document of a program determines the program, to the last empty
    or nested sequence.  What is shown is that the document can be read from
    its beginning without knowing where it ends: two actions whose documents
    at one level begin two equal texts are the same, and so are the rests of
    the texts (`jsonDocument_inj`).  Each action names its kind first, a count
    ends at a comma, and behind an element of an array stands a comma if
    another one follows, and a line break if none does. -/

namespace RobotScript
namespace Action

open JsonLayout

/-! ### The beginning of a document -/

/-- The name of the kind of an action. -/
def typeName : Action → String
  | .moveForward => "move_forward"
  | .turnLeft => "turn_left"
  | .turnRight => "turn_right"
  | .sequence _ => "sequence"
  | .repeated _ _ => "repeat"

/-- What stands in the document of a repetition behind its count. -/
def jsonBody (level : Nat) (a : Action) : String :=
  lineBreak (level + 1) ++ "\"action\": " ++ jsonDocument (level + 1) a ++ lineBreak level ++ "\x7d"

/-- What stands in the document of an action behind the name of its kind. -/
def jsonFields (level : Nat) : Action → String
  | .moveForward => lineBreak level ++ "\x7d"
  | .turnLeft => lineBreak level ++ "\x7d"
  | .turnRight => lineBreak level ++ "\x7d"
  | .sequence as =>
    "," ++ lineBreak (level + 1) ++ "\"actions\": " ++
      array (level + 1) (jsonDocuments (level + 2) as) ++ lineBreak level ++ "\x7d"
  | .repeated n a =>
    "," ++ lineBreak (level + 1) ++ "\"count\": " ++ n.toNat.repr ++ "," ++ jsonBody level a

/-- Two actions of one kind. -/
inductive SameKind : Action → Action → Prop where
  | moveForward : SameKind .moveForward .moveForward
  | turnLeft : SameKind .turnLeft .turnLeft
  | turnRight : SameKind .turnRight .turnRight
  | sequence (as bs : List Action) : SameKind (.sequence as) (.sequence bs)
  | repeated (n m : UInt32) (a b : Action) : SameKind (.repeated n a) (.repeated m b)

/-- No two kinds have one name. -/
theorem sameKind_of_typeName_eq {a b : Action} (h : a.typeName = b.typeName) : SameKind a b := by
  cases a <;> cases b <;> simp [typeName] at h <;> constructor

/-- A document begins with the name of the kind. -/
theorem jsonDocument_eq (level : Nat) (a : Action) :
    jsonDocument level a =
      "\x7b" ++ lineBreak (level + 1) ++ "\"type\": \"" ++ a.typeName ++ "\"" ++
        a.jsonFields level := by
  apply String.toList_inj.1
  cases a with
  | moveForward => simp [jsonDocument, object, items, field, typeName, jsonFields]
  | turnLeft => simp [jsonDocument, object, items, field, typeName, jsonFields]
  | turnRight => simp [jsonDocument, object, items, field, typeName, jsonFields]
  | sequence as => simp [jsonDocument, object_sequence, typeName, jsonFields]
  | repeated n a => simp [jsonDocument, object_repeat, typeName, jsonFields, jsonBody]

/-- The name of a kind has no quotation mark in it. -/
theorem quote_not_mem_typeName (a : Action) : '"' ∉ a.typeName.toList := by
  cases a <;> simp [typeName]

/-- Two texts that end at the first place where a character occurs are the same if they are so with
    what comes behind them. -/
theorem eq_of_append_cons_eq {c : Char} {xs ys as bs : List Char} (hxs : c ∉ xs) (hys : c ∉ ys)
    (h : xs ++ c :: as = ys ++ c :: bs) : xs = ys ∧ as = bs := by
  -- `List.append_cons_inj_of_notMem` is about a character that does not come again behind the text
  have hlength : xs.length = ys.length := by
    have hindex := congrArg (List.idxOf c) h
    rwa [List.idxOf_append_of_notMem hxs, List.idxOf_append_of_notMem hys, List.idxOf_cons_self,
      List.idxOf_cons_self] at hindex
  obtain ⟨hsame, hrest⟩ := List.append_inj h hlength
  exact ⟨hsame, (List.cons.inj hrest).2⟩

/-- Documents that begin two equal texts are about actions of one kind. -/
theorem sameKind_of_append_eq {level : Nat} {a b : Action} {xs ys : List Char}
    (h : (jsonDocument level a).toList ++ xs = (jsonDocument level b).toList ++ ys) :
    SameKind a b ∧ (jsonFields level a).toList ++ xs = (jsonFields level b).toList ++ ys := by
  have hname : a.typeName.toList ++ '"' :: ((jsonFields level a).toList ++ xs) =
      b.typeName.toList ++ '"' :: ((jsonFields level b).toList ++ ys) := by
    simpa [jsonDocument_eq] using h
  obtain ⟨hname, hfields⟩ :=
    eq_of_append_cons_eq (quote_not_mem_typeName a) (quote_not_mem_typeName b) hname
  exact ⟨sameKind_of_typeName_eq (String.toList_inj.1 hname), hfields⟩

/-! ### Counts -/

/-- A count is read up to the comma behind it. -/
theorem repr_append_comma_inj {n m : UInt32} {xs ys : List Char}
    (h : n.toNat.repr.toList ++ ',' :: xs = m.toNat.repr.toList ++ ',' :: ys) :
    n = m ∧ xs = ys := by
  have hcomma : ∀ k : UInt32, ',' ∉ k.toNat.repr.toList := by
    intro k hmem
    rw [Nat.toList_repr] at hmem
    have hdigit := Nat.isDigit_of_mem_toDigits (by decide) (by decide) hmem
    exact absurd hdigit (by decide)
  obtain ⟨hdigits, hrest⟩ := eq_of_append_cons_eq (hcomma n) (hcomma m) h
  -- a count that is written out is read back
  have hread := repeatCount?_repr n
  rw [hdigits, repeatCount?_repr, Option.some_inj] at hread
  exact ⟨hread.symm, hrest⟩

/-! ### Elements -/

/-- The elements of an array behind the first one, each behind a comma. -/
def moreElements (level : Nat) (as : List Action) : String :=
  String.join ((jsonDocuments level as).map ("," ++ lineBreak level ++ ·))

theorem moreElements_cons (level : Nat) (a : Action) (as : List Action) :
    moreElements level (a :: as) =
      "," ++ lineBreak level ++ jsonDocument level a ++ moreElements level as := by
  simp [moreElements, jsonDocuments]

theorem array_jsonDocuments_cons (level : Nat) (a : Action) (as : List Action) :
    array level (jsonDocuments (level + 1) (a :: as)) =
      "[" ++ lineBreak (level + 1) ++ jsonDocument (level + 1) a ++ moreElements (level + 1) as ++
        lineBreak level ++ "]" := by
  rw [jsonDocuments, array_cons, moreElements]

@[simp] theorem toList_lineBreak (level : Nat) :
    (lineBreak level).toList = '\n' :: List.replicate (2 * level) ' ' := by
  simp [lineBreak, JsonPiece.text]

/-! ### Documents -/

mutual

/-- Actions whose documents begin two equal texts are the same, and so are the rests of the
    texts. -/
theorem jsonDocument_inj (level : Nat) : (a b : Action) → (xs ys : List Char) →
    (jsonDocument level a).toList ++ xs = (jsonDocument level b).toList ++ ys → a = b ∧ xs = ys
  | a, b, xs, ys, h => by
    obtain ⟨hkind, hfields⟩ := sameKind_of_append_eq h
    cases hkind with
    | moveForward => exact ⟨rfl, by simpa [jsonFields] using hfields⟩
    | turnLeft => exact ⟨rfl, by simpa [jsonFields] using hfields⟩
    | turnRight => exact ⟨rfl, by simpa [jsonFields] using hfields⟩
    | sequence as bs =>
      have harray : (array (level + 1) (jsonDocuments (level + 2) as)).toList ++
            ((lineBreak level).toList ++ '}' :: xs) =
          (array (level + 1) (jsonDocuments (level + 2) bs)).toList ++
            ((lineBreak level).toList ++ '}' :: ys) := by
        simpa [jsonFields] using hfields
      obtain ⟨rfl, hrest⟩ := array_jsonDocuments_inj (level + 1) as bs _ _ harray
      exact ⟨rfl, by simpa using hrest⟩
    | repeated n m a b =>
      have hcount : n.toNat.repr.toList ++ ',' :: ((jsonBody level a).toList ++ xs) =
          m.toNat.repr.toList ++ ',' :: ((jsonBody level b).toList ++ ys) := by
        simpa [jsonFields] using hfields
      obtain ⟨rfl, hbody⟩ := repr_append_comma_inj hcount
      have haction : (jsonDocument (level + 1) a).toList ++
            ((lineBreak level).toList ++ '}' :: xs) =
          (jsonDocument (level + 1) b).toList ++ ((lineBreak level).toList ++ '}' :: ys) := by
        simpa [jsonBody] using hbody
      obtain ⟨rfl, hrest⟩ := jsonDocument_inj (level + 1) a b _ _ haction
      exact ⟨rfl, by simpa using hrest⟩

/-- Lists of actions whose arrays begin two equal texts are the same, and so are the rests of the
    texts. -/
theorem array_jsonDocuments_inj (level : Nat) : (as bs : List Action) → (xs ys : List Char) →
    (array level (jsonDocuments (level + 1) as)).toList ++ xs =
      (array level (jsonDocuments (level + 1) bs)).toList ++ ys → as = bs ∧ xs = ys
  | [], [], xs, ys, h => ⟨rfl, List.append_cancel_left h⟩
  -- the bracket of an empty array is closed at once
  | [], b :: bs, xs, ys, h => by simp [jsonDocuments, array_nil, array_cons] at h
  | a :: as, [], xs, ys, h => by simp [jsonDocuments, array_nil, array_cons] at h
  | a :: as, b :: bs, xs, ys, h => by
    have hfirst : (jsonDocument (level + 1) a).toList ++ ((moreElements (level + 1) as).toList ++
          '\n' :: (List.replicate (2 * level) ' ' ++ ']' :: xs)) =
        (jsonDocument (level + 1) b).toList ++ ((moreElements (level + 1) bs).toList ++
          '\n' :: (List.replicate (2 * level) ' ' ++ ']' :: ys)) := by
      simpa [array_jsonDocuments_cons] using h
    obtain ⟨rfl, hmore⟩ := jsonDocument_inj (level + 1) a b _ _ hfirst
    obtain ⟨rfl, hrest⟩ := moreElements_inj (level + 1) as bs _ _ hmore
    exact ⟨rfl, by simpa using hrest⟩

/-- Lists of elements that begin two equal texts are the same if a line break stands behind both,
    and so are the rests of the texts. -/
theorem moreElements_inj (level : Nat) : (as bs : List Action) → (xs ys : List Char) →
    (moreElements level as).toList ++ '\n' :: xs = (moreElements level bs).toList ++ '\n' :: ys →
    as = bs ∧ xs = ys
  | [], [], xs, ys, h => by simpa [moreElements, jsonDocuments] using h
  -- a further element would stand behind a comma
  | [], b :: bs, xs, ys, h => by simp [moreElements, jsonDocuments] at h
  | a :: as, [], xs, ys, h => by simp [moreElements, jsonDocuments] at h
  | a :: as, b :: bs, xs, ys, h => by
    have hfirst : (jsonDocument level a).toList ++ ((moreElements level as).toList ++ '\n' :: xs) =
        (jsonDocument level b).toList ++ ((moreElements level bs).toList ++ '\n' :: ys) := by
      simpa [moreElements_cons] using h
    obtain ⟨rfl, hmore⟩ := jsonDocument_inj level a b _ _ hfirst
    obtain ⟨rfl, hrest⟩ := moreElements_inj level as bs xs ys hmore
    exact ⟨rfl, hrest⟩

end

end Action

/-! ### Printed programs -/

namespace Output

open Sink

/-- A program printed as JSON to a sink without a limit. -/
theorem render_json (failFlush : Bool) (tree : Action) :
    let printed := render writer .program .json tree (.empty none failFlush)
    printed.result = .ok () ∧ printed.out.kept = (tree.jsonDocument 0 ++ "\n").toByteArray := by
  intro printed
  have hprints : Prints .program .json none failFlush (tree.document .program .json) printed :=
    prints_render none failFlush .program .json (fun h => absurd rfl h) fun _ h => by cases h
  obtain ⟨hout, hresult⟩ := hprints
  have htakes := takes_none (tree.document .program .json)
  refine ⟨hresult.trans (if_pos ⟨htakes, by simp⟩), ?_⟩
  rw [hout, kept_offered_of_takes htakes]
  rfl

/-- A program is always printed as JSON if the writer takes everything.  The bytes of one program
    begin those of another only if the two are the same program, and no bytes follow. -/
theorem render_json_determines_program (failFlush : Bool) :
    let printed (tree : Action) := render writer .program .json tree (.empty none failFlush)
    (∀ tree, (printed tree).result = .ok () ∧
      (printed tree).out.kept = (tree.jsonDocument 0 ++ "\n").toUTF8) ∧
    (∀ a b, (printed a).out.kept = (printed b).out.kept ↔ a = b) ∧
    ∀ a b rest, (printed a).out.kept ++ rest = (printed b).out.kept → rest = .empty := by
  intro printed
  have hprefix : ∀ a b rest, (printed a).out.kept ++ rest = (printed b).out.kept → a = b := by
    intro a b rest h
    rw [(render_json failFlush a).2, (render_json failFlush b).2, ← String.utf8Encode_toList,
      ← String.utf8Encode_toList] at h
    -- the bytes of one text begin with those of another only if the texts do so
    obtain ⟨more, hmore⟩ := List.isPrefix_of_utf8Encode_append_eq_utf8Encode rest h
    rw [String.toList_append, String.toList_append, List.append_assoc] at hmore
    exact (Action.jsonDocument_inj 0 a b _ _ hmore).1
  refine ⟨render_json failFlush, ?_, ?_⟩
  · intro a b
    constructor
    · intro h
      exact hprefix a b .empty (by rw [ByteArray.append_empty, h])
    · rintro rfl
      rfl
  · intro a b rest h
    obtain rfl := hprefix a b rest h
    exact (ByteArray.append_right_inj _).1 (h.trans ByteArray.append_empty.symm)

/-- Two programs with the same text, which tell nothing apart but an empty sequence, are printed as
    JSON with different bytes. -/
theorem render_json_determines_empty_sequence :
    (Action.sequence [.sequence []]).text? = (Action.sequence []).text? ∧
      (render writer .program .json (.sequence [.sequence []]) (.empty none true)).out.kept ≠
        (render writer .program .json (.sequence []) (.empty none true)).out.kept := by
  have hdiffer : Action.sequence [.sequence []] ≠ .sequence [] := by decide
  have hiff := (render_json_determines_program true).2.1 (.sequence [.sequence []]) (.sequence [])
  dsimp only at hiff
  refine ⟨Action.text?_eq_of_normalize_eq rfl, ?_⟩
  intro hkept
  exact hdiffer (hiff.1 hkept)

end Output
end RobotScript
