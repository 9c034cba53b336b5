import Mathlib.Data.List.Forall2
import RobotScript.Proofs.Action.Interpreter
import RobotScript.Proofs.Action.Printing
import RobotScript.Proofs.Parser.Grammar
import RobotScript.Proofs.Text.Layout

/-! # Reading a printed action

    The text of an action is a program, and reading it gives the normal form of
    the action.  Every line of the text is read as exactly one token, whatever
    its indentation, so the tokens of the text are those that write the action,
    and the grammar does the rest.

    Two actions therefore have the same text if and only if they have the same
    normal form, and the robot cannot tell an action from what is read back. -/

namespace RobotScript

universe u

/-! ### Lines and tokens -/

namespace Line

/-- The characters of a line without its line end. -/
def chars (l : Line) : List Char := List.replicate l.padding ' ' ++ l.command.toList

theorem toList_text (l : Line) : l.text.toList = l.chars ++ ['\n'] := by
  simp [text, chars]

/-- The line has no line end inside it, and it is read as one token of the kind `k`. -/
structure Writes (l : Line) (k : TokenKind) : Prop where
  unbroken : ∀ c ∈ l.chars, c ≠ '\n' ∧ c ≠ '\r'
  lineKinds_eq : lineKinds l.chars = [k]

/-- A character that is no blank does not end a line. -/
theorem ne_of_not_blank {c : Char} (h : isBlank c = false) : c ≠ '\n' ∧ c ≠ '\r' := by
  constructor
  · rintro rfl
    rw [isBlank_newline] at h
    cases h
  · rintro rfl
    rw [isBlank_carriage_return] at h
    cases h

/-- The blanks in front of a line do not end it. -/
theorem unbroken_of_command {d : Nat} {command : String}
    (h : ∀ c ∈ command.toList, c = ' ' ∨ isBlank c = false) :
    ∀ c ∈ chars ⟨d, command⟩, c ≠ '\n' ∧ c ≠ '\r' := by
  intro c hc
  rcases List.mem_append.1 hc with hpad | hcommand
  · rw [List.eq_of_mem_replicate hpad]
    decide
  · rcases h c hcommand with rfl | hblank
    · decide
    · exact ne_of_not_blank hblank

theorem isBlank_of_mem_padding {n : Nat} : ∀ c ∈ List.replicate n ' ', isBlank c = true := by
  intro c hc
  rw [List.eq_of_mem_replicate hc]
  rfl

/-- A line with one word is read as the token of that word. -/
theorem writes_single (d : Nat) {word : String} {k : TokenKind} (hword : IsWord word.toList)
    (hkind : (WordGroup.single ⟨word.toList, []⟩).kind = k) : Writes ⟨d, word⟩ k where
  unbroken := unbroken_of_command fun c hc => .inr (hword.not_blank c hc)
  lineKinds_eq := by
    rw [lineKinds, chars, Spaced.words_single isBlank_of_mem_padding hword]
    exact congrArg (· :: []) hkind

/-- A line with two words that belong together is read as the token of the two. -/
theorem writes_pair (d : Nat) {first second : String} {k : TokenKind}
    (hfirst : IsWord first.toList) (hsecond : IsWord second.toList)
    (hfuses : WordGroup.fuses ⟨first.toList, [' ']⟩ ⟨second.toList, []⟩ = true)
    (hkind : (WordGroup.pair ⟨first.toList, [' ']⟩ ⟨second.toList, []⟩).kind = k) :
    Writes ⟨d, first ++ " " ++ second⟩ k := by
  have hcommand : (first ++ " " ++ second).toList = first.toList ++ ' ' :: second.toList := by simp
  refine ⟨unbroken_of_command fun c hc => ?_, ?_⟩
  · -- the only blank of the command is the one between its words
    rw [hcommand, List.mem_append, List.mem_cons] at hc
    rcases hc with hc | hc | hc
    · exact .inr (hfirst.not_blank c hc)
    · exact .inl hc
    · exact .inr (hsecond.not_blank c hc)
  · rw [lineKinds, chars, hcommand, Spaced.words_pair isBlank_of_mem_padding hfirst hsecond,
      WordGroup.ofWords, if_pos hfuses]
    exact congrArg (· :: []) hkind

end Line

/-- A number that is written out is one word. -/
theorem isWord_repr (n : Nat) : IsWord n.repr.toList := by
  rw [Nat.toList_repr]
  refine ⟨Nat.toDigits_ne_nil, ?_⟩
  intro c hc
  have hdigit := Nat.isDigit_of_mem_toDigits (by decide) (by decide) hc
  rw [Char.isDigit_iff_toNat] at hdigit
  obtain ⟨hlow, hhigh⟩ := hdigit
  change 48 ≤ c.toNat at hlow
  change c.toNat ≤ 57 at hhigh
  simp only [isBlank, Bool.or_eq_false_iff, Bool.and_eq_false_iff, decide_eq_false_iff_not,
    beq_eq_false_iff_ne]
  omega

namespace Action

/-! ### The tokens of a text -/

theorem writes_repeatStart (d : Nat) (n : UInt32) :
    Line.Writes ⟨d, Command.repeatStart n⟩ (.repeatStart (some n)) := by
  have hword : Word.is ⟨Keyword.repetition.toList, [' ']⟩ Keyword.repetition = true := by decide
  refine Line.writes_pair d (by decide) (isWord_repr _) rfl ?_
  rw [WordGroup.kind, if_pos hword, repeatCount?_repr]

theorem writes_repeatEnd (d : Nat) : Line.Writes ⟨d, Command.repeatEnd⟩ .repeatEnd :=
  Line.writes_pair d (by decide) (by decide) (by decide) (by decide)

mutual

/-- Every line of an action is read as one token, and these are the tokens of the action. -/
theorem forall₂_writes_lines : (d : Nat) → (a : Action) →
    List.Forall₂ Line.Writes (lines d a) (kinds a)
  | d, .moveForward => .cons (Line.writes_single d (by decide) (by decide)) .nil
  | d, .turnLeft => .cons (Line.writes_single d (by decide) (by decide)) .nil
  | d, .turnRight => .cons (Line.writes_single d (by decide) (by decide)) .nil
  | d, .sequence as => forall₂_writes_linesOfList d as
  | d, .repeated n a =>
    .cons (writes_repeatStart d n)
      (List.rel_append (forall₂_writes_lines (d + 1) a) (.cons (writes_repeatEnd d) .nil))

theorem forall₂_writes_linesOfList : (d : Nat) → (as : List Action) →
    List.Forall₂ Line.Writes (linesOfList d as) (kindsOfList as)
  | _, [] => .nil
  | d, a :: as => List.rel_append (forall₂_writes_lines d a) (forall₂_writes_linesOfList d as)

end

/-- The characters of some lines that are written one after the other. -/
theorem toList_join_text (ls : List Line) :
    (String.join (ls.map Line.text)).toList =
      (ls.map Line.chars).flatMap fun cs => cs ++ ['\n'] := by
  rw [String.toList_join, List.flatMap_map, List.flatMap_map]
  simp only [Line.toList_text]

/-- Lines that are each read as a token are read as these tokens when they are written one after
    the other. -/
theorem map_kind_ofText_join {ls : List Line} {ks : List TokenKind}
    (h : List.Forall₂ Line.Writes ls ks) :
    (Token.ofText (String.join (ls.map Line.text))).map Token.kind = ks := by
  -- the lines that were joined are the lines of the text
  have hunbroken : ∀ cs ∈ ls.map Line.chars, ∀ c ∈ cs, c ≠ '\n' ∧ c ≠ '\r' := by
    induction h with
    | nil => simp
    | cons hline _ ih =>
      intro cs hcs
      rcases List.mem_cons.1 hcs with rfl | htail
      · exact hline.unbroken
      · exact ih cs htail
  rw [Token.map_kind_ofText, toList_join_text, textLines_flatMap _ hunbroken, List.flatMap_map]
  clear hunbroken
  -- and each of them is one token
  induction h with
  | nil => rfl
  | cons hline _ ih => rw [List.flatMap_cons, hline.lineKinds_eq, ih, List.singleton_append]

/-- The text of an action is read as its normal form, if that many blocks may be open at once. -/
theorem parse_text {a : Action} {s : String} {limit : Option Nat} (h : a.text? = some s)
    (hlimit : ∀ most, limit = some most → nesting a ≤ most) :
    Program.parse s limit = .ok (normalize a) := by
  obtain ⟨-, rfl⟩ := (text?_eq_some_iff a s).1 h
  have hkinds := map_kind_ofText_join (forall₂_writes_lines 0 a)
  refine Program.parseTokens_of_isCanonical (isCanonical_normalize a) ?_ ?_
  · rw [kinds_normalize, hkinds]
  · -- a normal form is nested as deep as its action
    rw [nesting_normalize]
    exact hlimit

/-- Actions with the same normal form have the same text. -/
theorem text?_eq_of_normalize_eq {a b : Action} (h : normalize a = normalize b) :
    a.text? = b.text? := by
  have hlines : a.listing = b.listing := by
    rw [listing_eq_lines, listing_eq_lines, ← lines_normalize, h, lines_normalize]
  rw [text?, text?, hlines]

/-- An action whose lines can all be padded has a text.  What is read back is its normal form, which
    does the same to every robot, and two texts are the same if and only if the normal forms are. -/
theorem parse_text_eq_normalize (a : Action) (hfits : ∀ l ∈ a.lines 0, l.Fits) :
    ∃ s, a.text? = some s ∧ Program.parse s none = .ok (normalize a) ∧
      (∀ (σ : Type u) (robot : Robot σ) (state : σ),
        (normalize a).apply robot state = a.apply robot state) ∧
      ∀ b t, b.text? = some t → (s = t ↔ normalize a = normalize b) := by
  obtain ⟨s, hs⟩ : ∃ s, a.text? = some s := ⟨_, (text?_eq_some_iff a _).2 ⟨hfits, rfl⟩⟩
  have hparse : Program.parse s none = .ok (normalize a) :=
    parse_text hs fun _ hlimit => by cases hlimit
  refine ⟨s, hs, hparse, fun σ robot state => apply_normalize_eq robot a state, ?_⟩
  intro b t ht
  constructor
  · -- one text is read as one tree
    rintro rfl
    have hparse' : Program.parse s none = .ok (normalize b) :=
      parse_text ht fun _ hlimit => by cases hlimit
    exact Except.ok.inj (hparse.symm.trans hparse')
  · -- a normal form has the lines of its action
    intro hnormal
    have htexts := text?_eq_of_normalize_eq hnormal
    rw [hs, ht] at htexts
    exact Option.some.inj htexts

/-- A sequence inside a sequence is gone when its text is read, and the body of a repetition has
    become a sequence. -/
theorem parse_text_nested_sequence :
    let a : Action := .repeated 2 (.sequence [.sequence [], .repeated 4294967295 .turnLeft])
    (∀ l ∈ a.lines 0, l.Fits) ∧
    ∃ s, a.text? = some s ∧
      Program.parse s none =
        .ok (.sequence [.repeated 2 (.sequence [.repeated 4294967295 (.sequence [.turnLeft])])]) := by
  intro a
  have hfits : ∀ l ∈ a.lines 0, l.Fits := by decide
  obtain ⟨s, hs, hparse, -⟩ := parse_text_eq_normalize.{0} a hfits
  exact ⟨hfits, s, hs, hparse⟩

end Action
end RobotScript
