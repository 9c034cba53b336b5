import RobotScript.Proofs.Text.Pieces
import RobotScript.Token

/-! # Where tokens stand

    A text has the tokens of the pieces between its line feeds: carriage
    returns and the end of the text make no difference (`ofText_eq_ofLines`).
    So two texts with a line feed between them have the tokens of the first and
    then those of the second, further down (`ofText_append_newline`).

    The tokens of a text stand in order, and no two of them at one place
    (`pairwise_before_ofText`). -/

namespace RobotScript

/-! ### Places -/

namespace Position

/-- The place `k` lines further down. -/
def lower (k : Nat) (p : Position) : Position := { p with line := p.line + k }

/-- Does the place `p` come before `q` when a text is read line by line? -/
def Before (p q : Position) : Prop :=
  p.line < q.line ∨ (p.line = q.line ∧ p.column < q.column)

end Position

namespace Token

/-- The token with another text, at another place. -/
def relabel (text : String → String) (place : Position → Position) (t : Token) : Token :=
  { t with text := text t.text, position := place t.position }

/-- The token `k` lines further down. -/
def lower (k : Nat) (t : Token) : Token := t.relabel id (Position.lower k)

end Token

/-! ### Groups of words -/

namespace WordGroup

/-- Words that fuse are one group, in front of the groups of the other words. -/
theorem ofWords_of_fuses {w v : Word} (h : fuses w v = true) (more : List Word) :
    ofWords (w :: v :: more) = pair w v :: ofWords more := by
  rw [ofWords, if_pos h]

/-- A word that does not take the next one is a group on its own. -/
theorem ofWords_of_not_fuses {w v : Word} (h : ¬ fuses w v = true) (more : List Word) :
    ofWords (w :: v :: more) = single w :: ofWords (v :: more) := by
  rw [ofWords, if_neg h]

/-- The words of a group. -/
def words : WordGroup → List Word
  | single w => [w]
  | pair w v => [w, v]

/-- Grouping the words of a line loses none of them. -/
@[simp] theorem flatMap_words_ofWords (ws : List Word) : (ofWords ws).flatMap words = ws := by
  fun_induction ofWords ws with
  | case1 => rfl
  | case2 w => rfl
  | case3 w v more _ ih => rw [List.flatMap_cons, ih]; rfl
  | case4 w v more _ ih => rw [List.flatMap_cons, ih]; rfl

theorem mem_of_mem_words {ws : List Word} {g : WordGroup} (hg : g ∈ ofWords ws) {w : Word}
    (hw : w ∈ g.words) : w ∈ ws := by
  rw [← flatMap_words_ofWords ws]
  exact List.mem_flatMap.2 ⟨g, hg, hw⟩

/-! ### The end of a line -/

/-- The blanks behind the last word of a line change nothing about its tokens. -/
theorem place_ofWords_padLast (line column : Nat) (blanks : List Char) (ws : List Word) :
    place line column (ofWords (Word.padLast blanks ws)) = place line column (ofWords ws) := by
  fun_induction ofWords ws generalizing column with
  | case1 => rfl
  | case2 w => rfl
  | case3 w v more hfuses ih =>
    cases more with
    | nil =>
      -- the gap that grows is the one behind the pair
      have hfuses' : fuses w ⟨v.text, v.gap ++ blanks⟩ = true := hfuses
      rw [Word.padLast, Word.padLast, ofWords_of_fuses hfuses']
      rfl
    | cons u more =>
      rw [Word.padLast, Word.padLast, ofWords_of_fuses hfuses, place, place, ih]
  | case4 w v more hfuses ih =>
    have hpad : ∃ v' more', Word.padLast blanks (v :: more) = v' :: more' ∧ v'.text = v.text := by
      cases more with
      | nil => exact ⟨_, _, rfl, rfl⟩
      | cons u more => exact ⟨_, _, rfl, rfl⟩
    obtain ⟨v', more', hv, htext⟩ := hpad
    have hfuses' : ¬ fuses w v' = true := by
      simpa only [fuses, Word.is, htext] using hfuses
    rw [Word.padLast, hv, ofWords_of_not_fuses hfuses', place, place, ← hv, ih]

end WordGroup

namespace Token

/-- The blanks at the end of a line change nothing about its tokens. -/
theorem ofLineChars_append_blanks (line : Nat) (cs : List Char) {blanks : List Char}
    (h : ∀ c ∈ blanks, isBlank c = true) :
    ofLineChars line (cs ++ blanks) = ofLineChars line cs := by
  have hblanks := Spaced.ofChars_blanks h
  have hatGap : (Spaced.ofChars blanks).AtGap := by
    rw [hblanks]
    exact fun _ => rfl
  unfold ofLineChars
  rw [Spaced.ofChars_append cs hatGap, hblanks]
  generalize Spaced.ofChars cs = s
  obtain ⟨lead, words⟩ := s
  cases words with
  | nil => rfl
  | cons w more => simp only [Spaced.append, List.append_nil, WordGroup.place_ofWords_padLast]

/-! ### Lines -/

@[simp] theorem ofLines_cons (first : Nat) (line : List Char) (lines : List (List Char)) :
    ofLines first (line :: lines) = ofLineChars first line ++ ofLines (first + 1) lines := by
  rw [ofLines, List.zipIdx_cons, List.flatMap_cons]
  rfl

theorem ofLines_append (first : Nat) (lines more : List (List Char)) :
    ofLines first (lines ++ more) =
      ofLines first lines ++ ofLines (first + lines.length) more := by
  induction lines generalizing first with
  | nil => rfl
  | cons line lines ih =>
    have hnumber : first + 1 + lines.length = first + (line :: lines).length := by
      rw [List.length_cons]
      omega
    rw [List.cons_append, ofLines_cons, ofLines_cons, ih, List.append_assoc, hnumber]

theorem place_add_line (line column k : Nat) (groups : List WordGroup) :
    WordGroup.place (line + k) column groups =
      (WordGroup.place line column groups).map (lower k) := by
  induction groups generalizing column with
  | nil => rfl
  | cons g groups ih =>
    rw [WordGroup.place, WordGroup.place, List.map_cons, ih]
    rfl

/-- Lines that stand further down have the same tokens further down. -/
theorem ofLines_add (first k : Nat) (lines : List (List Char)) :
    ofLines (first + k) lines = (ofLines first lines).map (lower k) := by
  induction lines generalizing first with
  | nil => rfl
  | cons line lines ih =>
    have hline : ofLineChars (first + k) line = (ofLineChars first line).map (lower k) :=
      place_add_line first _ k _
    rw [ofLines_cons, ofLines_cons, List.map_append, hline, Nat.add_right_comm, ih]

/-- The lines of a text have the tokens of what stands between its line feeds. -/
theorem ofLines_eq_of_pieced {lines pieces : List (List Char)} (h : Pieced lines pieces)
    (first : Nat) : ofLines first lines = ofLines first pieces := by
  induction h generalizing first with
  | done => rfl
  | last line => rfl
  | ended line _ ih => rw [ofLines_cons, ofLines_cons, ih]
  | endedReturn line _ ih =>
    have hreturn : ∀ c ∈ ['\r'], isBlank c = true := List.forall_mem_singleton.2 rfl
    rw [ofLines_cons, ofLines_cons, ih, ofLineChars_append_blanks first line hreturn]

/-! ### Texts -/

/-- The tokens of a text are those of what stands between its line feeds. -/
theorem ofText_eq_ofLines (text : String) :
    ofText text = ofLines 1 (text.toList.splitOn '\n') :=
  ofLines_eq_of_pieced (pieced_textLines text.toList) 1

theorem length_splitOn (c : Char) (cs : List Char) :
    (cs.splitOn c).length = 1 + cs.count c := by
  induction cs with
  | nil => rfl
  | cons d cs ih =>
    rw [List.splitOn_cons_eq_if_modifyHead, List.count_cons]
    split
    · rw [List.length_cons, ih]
      omega
    · rw [List.length_modifyHead, ih, Nat.add_zero]

/-- The tokens of two texts with a line feed between them. -/
theorem ofText_append_newline (a b : String) :
    ofText (a ++ "\n" ++ b) =
      ofText a ++ (ofText b).map (lower (1 + a.toList.count '\n')) := by
  have hchars : (a ++ "\n" ++ b).toList = a.toList ++ '\n' :: b.toList := by simp
  rw [ofText_eq_ofLines, hchars, List.splitOn_append_cons_self, ofLines_append, length_splitOn,
    ofLines_add, ← ofText_eq_ofLines, ← ofText_eq_ofLines]

/-! ### The order of the tokens -/

/-- No token of a line is empty, as no word is. -/
theorem text_ne_nil_of_mem_ofWords {ws : List Word} (h : ∀ w ∈ ws, w.text ≠ []) :
    ∀ g ∈ WordGroup.ofWords ws, g.text ≠ [] := by
  intro g hg
  cases g with
  | single w => exact h w (WordGroup.mem_of_mem_words hg List.mem_cons_self)
  | pair w v =>
    have hw := h w (WordGroup.mem_of_mem_words hg List.mem_cons_self)
    simp [WordGroup.text, hw]

/-- The tokens of a line stand in that line, none of them before the first column. -/
theorem position_of_mem_place {line column : Nat} {groups : List WordGroup} :
    ∀ t ∈ WordGroup.place line column groups,
      t.position.line = line ∧ column ≤ t.position.column := by
  induction groups generalizing column with
  | nil => exact nofun
  | cons g groups ih =>
    intro t ht
    rcases List.mem_cons.1 ht with rfl | ht
    · exact ⟨rfl, Nat.le_refl column⟩
    · obtain ⟨hline, hcolumn⟩ := ih t ht
      exact ⟨hline, by omega⟩

theorem pairwise_before_place (line column : Nat) {groups : List WordGroup}
    (h : ∀ g ∈ groups, g.text ≠ []) :
    (WordGroup.place line column groups).Pairwise fun s t => s.position.Before t.position := by
  induction groups generalizing column with
  | nil => exact .nil
  | cons g groups ih =>
    refine .cons ?_ (ih _ fun g' hg' => h g' (List.mem_cons_of_mem g hg'))
    intro t ht
    -- the next token begins behind the characters of this one
    obtain ⟨hline, hcolumn⟩ := position_of_mem_place t ht
    have hlength := List.length_pos_iff.2 (h g List.mem_cons_self)
    exact .inr ⟨hline.symm, by show column < _; omega⟩

theorem line_of_mem_ofLines {first : Nat} {lines : List (List Char)} :
    ∀ t ∈ ofLines first lines, first ≤ t.position.line := by
  induction lines generalizing first with
  | nil => exact nofun
  | cons line lines ih =>
    intro t ht
    rw [ofLines_cons] at ht
    rcases List.mem_append.1 ht with ht | ht
    · exact Nat.le_of_eq (position_of_mem_place t ht).1.symm
    · exact Nat.le_of_succ_le (ih t ht)

theorem pairwise_before_ofLines (first : Nat) (lines : List (List Char)) :
    (ofLines first lines).Pairwise fun s t => s.position.Before t.position := by
  induction lines generalizing first with
  | nil => exact .nil
  | cons line lines ih =>
    have hwords : ∀ w ∈ (Spaced.ofChars line).words, w.text ≠ [] := fun w hw =>
      ((Spaced.regular_ofChars line).isWord w hw).ne_nil
    rw [ofLines_cons]
    refine List.pairwise_append.2
      ⟨pairwise_before_place first _ (text_ne_nil_of_mem_ofWords hwords), ih (first + 1), ?_⟩
    -- a token of a later line
    intro s hs t ht
    have hs := (position_of_mem_place s hs).1
    have ht := line_of_mem_ofLines t ht
    exact .inl (by omega)

/-- Every token of a text stands before all tokens that come after it. -/
theorem pairwise_before_ofText (text : String) :
    (ofText text).Pairwise fun s t => s.position.Before t.position :=
  pairwise_before_ofLines 1 _

end Token
end RobotScript
