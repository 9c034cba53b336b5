import Mathlib.Data.List.Chain
import RobotScript.Proofs.Text.Layout
import RobotScript.Text

/-! # Texts taken apart

    What the lines and the words of a text are, said without the loop that
    finds them. -/

namespace RobotScript

/-! ## Texts in pieces

    Two texts with a line end between them have the lines of the first and then
    those of the second, apart from two things that hold no words: a carriage
    return at the end of a line, and an empty last line.  `Pieced` says this of
    the lines of a text and of what stands between its line feeds, which has no
    exceptions to make.

    In the same way the words of two texts with a blank between them are the
    words of the first and then those of the second (`texts_append_blank`). -/

/-! ### Lines -/

/-- The first list has the lines of a text, the second what stands between its line feeds. -/
inductive Pieced : List (List Char) → List (List Char) → Prop where
  /-- Nothing stands behind the last line end. -/
  | done : Pieced [] [[]]
  /-- The last line has no line end. -/
  | last (line : List Char) : Pieced [line] [line]
  /-- A line that ends with a line feed. -/
  | ended (line : List Char) {lines pieces : List (List Char)} (h : Pieced lines pieces) :
      Pieced (line :: lines) (line :: pieces)
  /-- A line that ends with a carriage return and a line feed. -/
  | endedReturn (line : List Char) {lines pieces : List (List Char)} (h : Pieced lines pieces) :
      Pieced (line :: lines) ((line ++ ['\r']) :: pieces)

/-- A character in front of the text belongs to its first line and its first piece. -/
theorem Pieced.extend {lines pieces : List (List Char)} (h : Pieced lines pieces) (c : Char) :
    Pieced (LineSplit.extend c lines) (pieces.modifyHead (c :: ·)) := by
  cases h with
  | done => exact .last [c]
  | last line => exact .last (c :: line)
  | ended line h => exact .ended (c :: line) h
  | endedReturn line h => exact .endedReturn (c :: line) h

/-- If the text begins with a line feed, a carriage return in front of it belongs to the piece
    but not to the line. -/
theorem Pieced.cons_return {lines pieces : List (List Char)} (hpieces : pieces ≠ [])
    (h : Pieced ([] :: lines) ([] :: pieces)) : Pieced ([] :: lines) (['\r'] :: pieces) := by
  cases h with
  | last => exact absurd rfl hpieces
  | ended _ h => exact .endedReturn [] h

theorem LineSplit.atNewline_cons (c : Char) (s : LineSplit) :
    (cons c s).atNewline = (c == '\n') := by
  unfold cons
  split
  · rename_i hc
    simp [hc]
  · rename_i hc
    split
    · simp [hc]
    · simp [hc]

/-- The lines of a text are what stands between its line feeds. -/
theorem pieced_textLines (cs : List Char) : Pieced (textLines cs) (cs.splitOn '\n') := by
  induction cs with
  | nil => exact .done
  | cons c cs ih =>
    unfold textLines at ih ⊢
    rw [LineSplit.ofChars_cons, List.splitOn_cons_eq_if_modifyHead]
    by_cases hc : c = '\n'
    · subst hc
      exact .ended [] ih
    · rw [if_neg (by simpa using hc), LineSplit.cons, if_neg hc]
      split
      · -- the carriage return of a line end, so the text goes on with a line feed
        rename_i hend
        obtain ⟨rfl, hnewline⟩ := hend
        cases cs with
        | nil => cases hnewline
        | cons d cs =>
          rw [LineSplit.ofChars_cons, LineSplit.atNewline_cons] at hnewline
          obtain rfl : d = '\n' := by simpa using hnewline
          exact ih.cons_return (List.splitOn_ne_nil '\n' cs)
      · exact ih.extend c

/-! ### Words -/

/-- Put blanks behind the last word. -/
def Word.padLast (blanks : List Char) : List Word → List Word
  | [] => []
  | [w] => [⟨w.text, w.gap ++ blanks⟩]
  | w :: v :: more => w :: padLast blanks (v :: more)

@[simp] theorem Word.map_text_padLast (blanks : List Char) (ws : List Word) :
    (padLast blanks ws).map text = ws.map text := by
  fun_induction padLast blanks ws with
  | case1 => rfl
  | case2 w => rfl
  | case3 w v more ih => rw [List.map_cons, ih, List.map_cons, List.map_cons, List.map_cons]

namespace Spaced

/-- The texts of the words of a line. -/
def texts (s : Spaced) : List (List Char) := s.words.map Word.text

/-- One line behind the other.  No word is made of two if the second line begins with a gap. -/
def append (s t : Spaced) : Spaced :=
  match s.words with
  | [] => ⟨s.lead ++ t.lead, t.words⟩
  | w :: more => ⟨s.lead, Word.padLast t.lead (w :: more) ++ t.words⟩

/-- A character in front of the first of two lines is a character in front of both. -/
theorem cons_append (c : Char) (s : Spaced) {t : Spaced} (ht : t.AtGap) :
    cons c (s.append t) = (cons c s).append t := by
  obtain ⟨lead, words⟩ := s
  cases hc : isBlank c with
  | true =>
    rw [cons_of_blank hc, cons_of_blank hc]
    cases words with
    | nil => rfl
    | cons w more => rfl
  | false =>
    cases lead with
    | nil =>
      cases words with
      | nil =>
        -- nothing stands in front of the second line, so a word begins
        have hword : cons c (append ⟨[], []⟩ t) = ⟨[], ⟨[c], t.lead⟩ :: t.words⟩ :=
          cons_of_atGap hc ht
        rw [hword, cons_of_atGap hc fun _ => rfl]
        rfl
      | cons w more =>
        rw [cons_of_word hc]
        cases more with
        | nil => exact cons_of_word hc _ _
        | cons v more => exact cons_of_word hc _ _
    | cons d lead =>
      rw [cons_of_atGap (s := ⟨d :: lead, words⟩) hc nofun]
      cases words with
      | nil => exact cons_of_atGap hc nofun
      | cons w more => exact cons_of_atGap hc nofun

/-- A line that begins with a gap can be put behind any other. -/
theorem ofChars_append (cs : List Char) {ds : List Char} (hds : (ofChars ds).AtGap) :
    ofChars (cs ++ ds) = (ofChars cs).append (ofChars ds) := by
  induction cs with
  | nil => rfl
  | cons c cs ih => rw [List.cons_append, ofChars_cons, ih, cons_append c _ hds, ofChars_cons]

theorem texts_append (s t : Spaced) : (s.append t).texts = s.texts ++ t.texts := by
  obtain ⟨lead, words⟩ := s
  cases words with
  | nil => rfl
  | cons w more => simp [append, texts]

/-- There are no words in blanks. -/
theorem ofChars_blanks {blanks : List Char} (h : ∀ c ∈ blanks, isBlank c = true) :
    ofChars blanks = ⟨blanks, []⟩ := by
  have hend := ofChars_blanks_append blanks [] h
  rw [List.append_nil] at hend
  rw [hend, ofChars_nil, empty, List.append_nil]

theorem atGap_cons_blank {c : Char} (hc : isBlank c = true) (cs : List Char) :
    (ofChars (c :: cs)).AtGap := by
  rw [ofChars_cons, cons_of_blank hc]
  intro hlead
  cases hlead

theorem atGap_of_head {cs : List Char} (h : ∀ c ∈ cs.head?, isBlank c = true) :
    (ofChars cs).AtGap := by
  cases cs with
  | nil => exact fun _ => rfl
  | cons c cs => exact atGap_cons_blank (h c rfl) cs

/-- The words on both sides of a blank. -/
theorem texts_append_blank {c : Char} (hc : isBlank c = true) (cs ds : List Char) :
    (ofChars (cs ++ c :: ds)).texts = (ofChars cs).texts ++ (ofChars ds).texts := by
  rw [ofChars_append cs (atGap_cons_blank hc ds), texts_append, ofChars_cons, cons_of_blank hc]
  rfl

/-! ### Layouts -/

/-- The words are maximal runs of characters that are no blanks, with blanks between them. -/
structure Regular (s : Spaced) : Prop where
  lead_blank : ∀ c ∈ s.lead, isBlank c = true
  isWord : ∀ w ∈ s.words, IsWord w.text
  gap_blank : ∀ w ∈ s.words, ∀ c ∈ w.gap, isBlank c = true
  /-- Behind every word but the last there is a gap. -/
  apart : s.words.IsChain fun w _ => w.gap ≠ []

theorem Regular.tail {w : Word} {more : List Word} (h : Regular ⟨[], w :: more⟩) :
    Regular ⟨[], more⟩ where
  lead_blank := nofun
  isWord := fun v hv => h.isWord v (List.mem_cons_of_mem w hv)
  gap_blank := fun v hv => h.gap_blank v (List.mem_cons_of_mem w hv)
  apart := h.apart.tail

/-- The words of a regular line are regular without its lead. -/
theorem Regular.withoutLead {s : Spaced} (h : s.Regular) : Regular ⟨[], s.words⟩ :=
  ⟨nofun, h.isWord, h.gap_blank, h.apart⟩

/-- Behind a word a blank follows, or nothing. -/
theorem Regular.head_behind {w : Word} {more : List Word} (h : Regular ⟨[], w :: more⟩) :
    ∀ c ∈ (w.gap ++ more.flatMap Word.chars).head?, isBlank c = true := by
  intro c hc
  cases hgap : w.gap with
  | nil =>
    rw [hgap, List.nil_append] at hc
    cases more with
    | nil => cases hc
    | cons v more => exact absurd hgap (List.isChain_cons_cons.1 h.apart).1
  | cons d gap =>
    rw [hgap, List.cons_append, List.head?_cons, Option.mem_some_iff] at hc
    exact h.gap_blank w List.mem_cons_self c (by rw [hgap, ← hc]; exact List.mem_cons_self)

/-- A character in front of a regular line leaves it regular. -/
theorem Regular.cons {s : Spaced} (h : s.Regular) (c : Char) : (cons c s).Regular := by
  obtain ⟨lead, words⟩ := s
  obtain ⟨hlead, hword, hgap, hapart⟩ := h
  cases hc : isBlank c with
  | true =>
    rw [cons_of_blank hc]
    exact ⟨List.forall_mem_cons.2 ⟨hc, hlead⟩, hword, hgap, hapart⟩
  | false =>
    by_cases hstart : lead = [] ∧ words ≠ []
    · -- the character belongs to the first word
      obtain ⟨rfl, hne⟩ := hstart
      obtain ⟨w, more, rfl⟩ := List.exists_cons_of_ne_nil hne
      obtain ⟨hfirst, hrest⟩ := List.forall_mem_cons.1 hword
      have hlonger : IsWord (c :: w.text) :=
        ⟨nofun, List.forall_mem_cons.2 ⟨hc, hfirst.not_blank⟩⟩
      rw [cons_of_word hc]
      refine ⟨nofun, List.forall_mem_cons.2 ⟨hlonger, hrest⟩,
        List.forall_mem_cons.2 (List.forall_mem_cons.1 hgap), ?_⟩
      cases more with
      | nil => exact .singleton _
      | cons v more => exact List.isChain_cons_cons.2 (List.isChain_cons_cons.1 hapart)
    · -- the character is a word of its own, in front of what was the lead
      have hatGap : AtGap ⟨lead, words⟩ := by
        intro hnil
        by_contra hne
        exact hstart ⟨hnil, hne⟩
      have hletter : IsWord [c] := ⟨nofun, List.forall_mem_singleton.2 hc⟩
      rw [cons_of_atGap hc hatGap]
      refine ⟨nofun, List.forall_mem_cons.2 ⟨hletter, hword⟩,
        List.forall_mem_cons.2 ⟨hlead, hgap⟩, ?_⟩
      cases words with
      | nil => exact .singleton _
      | cons v more =>
        have hne : lead ≠ [] := fun hnil => by cases hatGap hnil
        exact List.isChain_cons_cons.2 ⟨hne, hapart⟩

/-- Every line is taken apart into maximal words. -/
theorem regular_ofChars (cs : List Char) : (ofChars cs).Regular := by
  induction cs with
  | nil => exact ⟨nofun, nofun, nofun, .nil⟩
  | cons c cs ih => exact ih.cons c

/-- Words with gaps between them are found again. -/
theorem ofChars_flatMap_chars {ws : List Word} (h : Regular ⟨[], ws⟩) :
    ofChars (ws.flatMap Word.chars) = ⟨[], ws⟩ := by
  induction ws with
  | nil => rfl
  | cons w more ih =>
    have hbehind := ofChars_blanks_append w.gap (more.flatMap Word.chars)
      (h.gap_blank w List.mem_cons_self)
    rw [ih h.tail, List.append_nil] at hbehind
    rw [List.flatMap_cons, Word.chars, List.append_assoc,
      ofChars_word_append (h.isWord w List.mem_cons_self) (atGap_of_head h.head_behind), hbehind]

end Spaced

/-! ## The rule for lines

    The lines of a text are built from its end backwards.  They are what stands
    between its line feeds, each without a carriage return in front of the line
    feed that ends it, and there is no line behind the last line end of a text
    (`textLines_eq_linesBetween`). -/

/-- What stands in front of a line feed, without one carriage return at its end. -/
def withoutReturn (piece : List Char) : List Char :=
  if piece.getLast? = some '\r' then piece.dropLast else piece

/-- The lines of a text, given what stands between its line feeds. -/
def linesBetween (pieces : List (List Char)) : List (List Char) :=
  pieces.dropLast.map withoutReturn ++ pieces.getLast?.toList.filter (· ≠ [])

theorem linesBetween_cons_cons (piece next : List Char) (more : List (List Char)) :
    linesBetween (piece :: next :: more) = withoutReturn piece :: linesBetween (next :: more) := by
  simp [linesBetween]

/-- A character in front of a text belongs to its first line, unless it is the carriage return of a
    line end. -/
theorem linesBetween_modifyHead {c : Char} {piece : List Char} {more : List (List Char)}
    (h : ¬ (c = '\r' ∧ piece = [] ∧ more ≠ [])) :
    linesBetween ((c :: piece) :: more) = LineSplit.extend c (linesBetween (piece :: more)) := by
  cases more with
  | nil =>
    by_cases hpiece : piece = []
    · subst hpiece
      rfl
    · simp [linesBetween, hpiece, LineSplit.extend]
  | cons next more =>
    rw [linesBetween_cons_cons, linesBetween_cons_cons, LineSplit.extend]
    congr 1
    cases piece with
    | nil =>
      have hc : c ≠ '\r' := fun hc => h ⟨hc, rfl, List.cons_ne_nil _ _⟩
      simp [withoutReturn, hc]
    | cons d piece =>
      unfold withoutReturn
      rw [List.getLast?_cons_cons]
      split
      · rfl
      · rfl

/-- A text starts with a line feed if nothing stands in front of its first one. -/
theorem atNewline_ofChars_iff {cs piece : List Char} {more : List (List Char)}
    (hsplit : cs.splitOn '\n' = piece :: more) :
    (LineSplit.ofChars cs).atNewline = true ↔ piece = [] ∧ more ≠ [] := by
  cases cs with
  | nil =>
    cases hsplit
    exact ⟨nofun, fun h => absurd rfl h.2⟩
  | cons c cs =>
    obtain ⟨next, rest, hrest⟩ := List.exists_cons_of_ne_nil (List.splitOn_ne_nil '\n' cs)
    rw [List.splitOn_cons_eq_if_modifyHead, hrest] at hsplit
    rw [LineSplit.ofChars_cons, LineSplit.atNewline_cons]
    by_cases hc : (c == '\n') = true
    · rw [if_pos hc] at hsplit
      cases hsplit
      simp [hc]
    · rw [if_neg hc] at hsplit
      cases hsplit
      simp [hc]

/-- The lines of a text are what stands between its line feeds, by the rule. -/
theorem textLines_eq_linesBetween (cs : List Char) :
    textLines cs = linesBetween (cs.splitOn '\n') := by
  induction cs with
  | nil => rfl
  | cons c cs ih =>
    obtain ⟨piece, more, hsplit⟩ := List.exists_cons_of_ne_nil (List.splitOn_ne_nil '\n' cs)
    have hatNewline := atNewline_ofChars_iff hsplit
    unfold textLines at ih ⊢
    rw [hsplit] at ih
    rw [LineSplit.ofChars_cons, List.splitOn_cons_eq_if_modifyHead, hsplit]
    unfold LineSplit.cons
    by_cases hnewline : c = '\n'
    · -- the text begins with an empty line
      rw [if_pos hnewline, if_pos (by simpa using hnewline), linesBetween_cons_cons, ← ih]
      rfl
    · have hbeq : ¬ (c == '\n') = true := by simpa using hnewline
      rw [if_neg hnewline, if_neg hbeq, List.modifyHead_cons]
      by_cases hend : c = '\r' ∧ (LineSplit.ofChars cs).atNewline = true
      · -- the carriage return of a line end, behind which the first line is empty
        obtain ⟨rfl, hempty⟩ := hend
        obtain ⟨rfl, hmore⟩ := hatNewline.1 hempty
        obtain ⟨next, rest, rfl⟩ := List.exists_cons_of_ne_nil hmore
        rw [if_pos ⟨rfl, hempty⟩, ih, linesBetween_cons_cons, linesBetween_cons_cons]
        rfl
      · rw [if_neg hend, linesBetween_modifyHead, ih]
        rintro ⟨hc, hline⟩
        exact hend ⟨hc, hatNewline.2 hline⟩

end RobotScript
