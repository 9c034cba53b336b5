import RobotScript.Proofs.Text.Layout
import RobotScript.Proofs.Token.Place

/-! # Groups and line ends

    The words of a text form the same groups on one line as on several, if no
    line end stands between the two words of a pair
    (`textKinds_chars_of_unbroken`).  In the other direction a text whose tokens
    are all proper has no line end at such a place: the first word of the pair
    would have been a token on its own, which is not proper
    (`textKinds_eq_lineKinds`). -/

namespace RobotScript

/-! ### Proper tokens -/

/-- A token of this kind can stand in a program. -/
def TokenKind.IsProper (k : TokenKind) : Prop := k ≠ .unknown ∧ k ≠ .repeatStart none

namespace WordGroup

/-! ### Kinds and texts -/

theorem is_congr {w w' : Word} (h : w.text = w'.text) : w.is = w'.is := by
  funext keyword
  rw [Word.is, Word.is, h]

theorem kind_single_congr {w w' : Word} (h : w.text = w'.text) :
    (single w).kind = (single w').kind := by
  rw [kind, kind, is_congr h]

theorem kind_pair_congr {w w' v v' : Word} (hw : w.text = w'.text) (hv : v.text = v'.text) :
    (pair w v).kind = (pair w' v').kind := by
  rw [kind, kind, is_congr hw, hv]

theorem fuses_congr {w w' v v' : Word} (hw : w.text = w'.text) (hv : v.text = v'.text) :
    fuses w v = fuses w' v' := by
  rw [fuses, fuses, is_congr hw, is_congr hv]

/-- Words with the same texts form groups of the same kinds. -/
theorem map_kind_ofWords_congr {ws vs : List Word} (h : ws.map Word.text = vs.map Word.text) :
    (ofWords ws).map kind = (ofWords vs).map kind := by
  fun_induction ofWords ws generalizing vs with
  | case1 =>
    rw [List.map_eq_nil_iff.1 h.symm]
    rfl
  | case2 w =>
    obtain ⟨w', rfl, hw⟩ := List.map_eq_singleton_iff.1 h.symm
    exact congrArg (· :: []) (kind_single_congr hw.symm)
  | case3 w v more hfuses ih =>
    obtain ⟨w', vs, rfl, hw, htail⟩ := List.map_eq_cons_iff.1 h.symm
    obtain ⟨v', more', rfl, hv, hmore⟩ := List.map_eq_cons_iff.1 htail
    have hfuses' : fuses w' v' = true := (fuses_congr hw hv).trans hfuses
    rw [ofWords_of_fuses hfuses', List.map_cons, List.map_cons, ih hmore.symm,
      kind_pair_congr hw hv]
  | case4 w v more hfuses ih =>
    obtain ⟨w', vs, rfl, hw, htail⟩ := List.map_eq_cons_iff.1 h.symm
    obtain ⟨v', more', rfl, hv, hmore⟩ := List.map_eq_cons_iff.1 htail
    have hfuses' : ¬ fuses w' v' = true := fuses_congr hw hv ▸ hfuses
    rw [ofWords_of_not_fuses hfuses', List.map_cons, List.map_cons, ih htail.symm,
      kind_single_congr hw]

/-! ### Pairs -/

/-- The words of a pair stand next to each other in the line, and the first takes the second into
    its token. -/
theorem infix_of_pair_mem {ws : List Word} {w v : Word} (hpair : pair w v ∈ ofWords ws) :
    fuses w v = true ∧ [w, v] <:+: ws := by
  fun_induction ofWords ws with
  | case1 => cases hpair
  | case2 u => cases List.mem_singleton.1 hpair
  | case3 u₁ u₂ more hfuses ih =>
    rcases List.mem_cons.1 hpair with heq | hpair
    · cases heq
      exact ⟨hfuses, [], more, rfl⟩
    · obtain ⟨hfuses', hinfix⟩ := ih hpair
      exact ⟨hfuses', List.infix_cons (List.infix_cons hinfix)⟩
  | case4 u₁ u₂ more _ ih =>
    rcases List.mem_cons.1 hpair with heq | hpair
    · cases heq
    · obtain ⟨hfuses', hinfix⟩ := ih hpair
      exact ⟨hfuses', List.infix_cons hinfix⟩

theorem fuses_of_pair_mem {ws : List Word} {w v : Word} (hpair : pair w v ∈ ofWords ws) :
    fuses w v = true :=
  (infix_of_pair_mem hpair).1

/-- What holds of any two words that stand next to each other holds of the words of a pair. -/
theorem rel_of_pair_mem {R : Word → Word → Prop} {ws : List Word} (h : ws.IsChain R) {w v : Word}
    (hpair : pair w v ∈ ofWords ws) : R w v := by
  have hchain : [w, v].IsChain R := List.IsChain.infix h (infix_of_pair_mem hpair).2
  exact (List.isChain_cons_cons.1 hchain).1

/-! ### Lines that are joined -/

/-- A word that would take another one is no proper token on its own. -/
theorem not_fuses_of_isProper {w : Word} (h : (single w).kind.IsProper) (v : Word) :
    ¬ fuses w v = true := by
  intro hfuses
  have hword : w.text = Keyword.repetition.toList ∨ w.text = Keyword.ending.toList := by
    simp only [fuses, Word.is, Bool.or_eq_true, Bool.and_eq_true, beq_iff_eq] at hfuses
    exact hfuses.imp_right And.left
  rcases hword with htext | htext
  · have hkind : (single w).kind = .repeatStart none := by
      simp only [kind, Word.is, htext]
      decide
    exact h.2 hkind
  · have hkind : (single w).kind = .unknown := by
      simp only [kind, Word.is, htext]
      decide
    exact h.1 hkind

/-- Words whose groups are all proper take no word from behind. -/
theorem ofWords_append {ws : List Word} (h : ∀ g ∈ ofWords ws, g.kind.IsProper) (vs : List Word) :
    ofWords (ws ++ vs) = ofWords ws ++ ofWords vs := by
  fun_induction ofWords ws with
  | case1 => rfl
  | case2 w =>
    have hproper := h (single w) List.mem_cons_self
    cases vs with
    | nil => rfl
    | cons v vs =>
      rw [List.singleton_append, ofWords_of_not_fuses (not_fuses_of_isProper hproper v)]
      rfl
  | case3 w v more hfuses ih =>
    rw [List.cons_append, List.cons_append, ofWords_of_fuses hfuses,
      ih fun g hg => h g (List.mem_cons_of_mem _ hg)]
    rfl
  | case4 w v more hfuses ih =>
    rw [List.cons_append, List.cons_append, ofWords_of_not_fuses hfuses, ← List.cons_append,
      ih fun g hg => h g (List.mem_cons_of_mem _ hg)]
    rfl

end WordGroup

/-! ### Texts -/

/-- The kinds of the tokens of a text, line by line. -/
def textKinds (cs : List Char) : List TokenKind := (cs.splitOn '\n').flatMap lineKinds

theorem map_kind_ofText_eq_textKinds (text : String) :
    (Token.ofText text).map Token.kind = textKinds text.toList := by
  rw [Token.ofText_eq_ofLines, Token.map_kind_ofLines]
  rfl

/-- The words of lines that are joined by line feeds. -/
theorem texts_intercalate (lines : List (List Char)) :
    (Spaced.ofChars (['\n'].intercalate lines)).texts =
      lines.flatMap fun line => (Spaced.ofChars line).texts := by
  induction lines with
  | nil => rfl
  | cons line lines ih =>
    cases lines with
    | nil => simp
    | cons next lines =>
      rw [List.intercalate_cons_cons, List.append_assoc, List.singleton_append,
        Spaced.texts_append_blank isBlank_newline, ih]
      rfl

/-- If all tokens of a text are proper, they are the same when the text stands on one line. -/
theorem textKinds_eq_lineKinds {cs : List Char} (h : ∀ k ∈ textKinds cs, k.IsProper) :
    textKinds cs = lineKinds cs := by
  have hchars : ['\n'].intercalate (cs.splitOn '\n') = cs := List.intercalate_splitOn '\n'
  unfold textKinds at h ⊢
  generalize cs.splitOn '\n' = lines at h hchars
  subst hchars
  induction lines with
  | nil => rfl
  | cons line lines ih =>
    -- the groups of the first line take no word of the others
    have hline : ∀ g ∈ WordGroup.ofWords (Spaced.ofChars line).words, g.kind.IsProper :=
      fun g hg => h _ (List.mem_append_left _ (List.mem_map_of_mem hg))
    have hrest := ih fun k hk => h k (List.mem_append_right _ hk)
    have htexts : (Spaced.ofChars (['\n'].intercalate (line :: lines))).texts =
        ((Spaced.ofChars line).words ++
          (Spaced.ofChars (['\n'].intercalate lines)).words).map Word.text := by
      rw [texts_intercalate, List.map_append, List.flatMap_cons, ← texts_intercalate]
      rfl
    have hkinds := WordGroup.map_kind_ofWords_congr htexts
    rw [WordGroup.ofWords_append hline, List.map_append] at hkinds
    rw [List.flatMap_cons, hrest]
    exact hkinds.symm

/-! ### Layouts -/

theorem head?_of_splitOn {cs line : List Char} {lines : List (List Char)}
    (h : cs.splitOn '\n' = line :: lines) : ∀ c ∈ line.head?, c ∈ cs.head? := by
  cases cs with
  | nil =>
    cases h
    exact nofun
  | cons d cs =>
    rw [List.splitOn_cons_eq_if_modifyHead] at h
    split at h
    · cases h
      exact nofun
    · cases hrest : cs.splitOn '\n' with
      | nil => exact absurd hrest (List.splitOn_ne_nil '\n' cs)
      | cons first more =>
        rw [hrest] at h
        cases h
        exact fun c hc => hc

theorem splitOn_append_of_not_mem {cs : List Char} (h : '\n' ∉ cs) (ds : List Char) :
    (cs ++ ds).splitOn '\n' = (ds.splitOn '\n').modifyHead (cs ++ ·) := by
  induction cs with
  | nil =>
    obtain ⟨line, lines, hlines⟩ := List.exists_cons_of_ne_nil (List.splitOn_ne_nil '\n' ds)
    rw [List.nil_append, hlines]
    rfl
  | cons c cs ih =>
    obtain ⟨hc, hcs⟩ := List.ne_and_not_mem_of_not_mem_cons h
    obtain ⟨line, lines, hlines⟩ := List.exists_cons_of_ne_nil (List.splitOn_ne_nil '\n' ds)
    rw [List.cons_append, List.splitOn_cons_eq_if_modifyHead, if_neg (by simpa using hc.symm),
      ih hcs, hlines]
    rfl

theorem IsWord.newline_not_mem {cs : List Char} (h : IsWord cs) : '\n' ∉ cs := by
  intro hmem
  cases h.not_blank _ hmem

/-- Blanks in front of a text change nothing about the kinds of its tokens. -/
theorem textKinds_blanks_append {blanks : List Char} (h : ∀ c ∈ blanks, isBlank c = true)
    (cs : List Char) : textKinds (blanks ++ cs) = textKinds cs := by
  induction blanks with
  | nil => rfl
  | cons c blanks ih =>
    have ih := ih fun d hd => h d (List.mem_cons_of_mem c hd)
    have hc := h c List.mem_cons_self
    unfold textKinds at ih ⊢
    rw [← ih, List.cons_append, List.splitOn_cons_eq_if_modifyHead]
    split
    · rfl
    · obtain ⟨line, lines, hlines⟩ :=
        List.exists_cons_of_ne_nil (List.splitOn_ne_nil '\n' (blanks ++ cs))
      rw [hlines, List.modifyHead_cons, List.flatMap_cons, List.flatMap_cons, lineKinds, lineKinds,
        Spaced.ofChars_cons, Spaced.cons_of_blank hc]

/-- Characters in front of a text add a token to it if they do so in front of its first line. -/
theorem textKinds_append {cs ds : List Char} {k : TokenKind} (hcs : '\n' ∉ cs)
    (h : ∀ line lines, ds.splitOn '\n' = line :: lines →
      lineKinds (cs ++ line) = k :: lineKinds line) :
    textKinds (cs ++ ds) = k :: textKinds ds := by
  obtain ⟨line, lines, hlines⟩ := List.exists_cons_of_ne_nil (List.splitOn_ne_nil '\n' ds)
  unfold textKinds
  rw [splitOn_append_of_not_mem hcs, hlines, List.modifyHead_cons, List.flatMap_cons,
    List.flatMap_cons, h line lines hlines]
  rfl

/-- A word is a token on its own if the next word is not taken into it. -/
theorem textKinds_single_append {w : Word} {rest : List Char} (hword : IsWord w.text)
    (hrest : ∀ c ∈ rest.head?, isBlank c = true)
    (hfuses : ∀ v ∈ (Spaced.ofChars rest).words.head?, ¬ WordGroup.fuses w v = true) :
    textKinds (w.text ++ rest) = (WordGroup.single w).kind :: textKinds rest := by
  refine textKinds_append hword.newline_not_mem fun line lines hlines => ?_
  have hline : (Spaced.ofChars line).AtGap :=
    Spaced.atGap_of_head fun c hc => hrest c (head?_of_splitOn hlines c hc)
  have htexts := texts_intercalate (line :: lines)
  rw [← hlines, List.intercalate_splitOn, hlines, List.flatMap_cons] at htexts
  unfold lineKinds
  rw [Spaced.ofChars_word_append hword hline]
  unfold Spaced.texts at htexts
  cases hwords : (Spaced.ofChars line).words with
  | nil => exact congrArg (· :: []) (WordGroup.kind_single_congr rfl)
  | cons v more =>
    -- the next word of the line is the next word of the text
    rw [hwords, List.map_cons, List.cons_append] at htexts
    obtain ⟨v', more', hv', htext, -⟩ := List.map_eq_cons_iff.1 htexts
    have hnext : ¬ WordGroup.fuses w v' = true := hfuses v' (by rw [hv']; rfl)
    have hfuses' : ¬ WordGroup.fuses ⟨w.text, (Spaced.ofChars line).lead⟩ v = true := by
      rwa [WordGroup.fuses_congr rfl htext.symm]
    rw [WordGroup.ofWords_of_not_fuses hfuses', List.map_cons]
    exact congrArg (· :: _) (WordGroup.kind_single_congr rfl)

/-- Two words are one token if the first takes the second and no line end stands between them. -/
theorem textKinds_pair_append {w v : Word} {rest : List Char} (hw : IsWord w.text)
    (hv : IsWord v.text) (hblank : ∀ c ∈ w.gap, isBlank c = true) (hgap : w.gap ≠ [])
    (hunbroken : '\n' ∉ w.gap) (hrest : ∀ c ∈ rest.head?, isBlank c = true)
    (hfuses : WordGroup.fuses w v = true) :
    textKinds (w.text ++ (w.gap ++ (v.text ++ rest))) =
      (WordGroup.pair w v).kind :: textKinds rest := by
  have hchars : w.text ++ (w.gap ++ (v.text ++ rest)) = (w.text ++ w.gap ++ v.text) ++ rest := by
    simp
  rw [hchars]
  refine textKinds_append ?_ fun line lines hlines => ?_
  · simp [hw.newline_not_mem, hunbroken, hv.newline_not_mem]
  · have hline : (Spaced.ofChars line).AtGap :=
      Spaced.atGap_of_head fun c hc => hrest c (head?_of_splitOn hlines c hc)
    have hsecond := Spaced.ofChars_word_append hv hline
    have hbehind := Spaced.ofChars_blanks_append w.gap (v.text ++ line) hblank
    rw [hsecond, List.append_nil] at hbehind
    have hatGap : (Spaced.ofChars (w.gap ++ (v.text ++ line))).AtGap := by
      rw [hbehind]
      exact fun hnil => absurd hnil hgap
    have hfuses' : WordGroup.fuses ⟨w.text, w.gap⟩ ⟨v.text, (Spaced.ofChars line).lead⟩ = true := by
      rwa [WordGroup.fuses_congr rfl rfl]
    unfold lineKinds
    rw [List.append_assoc, List.append_assoc, Spaced.ofChars_word_append hw hatGap, hbehind]
    dsimp only
    rw [WordGroup.ofWords_of_fuses hfuses', List.map_cons]
    exact congrArg (· :: _) (WordGroup.kind_pair_congr rfl rfl)

/-- The tokens of words that are written with gaps between them are those of their groups, if no
    line end stands inside a pair. -/
theorem textKinds_flatMap_chars {ws : List Word} (h : Spaced.Regular ⟨[], ws⟩)
    (hpairs : ∀ w v, WordGroup.pair w v ∈ WordGroup.ofWords ws → '\n' ∉ w.gap) :
    textKinds (ws.flatMap Word.chars) = (WordGroup.ofWords ws).map WordGroup.kind := by
  fun_induction WordGroup.ofWords ws with
  | case1 => rfl
  | case2 w =>
    have hgap : textKinds w.gap = [] := by
      have hblank := textKinds_blanks_append (h.gap_blank w List.mem_cons_self) []
      rwa [List.append_nil] at hblank
    have hlast : ∀ v ∈ (Spaced.ofChars w.gap).words.head?, ¬ WordGroup.fuses w v = true := by
      rw [Spaced.ofChars_blanks (h.gap_blank w List.mem_cons_self)]
      intro v hv
      cases hv
    have hhead := h.head_behind
    rw [List.flatMap_nil, List.append_nil] at hhead
    have hsingle := textKinds_single_append (h.isWord w List.mem_cons_self) hhead hlast
    rw [List.flatMap_singleton, Word.chars, hsingle, hgap]
    rfl
  | case3 w v more hfuses ih =>
    have hw := h.isWord w List.mem_cons_self
    have hv := h.tail.isWord v List.mem_cons_self
    have hgap := (List.isChain_cons_cons.1 h.apart).1
    have hpair := textKinds_pair_append hw hv (h.gap_blank w List.mem_cons_self) hgap
      (hpairs w v List.mem_cons_self) h.tail.head_behind hfuses
    have hrest := ih h.tail.tail fun w' v' hmem => hpairs w' v' (List.mem_cons_of_mem _ hmem)
    rw [textKinds_blanks_append (h.tail.gap_blank v List.mem_cons_self), hrest] at hpair
    rw [List.flatMap_cons, List.flatMap_cons, Word.chars, Word.chars, List.append_assoc,
      List.append_assoc, hpair, List.map_cons]
  | case4 w v more hfuses ih =>
    have hw := h.isWord w List.mem_cons_self
    have hrest := ih h.tail fun w' v' hmem => hpairs w' v' (List.mem_cons_of_mem _ hmem)
    have hbehind := Spaced.ofChars_blanks_append w.gap ((v :: more).flatMap Word.chars)
      (h.gap_blank w List.mem_cons_self)
    rw [Spaced.ofChars_flatMap_chars h.tail] at hbehind
    have hnext : ∀ v' ∈ (Spaced.ofChars (w.gap ++ (v :: more).flatMap Word.chars)).words.head?,
        ¬ WordGroup.fuses w v' = true := by
      rw [hbehind]
      rintro v' ⟨⟩
      exact hfuses
    have hsingle := textKinds_single_append hw h.head_behind hnext
    rw [textKinds_blanks_append (h.gap_blank w List.mem_cons_self), hrest] at hsingle
    rw [List.flatMap_cons, Word.chars, List.append_assoc, hsingle, List.map_cons]

/-- The tokens of a regular layout are those of its groups, if no line end stands inside a pair. -/
theorem textKinds_chars_of_unbroken {s : Spaced} (h : s.Regular)
    (hpairs : ∀ w v, WordGroup.pair w v ∈ WordGroup.ofWords s.words → '\n' ∉ w.gap) :
    textKinds s.chars = (WordGroup.ofWords s.words).map WordGroup.kind := by
  rw [Spaced.chars, textKinds_blanks_append h.lead_blank,
    textKinds_flatMap_chars h.withoutLead hpairs]

end RobotScript
