import RobotScript.Proofs.Parser.Extension

/-! # Programs put together

    A program made of two texts, and a program made of a list of commands. -/

namespace RobotScript

/-! ## Programs one behind the other

    Two program texts with a line feed between them are one program text.  What
    is read of it follows from what is read of the two: their sequences one
    after the other, or the error in the second further down, or the error in
    the first.  The exception is a block of the first text that has no end
    there, since the second text may have one. -/

namespace Program

/-- A program text is read by its tokens. -/
theorem parse_eq_parseTokens (text : String) (limit : Option Nat) :
    parse text limit = parseTokens (Token.ofText text) limit := rfl

/-- A text that is read is read as a sequence. -/
theorem exists_sequence_of_parse {text : String} {limit : Option Nat} {tree : Action}
    (h : parse text limit = .ok tree) : ∃ as, tree = .sequence as := by
  obtain ⟨hcanonical, -⟩ := isCanonical_of_parseTokens h
  cases tree with
  | sequence as => exact ⟨as, rfl⟩
  | moveForward => exact hcanonical.elim
  | turnLeft => exact hcanonical.elim
  | turnRight => exact hcanonical.elim
  | repeated n a => exact hcanonical.elim

/-- A later token of a text stands further behind. -/
theorem before_of_pointsAt {text : String} {e later : ParseError} {i j : Nat} (hij : i < j)
    (he : e.PointsAt (Token.ofText text) i) (hlater : later.PointsAt (Token.ofText text) j) :
    e.position.Before later.position := by
  obtain ⟨s, hs, hse⟩ := he
  obtain ⟨t, ht, hte⟩ := hlater
  obtain ⟨hi, rfl⟩ := List.getElem?_eq_some_iff.1 hs
  obtain ⟨hj, rfl⟩ := List.getElem?_eq_some_iff.1 ht
  have hbefore := List.pairwise_iff_getElem.1 (Token.pairwise_before_ofText text) i j hi hj hij
  rwa [hse, hte] at hbefore

/-- Two texts with a line feed between them have the tokens of both, and they are read as both
    sequences, or as the error in the second text, or as the error in the first.  If the first text
    has a block without end, the whole may also be read, or have an error at a later token. -/
theorem parse_append_newline (a b : String) (limit : Option Nat) :
    let text := a ++ "\n" ++ b
    let k := 1 + a.toList.count '\n'
    Token.ofText text = Token.ofText a ++ (Token.ofText b).map (Token.lower k) ∧
    match parse a limit with
    | .ok tree =>
      (match parse b limit with
      | .ok tree' => ∃ as bs, tree = .sequence as ∧ tree' = .sequence bs ∧
          parse text limit = .ok (.sequence (as ++ bs))
      | .error e => parse text limit = .error (e.lower k))
    | .error (.unterminatedRepeat token position) =>
      (∃ tree, parse text limit = .ok tree) ∨
      parse text limit = .error (.unterminatedRepeat token position) ∨
      ∃ later i j, parse text limit = .error later ∧ i < j ∧
        (ParseError.unterminatedRepeat token position).PointsAt (Token.ofText text) i ∧
        later.PointsAt (Token.ofText text) j ∧ position.Before later.position
    | .error e => parse text limit = .error e := by
  intro text k
  have htokens : Token.ofText text = Token.ofText a ++ (Token.ofText b).map (Token.lower k) :=
    Token.ofText_append_newline a b
  have hlower : parseTokens ((Token.ofText b).map (Token.lower k)) limit =
      (parse b limit).mapError (ParseError.lower k) := parseTokens_relabel _ _ _ limit
  refine ⟨htokens, ?_⟩
  rw [parse_eq_parseTokens text, htokens]
  cases ha : parse a limit with
  | ok tree =>
    obtain ⟨as, rfl⟩ := exists_sequence_of_parse ha
    cases hb : parse b limit with
    | ok tree' =>
      obtain ⟨bs, rfl⟩ := exists_sequence_of_parse hb
      rw [hb] at hlower
      exact ⟨as, bs, rfl, rfl, parseTokens_append_of_ok ha hlower⟩
    | error e =>
      rw [hb] at hlower
      exact parseTokens_append_of_ok_of_error ha hlower
  | error e =>
    have hstays := fun hne => parseTokens_append_of_ne_unterminated ha hne
      ((Token.ofText b).map (Token.lower k))
    cases e with
    | unterminatedRepeat token position =>
      rcases parseTokens_append_of_error ha ((Token.ofText b).map (Token.lower k)) with
        hok | hsame | ⟨later, i, j, hlater, hij, hi, hj⟩
      · exact .inl hok
      · exact .inr (.inl hsame)
      · have hbefore := before_of_pointsAt hij (htokens ▸ hi) (htokens ▸ hj)
        exact .inr (.inr ⟨later, i, j, hlater, hij, hi, hj, hbefore⟩)
    | unknownCommand token position => exact hstays nofun
    | malformedRepeatCount token position => exact hstays nofun
    | unmatchedEndRepeat position => exact hstays nofun
    | nestingTooDeep token most position => exact hstays nofun

/-- A block goes on in the second text, and an error behind its end is the first one. -/
example : parse ("LEFT REPEAT 2\r" ++ "\n" ++ "END REPEAT JUMP") none =
    .error (.unknownCommand "JUMP" ⟨2, 12⟩) := by decide +kernel

end Program

/-! ## Commands and texts

    A list of commands is read like the text that has one command on a line.  A
    command may hold line feeds, which count as blanks inside it; in the text
    they are written as spaces.  The spaces are seen in the texts of errors and
    nowhere else: words, kinds and places are the same. -/

/-! ### Commands on one line -/

/-- A space in the place of a line feed. -/
def spaceForNewline (c : Char) : Char := if c = '\n' then ' ' else c

/-- The text of a command on one line. -/
def onOneLine (s : String) : String := String.ofList (s.toList.map spaceForNewline)

theorem toList_onOneLine (s : String) : (onOneLine s).toList = s.toList.map spaceForNewline :=
  String.toList_ofList

theorem isBlank_spaceForNewline (c : Char) : isBlank (spaceForNewline c) = isBlank c := by
  unfold spaceForNewline
  split
  · rename_i hc
    rw [hc]
    rfl
  · rfl

theorem spaceForNewline_of_not_blank {c : Char} (h : isBlank c = false) :
    spaceForNewline c = c := by
  refine if_neg ?_
  rintro rfl
  cases h

theorem newline_not_mem_map_spaceForNewline (cs : List Char) :
    '\n' ∉ cs.map spaceForNewline := by
  intro hmem
  obtain ⟨c, -, hc⟩ := List.mem_map.1 hmem
  unfold spaceForNewline at hc
  split at hc
  · cases hc
  · contradiction

/-- A word has no line feed to replace. -/
theorem map_spaceForNewline_of_isWord {cs : List Char} (h : IsWord cs) :
    cs.map spaceForNewline = cs := by
  rw [List.map_congr_left fun c hc => spaceForNewline_of_not_blank (h.not_blank c hc), List.map_id']

/-! ### Words and groups -/

/-- The word with spaces for the line feeds behind it. -/
def Word.unbroken (w : Word) : Word := ⟨w.text, w.gap.map spaceForNewline⟩

/-- The line with spaces for the line feeds between its words. -/
def Spaced.unbroken (s : Spaced) : Spaced :=
  ⟨s.lead.map spaceForNewline, s.words.map Word.unbroken⟩

/-- The group with spaces for its line feeds. -/
def WordGroup.unbroken : WordGroup → WordGroup
  | single w => single w.unbroken
  | pair w v => pair w.unbroken v.unbroken

theorem Spaced.cons_unbroken (c : Char) (s : Spaced) :
    cons (spaceForNewline c) s.unbroken = (cons c s).unbroken := by
  cases hc : isBlank c with
  | true =>
    have hspace := (isBlank_spaceForNewline c).trans hc
    rw [cons_of_blank hc, cons_of_blank hspace]
    rfl
  | false =>
    rw [spaceForNewline_of_not_blank hc]
    obtain ⟨lead, words⟩ := s
    cases lead with
    | nil =>
      cases words with
      | nil =>
        rw [cons_of_atGap (s := ⟨[], []⟩) hc fun _ => rfl]
        exact cons_of_atGap (s := ⟨[], []⟩) hc fun _ => rfl
      | cons w more =>
        rw [cons_of_word hc]
        exact cons_of_word hc _ _
    | cons d lead =>
      rw [cons_of_atGap (s := ⟨d :: lead, words⟩) hc nofun]
      exact cons_of_atGap hc nofun

/-- Spaces for line feeds change nothing about the words of a line. -/
theorem Spaced.ofChars_map_spaceForNewline (cs : List Char) :
    ofChars (cs.map spaceForNewline) = (ofChars cs).unbroken := by
  induction cs with
  | nil => rfl
  | cons c cs ih => rw [List.map_cons, ofChars_cons, ih, cons_unbroken, ofChars_cons]

namespace WordGroup

theorem ofWords_map_unbroken (ws : List Word) :
    ofWords (ws.map Word.unbroken) = (ofWords ws).map unbroken := by
  fun_induction ofWords ws with
  | case1 => rfl
  | case2 w => rfl
  | case3 w v more hfuses ih =>
    have hfuses' : fuses w.unbroken v.unbroken = true := hfuses
    rw [List.map_cons, List.map_cons, ofWords_of_fuses hfuses', ih, List.map_cons]
    rfl
  | case4 w v more hfuses ih =>
    have hfuses' : ¬ fuses w.unbroken v.unbroken = true := hfuses
    rw [List.map_cons, List.map_cons, ofWords_of_not_fuses hfuses', ← List.map_cons, ih,
      List.map_cons]
    rfl

theorem kind_unbroken (g : WordGroup) : g.unbroken.kind = g.kind := by
  cases g with
  | single w => rfl
  | pair w v => rfl

theorem length_gap_unbroken (g : WordGroup) : g.unbroken.gap.length = g.gap.length := by
  cases g with
  | single w => exact List.length_map _
  | pair w v => exact List.length_map _

theorem text_unbroken {g : WordGroup} (h : ∀ w ∈ g.words, IsWord w.text) :
    g.unbroken.text = g.text.map spaceForNewline := by
  cases g with
  | single w =>
    have hw := h w List.mem_cons_self
    exact (map_spaceForNewline_of_isWord hw).symm
  | pair w v =>
    have hw := h w List.mem_cons_self
    have hv := h v (List.mem_cons_of_mem w List.mem_cons_self)
    simp only [text, List.map_append, map_spaceForNewline_of_isWord hw,
      map_spaceForNewline_of_isWord hv]
    rfl

theorem place_map_unbroken (line column : Nat) {groups : List WordGroup}
    (h : ∀ g ∈ groups, ∀ w ∈ g.words, IsWord w.text) :
    place line column (groups.map unbroken) =
      (place line column groups).map (Token.relabel onOneLine id) := by
  induction groups generalizing column with
  | nil => rfl
  | cons g groups ih =>
    have htext := text_unbroken (h g List.mem_cons_self)
    have hstring : String.ofList (g.text.map spaceForNewline) =
        onOneLine (String.ofList g.text) := by
      rw [onOneLine, String.toList_ofList]
    rw [List.map_cons, place, place, List.map_cons, kind_unbroken, htext, List.length_map,
      length_gap_unbroken, hstring, ih _ fun g' hg' => h g' (List.mem_cons_of_mem g hg')]
    rfl

end WordGroup

/-! ### Tokens -/

namespace Token

/-- Spaces for line feeds change the tokens of a line in their texts only. -/
theorem ofLineChars_map_spaceForNewline (line : Nat) (cs : List Char) :
    ofLineChars line (cs.map spaceForNewline) =
      (ofLineChars line cs).map (relabel onOneLine id) := by
  have hwords : ∀ g ∈ WordGroup.ofWords (Spaced.ofChars cs).words, ∀ w ∈ g.words,
      IsWord w.text := fun g hg w hw =>
    (Spaced.regular_ofChars cs).isWord w (WordGroup.mem_of_mem_words hg hw)
  unfold ofLineChars
  rw [Spaced.ofChars_map_spaceForNewline, Spaced.unbroken]
  dsimp only
  rw [List.length_map, WordGroup.ofWords_map_unbroken, WordGroup.place_map_unbroken _ _ hwords]

theorem ofLines_map_spaceForNewline (first : Nat) (lines : List (List Char)) :
    ofLines first (lines.map (List.map spaceForNewline)) =
      (ofLines first lines).map (relabel onOneLine id) := by
  induction lines generalizing first with
  | nil => rfl
  | cons line lines ih =>
    rw [List.map_cons, ofLines_cons, ofLines_cons, List.map_append,
      ofLineChars_map_spaceForNewline, ih]

/-- Commands without line feeds have the tokens of the text with one command on a line. -/
theorem ofText_intercalate {commands : List String} (h : ∀ c ∈ commands, '\n' ∉ c.toList) :
    ofText ("\n".intercalate commands) = ofCommands commands := by
  rw [ofText_eq_ofLines, String.toList_intercalate]
  cases commands with
  | nil => rfl
  | cons c more =>
    have hlines : ∀ l ∈ (c :: more).map String.toList, '\n' ∉ l := by
      intro l hl
      obtain ⟨s, hs, rfl⟩ := List.mem_map.1 hl
      exact h s hs
    have hsplit := List.splitOn_intercalate '\n' hlines (List.cons_ne_nil _ _)
    exact congrArg (ofLines 1) hsplit

/-- Commands have the tokens of the text with one command on a line, up to the blanks inside
    them. -/
theorem ofText_intercalate_onOneLine (commands : List String) :
    ofText ("\n".intercalate (commands.map onOneLine)) =
      (ofCommands commands).map (relabel onOneLine id) := by
  have hnewline : ∀ c ∈ commands.map onOneLine, '\n' ∉ c.toList := by
    intro c hc
    obtain ⟨s, -, rfl⟩ := List.mem_map.1 hc
    rw [toList_onOneLine]
    exact newline_not_mem_map_spaceForNewline _
  have hchars : (commands.map onOneLine).map String.toList =
      (commands.map String.toList).map (List.map spaceForNewline) := by
    rw [List.map_map, List.map_map]
    exact List.map_congr_left fun s _ => toList_onOneLine s
  rw [ofText_intercalate hnewline, ofCommands, ofCommands, hchars, ofLines_map_spaceForNewline]

end Token

/-! ### Programs -/

namespace Program

/-- Commands are read like the text with one command on a line, in which line feeds inside the
    commands are spaces: as the same tree, or with the same error but for the spaces in the text of
    its token.  Where there are no such line feeds the error is the same. -/
theorem parse_intercalate (commands : List String) :
    parse ("\n".intercalate (commands.map onOneLine)) none =
      (parseCommands commands).mapError (ParseError.relabel onOneLine id) ∧
    ((∀ c ∈ commands, '\n' ∉ c.toList) →
      parse ("\n".intercalate commands) none = parseCommands commands) := by
  constructor
  · have hrelabel := parseTokens_relabel onOneLine id (Token.ofCommands commands) none
    rw [← Token.ofText_intercalate_onOneLine commands] at hrelabel
    exact hrelabel
  · intro hnewline
    have htokens := Token.ofText_intercalate hnewline
    exact congrArg (parseTokens · none) htokens

/-- A line feed between a `REPEAT` and its count is a space in the text, and a carriage return at
    the end of a command makes no difference. -/
theorem parse_intercalate_carriage_return :
    let commands := ["LEFT\r", "", " REPEAT\n2", "JUMP"]
    let plain := ["LEFT\r", "", "END REPEAT"]
    (parseCommands commands = .error (.unterminatedRepeat "REPEAT\n2" ⟨3, 2⟩) ∧
      parse "LEFT\r\n\n REPEAT 2\nJUMP" none = .error (.unterminatedRepeat "REPEAT 2" ⟨3, 2⟩)) ∧
    (∀ c ∈ plain, '\n' ∉ c.toList) ∧
      parse "LEFT\r\n\nEND REPEAT" none = parseCommands plain := by
  intro commands plain
  let tokens : List Token :=
    [⟨.left, "LEFT", ⟨1, 1⟩⟩, ⟨.repeatStart (some 2), "REPEAT\n2", ⟨3, 2⟩⟩,
      ⟨.unknown, "JUMP", ⟨4, 1⟩⟩]
  have htokens : Token.ofCommands commands = tokens := by decide
  have htoken : tokens[1]? = some ⟨.repeatStart (some 2), "REPEAT\n2", ⟨3, 2⟩⟩ := rfl
  have hfirst : IsFirstOffence (tokens.map Token.kind) none 1 := by decide
  have hcommands : parseCommands commands = .error (.unterminatedRepeat "REPEAT\n2" ⟨3, 2⟩) := by
    change parseTokens (Token.ofCommands commands) none = _
    rw [htokens]
    exact parseTokens_of_isFirstOffence htoken hfirst
  have htext : "\n".intercalate (commands.map onOneLine) = "LEFT\r\n\n REPEAT 2\nJUMP" := by decide
  have hplainText : "\n".intercalate plain = "LEFT\r\n\nEND REPEAT" := by decide
  have herror := (parse_intercalate commands).1
  rw [hcommands, htext] at herror
  have hplain : ∀ c ∈ plain, '\n' ∉ c.toList := by decide
  have hsame := (parse_intercalate plain).2 hplain
  rw [hplainText] at hsame
  exact ⟨⟨hcommands, herror.trans (by decide)⟩, hplain, hsame⟩

end Program

end RobotScript
