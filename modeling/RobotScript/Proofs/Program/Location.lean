import RobotScript.Proofs.Parser.Extension
import RobotScript.Proofs.Token.Coverage

/-! # Where an error is found in a program text

    The tokens of a text are those of its lines, and every line is laid out
    with its tokens.  So the place that an error gives is one at which the text
    of its token stands. -/

namespace RobotScript

/-- The text of the offending token.  An `END REPEAT` is reported without it. -/
def ParseError.token? : ParseError → Option String
  | .unknownCommand token _ => some token
  | .malformedRepeatCount token _ => some token
  | .unterminatedRepeat token _ => some token
  | .unmatchedEndRepeat _ => none
  | .nestingTooDeep token _ _ => some token

/-- The error about a token gives its text, unless the token is an `END REPEAT`. -/
theorem Token.token?_refusal (token : Token) (limit : Option Nat) (depth : Int) :
    (token.refusal limit depth).token? =
      if token.kind = .repeatEnd then none else some token.text := by
  obtain ⟨kind, text, position⟩ := token
  cases kind with
  | forward => rfl
  | left => rfl
  | right => rfl
  | repeatEnd => rfl
  | unknown => rfl
  | repeatStart count =>
    cases count with
    | none => rfl
    | some n =>
      cases limit with
      | none => rfl
      | some most =>
        by_cases hdeep : (most : Int) ≤ depth
        · simp [refusal, hdeep, ParseError.token?]
        · simp [refusal, hdeep, ParseError.token?]

namespace Token

/-- The tokens of lines that are strings. -/
theorem ofLines_eq_flatMap_ofLine (first : Nat) (lines : List (List Char)) :
    ofLines first lines =
      ((lines.map String.ofList).zipIdx first).flatMap fun (line, n) => ofLine n line := by
  induction lines generalizing first with
  | nil => rfl
  | cons line lines ih =>
    rw [ofLines_cons, ih, List.map_cons, List.zipIdx_cons, List.flatMap_cons]
    show _ = ofLine first (String.ofList line) ++ _
    rw [ofLine, String.toList_ofList]

/-- A token of some lines is one of the line that it gives. -/
theorem exists_line_of_mem_ofLines {first : Nat} {lines : List (List Char)} {t : Token}
    (h : t ∈ ofLines first lines) :
    ∃ i line, lines[i]? = some line ∧ t ∈ ofLineChars (first + i) line := by
  induction lines generalizing first with
  | nil => cases h
  | cons line lines ih =>
    rw [ofLines_cons] at h
    rcases List.mem_append.1 h with h | h
    · exact ⟨0, line, rfl, h⟩
    · obtain ⟨i, line', hline, ht⟩ := ih h
      refine ⟨i + 1, line', hline, ?_⟩
      rwa [Nat.add_right_comm] at ht

/-- The text of a token of a text stands in the line and at the column that the token gives. -/
theorem exists_eq_append_of_mem_ofText {text : String} {t : Token} (h : t ∈ ofText text) :
    ∃ before behind,
      (textLines text.toList)[t.position.line - 1]? =
        some (before ++ t.text.toList ++ behind) ∧
      0 < t.position.line ∧ t.position.column = 1 + before.length := by
  obtain ⟨i, line, hline, ht⟩ := exists_line_of_mem_ofLines h
  obtain ⟨before, behind, rfl, hposition⟩ := exists_eq_append_of_mem_ofLineChars ht
  refine ⟨before, behind, ?_, ?_, ?_⟩
  · rw [hposition, Nat.add_sub_cancel_left]
    exact hline
  · rw [hposition]
    show 0 < 1 + i
    omega
  · rw [hposition]

end Token

namespace Program

/-- The error of a text that is refused is about one of its tokens. -/
theorem exists_token_of_parse {text : String} {limit : Option Nat} {e : ParseError}
    (h : parse text limit = .error e) :
    ∃ t ∈ Token.ofText text, t.position = e.position ∧
      e.token? = if t.kind = .repeatEnd then none else some t.text := by
  obtain ⟨i, token, htoken, -, rfl⟩ := isFirstOffence_of_parseTokens h
  exact ⟨token, List.mem_of_getElem? htoken, (Token.position_refusal _ _ _).symm,
    Token.token?_refusal _ _ _⟩

/-- Every line is laid out with its tokens.  A text has the tokens of its lines, which are what
    stands between its line feeds without a carriage return in front of the line feed, numbered
    from 1.  So at the place that an error gives the text of a token stands, and it is the text
    that the error gives, or that of an `END REPEAT` if it gives none. -/
theorem tokens_locate_text :
    (∀ (line : Nat) (s : String), ∃ lead spots,
      LaidOut line s.toList lead spots ∧ spots.map Spot.token = Token.ofLine line s) ∧
    ∀ text : String,
      let lines := linesBetween (text.toList.splitOn '\n')
      Token.ofText text =
        ((lines.map String.ofList).zipIdx 1).flatMap (fun (line, n) => Token.ofLine n line) ∧
      ∀ limit e, parse text limit = .error e →
        ∃ t before behind, t ∈ Token.ofText text ∧ t.position = e.position ∧
          e.token? = (if t.kind = .repeatEnd then none else some t.text) ∧
          lines[e.position.line - 1]? = some (before ++ t.text.toList ++ behind) ∧
          0 < e.position.line ∧ e.position.column = 1 + before.length := by
  refine ⟨fun line s => Token.exists_laidOut_ofLineChars line s.toList, ?_⟩
  intro text lines
  have hlines : textLines text.toList = lines := textLines_eq_linesBetween text.toList
  refine ⟨?_, ?_⟩
  · rw [Token.ofText, hlines, Token.ofLines_eq_flatMap_ofLine]
  · intro limit e herror
    obtain ⟨t, ht, hposition, htext⟩ := exists_token_of_parse herror
    obtain ⟨before, behind, hline, hpos, hcolumn⟩ := Token.exists_eq_append_of_mem_ofText ht
    rw [hlines, hposition] at hline
    rw [hposition] at hpos hcolumn
    exact ⟨t, before, behind, ht, hposition, htext, hline, hpos, hcolumn⟩

/-- A `REPEAT` with wide blanks in front of its count, on a third line that ends with a carriage
    return, and with characters of several bytes in front of it. -/
theorem tokens_locate_text_repeat :
    let text := "LEFT\r\n\n\u3000RIGHT\u00a0REPEAT\u3000 é\r\nEND REPEAT"
    parse text none = .error (.malformedRepeatCount "REPEAT\u3000 é" ⟨3, 8⟩) ∧
    ∃ t before behind, t ∈ Token.ofText text ∧ t.position = ⟨3, 8⟩ ∧
      t.text = "REPEAT\u3000 é" ∧
      (linesBetween (text.toList.splitOn '\n'))[2]? = some (before ++ t.text.toList ++ behind) ∧
      8 = 1 + before.length := by
  intro text
  have herror : parse text none = .error (.malformedRepeatCount "REPEAT\u3000 é" ⟨3, 8⟩) := by
    decide +kernel
  obtain ⟨t, before, behind, ht, hposition, htext, hline, -, hcolumn⟩ :=
    (tokens_locate_text.2 text).2 none _ herror
  refine ⟨herror, t, before, behind, ht, hposition, ?_, hline, hcolumn⟩
  -- an `END REPEAT` would be reported without its text
  split at htext
  · cases htext
  · exact (Option.some.inj htext).symm

end Program
end RobotScript
