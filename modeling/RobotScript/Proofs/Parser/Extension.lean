import RobotScript.Proofs.Blocks.Offence
import RobotScript.Proofs.Parser.Grammar
import RobotScript.Proofs.Token.Place

/-! # Reading longer lists of tokens

    Only the kinds of the tokens decide what is read, so tokens with other
    texts at other places are read in the same way, and an error tells of the
    other text and place (`parseTokens_relabel`).

    When more tokens come behind a list, what was read of it stays as it is.
    An error stays, too, unless it is about a block that was not closed: in that
    case nothing in front of that block has become wrong, and the error is the
    same or one further behind (`parseTokens_append_of_error`). -/

namespace RobotScript

/-! ### Errors -/

/-- The error about a token with another text, at another place. -/
def ParseError.relabel (text : String → String) (place : Position → Position) :
    ParseError → ParseError
  | .unknownCommand token p => .unknownCommand (text token) (place p)
  | .malformedRepeatCount token p => .malformedRepeatCount (text token) (place p)
  | .unterminatedRepeat token p => .unterminatedRepeat (text token) (place p)
  | .unmatchedEndRepeat p => .unmatchedEndRepeat (place p)
  | .nestingTooDeep token limit p => .nestingTooDeep (text token) limit (place p)

/-- The error `k` lines further down. -/
def ParseError.lower (k : Nat) (e : ParseError) : ParseError := e.relabel id (Position.lower k)

/-- The error points at the token with the index `i`. -/
def ParseError.PointsAt (e : ParseError) (tokens : List Token) (i : Nat) : Prop :=
  ∃ token, tokens[i]? = some token ∧ token.position = e.position

namespace Token

/-- The error about a token is at its place. -/
@[simp] theorem position_refusal (token : Token) (limit : Option Nat) (depth : Int) :
    (token.refusal limit depth).position = token.position := by
  unfold refusal
  split
  · rfl
  · split
    · rfl
    · rfl
  · rfl
  · rfl
  · rfl

theorem refusal_relabel (text : String → String) (place : Position → Position) (token : Token)
    (limit : Option Nat) (depth : Int) :
    (token.relabel text place).refusal limit depth =
      (token.refusal limit depth).relabel text place := by
  obtain ⟨kind, chars, position⟩ := token
  cases kind with
  | forward => rfl
  | left => rfl
  | right => rfl
  | repeatEnd => rfl
  | unknown => rfl
  | repeatStart count =>
    cases count with
    | none => rfl
    | some n =>
      cases limit with
      | none => rfl
      | some most =>
        by_cases hdeep : (most : Int) ≤ depth
        · simp [refusal, relabel, hdeep, ParseError.relabel]
        · simp [refusal, relabel, hdeep, ParseError.relabel]

/-- Of a `REPEAT` with a count that may open a block, only a missing end can be said. -/
theorem refusal_of_room {token : Token} {limit : Option Nat} {depth : Int} {count : UInt32}
    (hkind : token.kind = .repeatStart (some count))
    (hroom : ∀ most, limit = some most → depth < most) :
    token.refusal limit depth = .unterminatedRepeat token.text token.position := by
  cases limit with
  | none => simp only [refusal, hkind]
  | some most =>
    have hlt : ¬ (most : Int) ≤ depth := Int.not_le.2 (hroom most rfl)
    simp only [refusal, hkind, if_neg hlt]

end Token

namespace Program

variable {tokens front back : List Token} {limit : Option Nat}

/-! ### The first offence -/

/-- The first offence decides what is reported. -/
theorem parseTokens_of_isFirstOffence {i : Nat} {token : Token} (htoken : tokens[i]? = some token)
    (hfirst : IsFirstOffence (tokens.map Token.kind) limit i) :
    parseTokens tokens limit =
      .error (token.refusal limit (TokenKind.depth (tokens.map Token.kind) i)) := by
  rcases parseTokens_cases tokens limit with ⟨_, _, hright⟩ | ⟨j, t, ht, hfirst', herror, -⟩
  · exact absurd hfirst.1 (hright i)
  · obtain rfl := hfirst.unique hfirst'
    rw [htoken] at ht
    cases ht
    exact herror

/-- What is reported is the first offence. -/
theorem isFirstOffence_of_parseTokens {e : ParseError} (h : parseTokens tokens limit = .error e) :
    ∃ i token, tokens[i]? = some token ∧ IsFirstOffence (tokens.map Token.kind) limit i ∧
      e = token.refusal limit (TokenKind.depth (tokens.map Token.kind) i) := by
  rcases parseTokens_cases tokens limit with ⟨tree, hok, -⟩ | ⟨i, token, htoken, hfirst, herror, -⟩
  · rw [hok] at h
    cases h
  · rw [herror] at h
    cases h
    exact ⟨i, token, htoken, hfirst, rfl⟩

/-- Nothing offends in a list that is read. -/
theorem not_offends_of_parseTokens {tree : Action} (h : parseTokens tokens limit = .ok tree)
    (i : Nat) : ¬ Offends (tokens.map Token.kind) limit i := by
  rcases parseTokens_cases tokens limit with ⟨_, _, hright⟩ | ⟨_, _, _, _, herror, -⟩
  · exact hright i
  · rw [herror] at h
    cases h

/-! ### Other texts and places -/

theorem map_kind_relabel (text : String → String) (place : Position → Position)
    (tokens : List Token) :
    (tokens.map (Token.relabel text place)).map Token.kind = tokens.map Token.kind := by
  rw [List.map_map]
  rfl

/-- Tokens with other texts and places are read as the same tree, or refused for the same
    reason. -/
theorem parseTokens_relabel (text : String → String) (place : Position → Position)
    (tokens : List Token) (limit : Option Nat) :
    parseTokens (tokens.map (Token.relabel text place)) limit =
      (parseTokens tokens limit).mapError (ParseError.relabel text place) := by
  have hkinds := map_kind_relabel text place tokens
  cases hparse : parseTokens tokens limit with
  | ok tree =>
    obtain ⟨hcanonical, hwritten, hlimit⟩ := isCanonical_of_parseTokens hparse
    exact parseTokens_of_isCanonical hcanonical (hwritten.trans hkinds.symm) hlimit
  | error e =>
    obtain ⟨i, token, htoken, hfirst, rfl⟩ := isFirstOffence_of_parseTokens hparse
    have htoken' : (tokens.map (Token.relabel text place))[i]? =
        some (token.relabel text place) := by rw [List.getElem?_map, htoken]; rfl
    rw [parseTokens_of_isFirstOffence htoken' (hkinds.symm ▸ hfirst), hkinds,
      Token.refusal_relabel]
    rfl

/-! ### More tokens behind a list -/

/-- Tokens that are read one after the other are read as one sequence. -/
theorem parseTokens_append_of_ok {as bs : List Action}
    (hfront : parseTokens front limit = .ok (.sequence as))
    (hback : parseTokens back limit = .ok (.sequence bs)) :
    parseTokens (front ++ back) limit = .ok (.sequence (as ++ bs)) := by
  obtain ⟨hcanonical, hkinds, hlimit⟩ := isCanonical_of_parseTokens hfront
  obtain ⟨hcanonical', hkinds', hlimit'⟩ := isCanonical_of_parseTokens hback
  refine parseTokens_of_isCanonical ?_ ?_ ?_
  · exact (Action.areElements_append as bs).2 ⟨hcanonical, hcanonical'⟩
  · rw [List.map_append, ← hkinds, ← hkinds']
    exact Action.kindsOfList_append as bs
  · intro most hmost
    have hleft := hlimit most hmost
    have hright := hlimit' most hmost
    simp only [Action.nesting, Action.nestingOfList_append] at hleft hright ⊢
    omega

/-- An error in tokens that stand behind a program is the error in both. -/
theorem parseTokens_append_of_ok_of_error {tree : Action} {e : ParseError}
    (hfront : parseTokens front limit = .ok tree) (hback : parseTokens back limit = .error e) :
    parseTokens (front ++ back) limit = .error e := by
  obtain ⟨i, token, htoken, hfirst, rfl⟩ := isFirstOffence_of_parseTokens hback
  obtain ⟨-, hkinds, -⟩ := isCanonical_of_parseTokens hfront
  -- the tokens of the program are balanced, so they do not matter for those behind it
  have hlevel : TokenKind.balance (front.map Token.kind) = 0 := by
    rw [← hkinds]
    exact Action.balance_kinds tree
  have hlength : (front.map Token.kind).length = front.length := List.length_map _
  have htoken' : (front ++ back)[(front.map Token.kind).length + i]? = some token := by
    rw [hlength, List.getElem?_append_right (by omega), Nat.add_sub_cancel_left, htoken]
  have hfirst' : IsFirstOffence ((front ++ back).map Token.kind) limit
      ((front.map Token.kind).length + i) := by
    rw [List.map_append]
    refine ⟨(offends_append_right_iff hlevel).2 hfirst.1, fun j hj hoff => ?_⟩
    rcases Nat.lt_or_ge j (front.map Token.kind).length with hlt | hge
    · exact not_offends_of_parseTokens hfront j (hoff.of_append hlt)
    · obtain ⟨j, rfl⟩ := Nat.exists_eq_add_of_le hge
      exact hfirst.2 j (by omega) ((offends_append_right_iff hlevel).1 hoff)
  rw [parseTokens_of_isFirstOffence htoken' hfirst', List.map_append,
    TokenKind.depth_append_right, hlevel, Int.zero_add]

/-- When more tokens come behind a list with an error, the list is read, or the error stays, or it
    gives way to one about a later token. -/
theorem parseTokens_append_of_error {e : ParseError} (hfront : parseTokens front limit = .error e)
    (back : List Token) :
    (∃ tree, parseTokens (front ++ back) limit = .ok tree) ∨
    parseTokens (front ++ back) limit = .error e ∨
    ∃ later i j, parseTokens (front ++ back) limit = .error later ∧ i < j ∧
      e.PointsAt (front ++ back) i ∧ later.PointsAt (front ++ back) j := by
  obtain ⟨i, s, hs, hfirst, rfl⟩ := isFirstOffence_of_parseTokens hfront
  obtain ⟨hlt, -⟩ := List.getElem?_eq_some_iff.1 hs
  have hs' : (front ++ back)[i]? = some s := by rw [List.getElem?_append_left hlt, hs]
  cases hparse : parseTokens (front ++ back) limit with
  | ok tree => exact .inl ⟨tree, rfl⟩
  | error later =>
    obtain ⟨j, t, ht, hfirst', rfl⟩ := isFirstOffence_of_parseTokens hparse
    rw [List.map_append] at hfirst' ⊢
    have hlength : (front.map Token.kind).length = front.length := List.length_map _
    rcases Nat.lt_trichotomy j i with hji | rfl | hij
    · -- nothing has become wrong in front of the error
      exact absurd (hfirst'.1.of_append (by omega)) (hfirst.2 j hji)
    · rw [hs'] at ht
      cases ht
      rw [TokenKind.depth_append_left _ (by omega)]
      exact .inr (.inl rfl)
    · exact .inr (.inr ⟨_, i, j, rfl, hij, ⟨s, hs', by simp⟩, ⟨t, ht, by simp⟩⟩)

/-- An error that is not about a block without end stays when more tokens come. -/
theorem parseTokens_append_of_ne_unterminated {e : ParseError}
    (hfront : parseTokens front limit = .error e)
    (hne : ∀ text position, e ≠ .unterminatedRepeat text position) (back : List Token) :
    parseTokens (front ++ back) limit = .error e := by
  obtain ⟨i, token, htoken, hfirst, rfl⟩ := isFirstOffence_of_parseTokens hfront
  obtain ⟨hlt, -⟩ := List.getElem?_eq_some_iff.1 htoken
  have hlength : (front.map Token.kind).length = front.length := List.length_map _
  have htoken' : (front ++ back)[i]? = some token := by
    rw [List.getElem?_append_left hlt, htoken]
  have hfirst' : IsFirstOffence ((front ++ back).map Token.kind) limit i := by
    rw [List.map_append]
    refine ⟨?_, fun j hj hoff => hfirst.2 j hj (hoff.of_append (by omega))⟩
    rcases hfirst.1.append_or_open (back.map Token.kind) with hoff | ⟨count, hkind, hroom⟩
    · exact hoff
    · -- the token could only be wrong for want of an `END REPEAT`
      rw [List.getElem?_map, htoken, Option.map_some, Option.some_inj] at hkind
      exact absurd (Token.refusal_of_room hkind hroom) (hne _ _)
  rw [parseTokens_of_isFirstOffence htoken' hfirst', List.map_append,
    TokenKind.depth_append_left _ (by omega)]

end Program
end RobotScript
