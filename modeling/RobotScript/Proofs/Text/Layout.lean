import RobotScript.Text
import RobotScript.Token

/-! # Printed texts are read back

    The lines, the words and the tokens of a text that was put together from
    known lines and words. -/

namespace RobotScript

/-! ## Reading back what was laid out

    Lines that were joined are split at the same places again, and a line that
    was put together from blanks and words is taken apart into them.  Both are
    read from the end of the text, so the lemmas say what a line or a word in
    front of a known rest comes to. -/

/-! ### Lines -/

namespace LineSplit

/-- A line in front of a line end, without line ends in it, is the first line. -/
theorem ofChars_append_newline (line rest : List Char) (h : ∀ c ∈ line, c ≠ '\n' ∧ c ≠ '\r') :
    (ofChars (line ++ '\n' :: rest)).lines = line :: (ofChars rest).lines := by
  induction line with
  | nil => simp [cons]
  | cons c line ih =>
    obtain ⟨hnewline, hreturn⟩ := h c (by simp)
    have ih := ih fun d hd => h d (by simp [hd])
    rw [List.cons_append, ofChars_cons, cons, if_neg hnewline,
      if_neg fun hand => hreturn hand.1, ih]
    rfl

end LineSplit

/-- Lines that are ended one by one are the lines of the text. -/
theorem textLines_flatMap (ls : List (List Char)) (h : ∀ l ∈ ls, ∀ c ∈ l, c ≠ '\n' ∧ c ≠ '\r') :
    textLines (ls.flatMap fun l => l ++ ['\n']) = ls := by
  induction ls with
  | nil => rfl
  | cons l ls ih =>
    have hsplit := LineSplit.ofChars_append_newline l (ls.flatMap fun l => l ++ ['\n'])
      (h l (by simp))
    have ih := ih fun l' hl' => h l' (by simp [hl'])
    unfold textLines at ih ⊢
    rw [ih] at hsplit
    simpa using hsplit

/-! ### Words -/

/-- The characters are one word: there are some, and none of them is a blank. -/
structure IsWord (cs : List Char) : Prop where
  ne_nil : cs ≠ []
  not_blank : ∀ c ∈ cs, isBlank c = false

instance (cs : List Char) : Decidable (IsWord cs) :=
  decidable_of_iff (cs ≠ [] ∧ cs.any isBlank = false)
    ⟨fun h => ⟨h.1, by simpa using h.2⟩, fun h => ⟨h.ne_nil, by simpa using h.not_blank⟩⟩

namespace Spaced

/-- A blank belongs to the lead of a line. -/
theorem cons_of_blank {c : Char} (h : isBlank c = true) (s : Spaced) :
    cons c s = ⟨c :: s.lead, s.words⟩ := by
  unfold cons
  exact if_pos h

/-- A character that is no blank, right in front of a word, belongs to that word. -/
theorem cons_of_word {c : Char} (h : isBlank c = false) (w : Word) (more : List Word) :
    cons c ⟨[], w :: more⟩ = ⟨[], ⟨c :: w.text, w.gap⟩ :: more⟩ := by
  unfold cons
  rw [h]
  rfl

/-- The line does not begin with a word. -/
def AtGap (s : Spaced) : Prop := s.lead = [] → s.words = []

/-- A character that is no blank, in front of a gap, is a word. -/
theorem cons_of_atGap {c : Char} (h : isBlank c = false) {s : Spaced} (hs : s.AtGap) :
    cons c s = ⟨[], ⟨[c], s.lead⟩ :: s.words⟩ := by
  obtain ⟨lead, words⟩ := s
  unfold cons
  rw [h]
  cases lead with
  | nil =>
    obtain rfl : words = [] := hs rfl
    rfl
  | cons d lead => rfl

/-- Blanks in front of a line belong to its lead. -/
theorem ofChars_blanks_append (blanks cs : List Char) (h : ∀ c ∈ blanks, isBlank c = true) :
    ofChars (blanks ++ cs) = ⟨blanks ++ (ofChars cs).lead, (ofChars cs).words⟩ := by
  induction blanks with
  | nil => rfl
  | cons c blanks ih =>
    have ih := ih fun d hd => h d (by simp [hd])
    rw [List.cons_append, ofChars_cons, ih, cons_of_blank (h c (by simp))]
    rfl

/-- A word in front of a gap is the first word. -/
theorem ofChars_word_append {word cs : List Char} (hword : IsWord word)
    (hcs : (ofChars cs).AtGap) :
    ofChars (word ++ cs) = ⟨[], ⟨word, (ofChars cs).lead⟩ :: (ofChars cs).words⟩ := by
  induction word with
  | nil => exact absurd rfl hword.ne_nil
  | cons c word ih =>
    have hc := hword.not_blank c (by simp)
    rw [List.cons_append, ofChars_cons]
    by_cases hlast : word = []
    · -- the last character of the word begins it, as the text is read from its end
      subst hlast
      exact cons_of_atGap hc hcs
    · have htail : IsWord word := ⟨hlast, fun d hd => hword.not_blank d (by simp [hd])⟩
      rw [ih htail, cons_of_word hc]

/-- A word at the end of a line is its last word. -/
theorem ofChars_word {word : List Char} (hword : IsWord word) :
    ofChars word = ⟨[], [⟨word, []⟩]⟩ := by
  have hend : (ofChars []).AtGap := fun _ => rfl
  have hlast := ofChars_word_append hword hend
  rw [List.append_nil] at hlast
  exact hlast

/-- The words of a line that holds one word. -/
theorem words_single {blanks word : List Char} (hblanks : ∀ c ∈ blanks, isBlank c = true)
    (hword : IsWord word) : (ofChars (blanks ++ word)).words = [⟨word, []⟩] := by
  rw [ofChars_blanks_append blanks word hblanks, ofChars_word hword]

/-- The words of a line that holds two words with one blank between them. -/
theorem words_pair {blanks first second : List Char} (hblanks : ∀ c ∈ blanks, isBlank c = true)
    (hfirst : IsWord first) (hsecond : IsWord second) :
    (ofChars (blanks ++ (first ++ ' ' :: second))).words = [⟨first, [' ']⟩, ⟨second, []⟩] := by
  have hspace : isBlank ' ' = true := rfl
  have hrest : ofChars (' ' :: second) = ⟨[' '], [⟨second, []⟩]⟩ := by
    rw [ofChars_cons, ofChars_word hsecond, cons_of_blank hspace]
  have hgap : (ofChars (' ' :: second)).AtGap := by
    rw [hrest]
    intro hlead
    cases hlead
  rw [ofChars_blanks_append blanks _ hblanks, ofChars_word_append hfirst hgap, hrest]

end Spaced

/-! ## The kinds of the tokens of a text

    The kinds of a line's tokens depend on nothing but its words, and the kinds
    of a text's tokens are those of its lines, one after the other.

    A count that is written out is read back, since the digits of a number
    below `2 ^ 32` have that number as their value. -/

/-! ### Lines -/

/-- The kinds of the tokens of one line. -/
def lineKinds (cs : List Char) : List TokenKind :=
  (WordGroup.ofWords (Spaced.ofChars cs).words).map WordGroup.kind

namespace WordGroup

/-- Where the groups stand does not matter for their kinds. -/
theorem map_kind_place (line column : Nat) (groups : List WordGroup) :
    (place line column groups).map Token.kind = groups.map kind := by
  induction groups generalizing column with
  | nil => rfl
  | cons g groups ih => rw [place, List.map_cons, List.map_cons, ih]

end WordGroup

namespace Token

theorem map_kind_ofLineChars (line : Nat) (cs : List Char) :
    (ofLineChars line cs).map Token.kind = lineKinds cs :=
  WordGroup.map_kind_place line _ _

theorem map_kind_ofLines (first : Nat) (lines : List (List Char)) :
    (ofLines first lines).map Token.kind = lines.flatMap lineKinds := by
  unfold ofLines
  induction lines generalizing first with
  | nil => rfl
  | cons cs lines ih =>
    rw [List.zipIdx_cons, List.flatMap_cons, List.map_append, ih, map_kind_ofLineChars]
    rfl

/-- The kinds of a text's tokens are the kinds of its lines. -/
theorem map_kind_ofText (text : String) :
    (ofText text).map Token.kind = (textLines text.toList).flatMap lineKinds :=
  map_kind_ofLines 1 _

end Token

/-! ### Counts -/

namespace Decimal

theorem isDigit_eq (c : Char) : isDigit c = c.isDigit := by
  have h : c.isDigit = true ↔ isDigit c = true := by
    rw [Char.isDigit_iff_toNat]
    simp [isDigit, Char.le_def, UInt32.le_iff_toNat_le]
  cases hd : isDigit c <;> cases hc : c.isDigit <;> simp_all

/-- A number that is written out is read back. -/
theorem read?_repr (n : Nat) : read? n.repr.toList = some n := by
  have hdigits : (Nat.toDigits 10 n).all isDigit = true := by
    rw [List.all_eq_true]
    intro c hc
    rw [isDigit_eq]
    exact Nat.isDigit_of_mem_toDigits (by decide) (by decide) hc
  -- reading digits is the fold of the library's digits
  have hvalue : value (Nat.toDigits 10 n) = n := by
    rw [value]
    exact (Nat.ofDigitChars_eq_foldl).symm.trans Nat.ofDigitChars_ten_toDigits
  rw [Nat.toList_repr, read?, if_pos ⟨Nat.toDigits_ne_nil, hdigits⟩, hvalue]

end Decimal

/-- A count that is written out is read back. -/
theorem repeatCount?_repr (n : UInt32) : repeatCount? n.toNat.repr.toList = some n := by
  have hle : n.toNat ≤ maxRepeatCount := Nat.le_of_lt_succ n.toNat_lt
  rw [repeatCount?, Decimal.readUpTo?, Decimal.read?_repr,
    Option.filter_some_pos (by simpa using hle), Option.map_some, UInt32.ofNat_toNat]

end RobotScript
