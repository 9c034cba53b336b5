import Mathlib.Data.Nat.Digits.Defs
import RobotScript.Proofs.Token.Grouping

/-! # What the tokens of a line stand for

    The words of a line are its maximal runs of characters that are no blanks,
    and there is just one way to put them into groups by the rule of the
    language: `REPEAT` takes the next word, `END` takes the next word if that is
    `REPEAT`, all others stand alone (`IsGrouping.unique`).  The tokens of the
    line are these groups, one token for each, and the words of a group tell the
    kind of its token (`HasKind`).

    Everything here is stated with the words alone, without the gaps between
    them: the rules of the language do not look at the spacing. -/

namespace RobotScript

/-! ### The words of a line -/

/-- The maximal runs of characters that are no blanks. -/
def lineWords (cs : List Char) : List (List Char) :=
  (cs.splitOnP isBlank).filter fun word => !word.isEmpty

/-- The words on both sides of a blank. -/
theorem lineWords_append_blank {c : Char} (hc : isBlank c = true) (cs ds : List Char) :
    lineWords (cs ++ c :: ds) = lineWords cs ++ lineWords ds := by
  unfold lineWords
  rw [List.splitOnP_append_cons cs ds hc, List.filter_append]

/-- Blanks in front of a line are no part of its words. -/
theorem lineWords_blanks_append {blanks : List Char} (h : ∀ c ∈ blanks, isBlank c = true)
    (cs : List Char) : lineWords (blanks ++ cs) = lineWords cs := by
  induction blanks with
  | nil => rfl
  | cons c blanks ih =>
    obtain ⟨hc, hblanks⟩ := List.forall_mem_cons.1 h
    rw [← ih hblanks]
    exact lineWords_append_blank hc [] (blanks ++ cs)

/-- Characters without a blank among them are one word. -/
theorem lineWords_of_isWord {cs : List Char} (h : IsWord cs) : lineWords cs = [cs] := by
  have hempty : (!cs.isEmpty) = true := by simpa using h.ne_nil
  unfold lineWords
  rw [List.splitOnP_eq_singleton h.not_blank, List.filter_singleton, hempty]
  rfl

/-- The words that a line is taken apart into are its maximal runs of characters that are no
    blanks. -/
theorem Spaced.texts_ofChars (cs : List Char) : (ofChars cs).texts = lineWords cs := by
  by_cases hblank : ∃ c ∈ cs, isBlank c = true
  · -- both sides of a blank are taken apart on their own
    obtain ⟨c, hmem, hc⟩ := hblank
    obtain ⟨front, back, hcs⟩ := List.append_of_mem hmem
    have hfront : front.length < cs.length := by simp [hcs]
    have hback : back.length < cs.length := by simp [hcs]; omega
    rw [hcs, texts_append_blank hc, lineWords_append_blank hc, texts_ofChars front,
      texts_ofChars back]
  · by_cases hnil : cs = []
    · subst hnil
      rfl
    · have hword : IsWord cs := by
        refine ⟨hnil, fun c hc => ?_⟩
        by_contra hc'
        exact hblank ⟨c, hc, by simpa using hc'⟩
      rw [ofChars_word hword, lineWords_of_isWord hword]
      rfl
termination_by cs.length

/-! ### Groups -/

/-- The words that `first` takes into its group when the words in `following` stand behind it. -/
def wordsTaken (first : List Char) (following : List (List Char)) : List (List Char) :=
  if first = Keyword.repetition.toList then following.take 1
  else if first = Keyword.ending.toList ∧ following.head? = some Keyword.repetition.toList then
    following.take 1
  else []

/-- The groups are the words of a line in order, and every group consists of its first word and
    what that word takes of the words behind it. -/
structure IsGrouping (words : List (List Char)) (groups : List (List (List Char))) : Prop where
  /-- No word is lost, and none is moved. -/
  flatten_eq : groups.flatten = words
  takes : ∀ front group back, groups = front ++ group :: back →
    ∃ first rest, group = first :: rest ∧ rest = wordsTaken first (rest ++ back.flatten)

namespace IsGrouping

theorem nil : IsGrouping [] [] where
  flatten_eq := rfl
  takes := by
    intro front group back h
    cases front with
    | nil => cases h
    | cons _ _ => cases h

/-- A group in front of others, which are the groups of the words behind it. -/
theorem cons {first : List Char} {rest following : List (List Char)}
    {groups : List (List (List Char))} (htaken : rest = wordsTaken first (rest ++ following))
    (h : IsGrouping following groups) :
    IsGrouping (first :: (rest ++ following)) ((first :: rest) :: groups) where
  flatten_eq := by rw [List.flatten_cons, h.flatten_eq, List.cons_append]
  takes := by
    intro front group back hgroups
    cases front with
    | nil =>
      obtain ⟨rfl, rfl⟩ := List.cons_eq_cons.1 hgroups
      rw [h.flatten_eq]
      exact ⟨first, rest, rfl, htaken⟩
    | cons _ front =>
      rw [List.cons_append] at hgroups
      exact h.takes front group back (List.cons_eq_cons.1 hgroups).2

/-- The first group begins with the first word, and the others are groups of the words behind
    it. -/
theorem uncons {words : List (List Char)} {group : List (List Char)}
    {groups : List (List (List Char))} (h : IsGrouping words (group :: groups)) :
    ∃ first rest, group = first :: rest ∧ words = first :: (rest ++ groups.flatten) ∧
      rest = wordsTaken first (rest ++ groups.flatten) ∧ IsGrouping groups.flatten groups := by
  obtain ⟨first, rest, rfl, htaken⟩ := h.takes [] group groups rfl
  refine ⟨first, rest, rfl, ?_, htaken, rfl, ?_⟩
  · rw [← h.flatten_eq, List.flatten_cons, List.cons_append]
  · intro front group' back hgroups
    exact h.takes ((first :: rest) :: front) group' back (by rw [hgroups, List.cons_append])

/-- Words can be grouped in one way only. -/
theorem unique {words : List (List Char)} {groups groups' : List (List (List Char))}
    (h : IsGrouping words groups) (h' : IsGrouping words groups') : groups = groups' := by
  induction groups generalizing words groups' with
  | nil =>
    cases groups' with
    | nil => rfl
    | cons group' more' =>
      -- a group has a first word
      obtain ⟨first', rest', -, hwords', -⟩ := h'.uncons
      rw [← h.flatten_eq] at hwords'
      cases hwords'
  | cons group more ih =>
    obtain ⟨first, rest, rfl, hwords, htaken, hmore⟩ := h.uncons
    cases groups' with
    | nil =>
      rw [← h'.flatten_eq] at hwords
      cases hwords
    | cons group' more' =>
      obtain ⟨first', rest', rfl, hwords', htaken', hmore'⟩ := h'.uncons
      obtain ⟨rfl, hbehind⟩ := List.cons_eq_cons.1 (hwords.symm.trans hwords')
      -- the same words stand behind the first one, so it takes the same words
      obtain rfl : rest = rest' := by rw [htaken, htaken', hbehind]
      rw [ih hmore (List.append_cancel_left hbehind ▸ hmore')]

end IsGrouping

/-! ### Counts -/

/-- The word writes the number `n` in decimal, leading zeros allowed, and `n` is not too large for
    a count. -/
structure IsCount (word : List Char) (n : Nat) : Prop where
  ne_nil : word ≠ []
  digits : ∀ c ∈ word, '0' ≤ c ∧ c ≤ '9'
  /-- The last digit counts once, each other digit ten times as much as the one behind it. -/
  value : Nat.ofDigits 10 (word.reverse.map fun c => c.toNat - '0'.toNat) = n
  le : n ≤ 4294967295

theorem Decimal.value_eq_ofDigits (cs : List Char) :
    value cs = Nat.ofDigits 10 (cs.reverse.map digit) := by
  rw [value, Nat.ofDigits_eq_foldr, List.foldr_map, List.foldr_reverse]
  congr 1
  funext n c
  simp [Nat.add_comm]

theorem Decimal.read?_eq_some_iff (cs : List Char) (n : Nat) :
    read? cs = some n ↔ cs ≠ [] ∧ (∀ c ∈ cs, '0' ≤ c ∧ c ≤ '9') ∧ value cs = n := by
  have hdigits : cs.all isDigit = true ↔ ∀ c ∈ cs, '0' ≤ c ∧ c ≤ '9' := by simp [isDigit]
  rw [read?, Option.ite_none_right_eq_some, Option.some_inj, hdigits, and_assoc]

/-- A word is read as a count if and only if it is one. -/
theorem repeatCount?_eq_some_iff (word : List Char) (n : UInt32) :
    repeatCount? word = some n ↔ IsCount word n.toNat := by
  have hread : repeatCount? word = some n ↔ Decimal.read? word = some n.toNat := by
    rw [repeatCount?, Decimal.readUpTo?, Option.map_eq_some_iff]
    constructor
    · rintro ⟨k, hk, rfl⟩
      obtain ⟨hk, hle⟩ := Option.filter_eq_some_iff.1 hk
      -- the number is small enough to be a word
      have hlt : k < UInt32.size := Nat.lt_succ_of_le (of_decide_eq_true hle)
      rw [UInt32.toNat_ofNat_of_lt' hlt, hk]
    · intro hk
      have hle : n.toNat ≤ maxRepeatCount := Nat.le_of_lt_succ n.toNat_lt
      exact ⟨n.toNat, Option.filter_eq_some_iff.2 ⟨hk, decide_eq_true hle⟩, UInt32.ofNat_toNat⟩
  rw [hread, Decimal.read?_eq_some_iff, Decimal.value_eq_ofDigits]
  constructor
  · rintro ⟨hne, hdigits, hvalue⟩
    exact ⟨hne, hdigits, hvalue, Nat.le_of_lt_succ n.toNat_lt⟩
  · intro h
    exact ⟨h.ne_nil, h.digits, h.value⟩

/-! ### Kinds -/

/-- The kind of a token by the words of its group. -/
structure HasKind (group : List (List Char)) (kind : TokenKind) : Prop where
  forward : kind = .forward ↔ group = [Keyword.forward.toList]
  left : kind = .left ↔ group = [Keyword.left.toList]
  right : kind = .right ↔ group = [Keyword.right.toList]
  repeatEnd : kind = .repeatEnd ↔ group = [Keyword.ending.toList, Keyword.repetition.toList]
  /-- A `REPEAT` with a good count. -/
  counted : ∀ n : UInt32, kind = .repeatStart (some n) ↔
    ∃ word, group = [Keyword.repetition.toList, word] ∧ IsCount word n.toNat
  /-- Any other `REPEAT`. -/
  uncounted : kind = .repeatStart none ↔ group.head? = some Keyword.repetition.toList ∧
    ∀ word n, group = [Keyword.repetition.toList, word] → ¬ IsCount word n
  /-- Any other group. -/
  unknown : kind = .unknown ↔ group ≠ [Keyword.forward.toList] ∧ group ≠ [Keyword.left.toList] ∧
    group ≠ [Keyword.right.toList] ∧
    group ≠ [Keyword.ending.toList, Keyword.repetition.toList] ∧
    group.head? ≠ some Keyword.repetition.toList

namespace WordGroup

/-- The texts of the words of a group. -/
def texts (g : WordGroup) : List (List Char) := g.words.map Word.text

/-- The kind of a word that stands alone. -/
theorem hasKind_single (w : Word) : HasKind (single w).texts (single w).kind := by
  have htexts : (single w).texts = [w.text] := rfl
  have hsame : (single w).kind = (single ⟨w.text, []⟩).kind := kind_single_congr rfl
  rw [htexts, hsame]
  generalize w.text = word
  by_cases hforward : word = Keyword.forward.toList
  · have hkind : (single ⟨Keyword.forward.toList, []⟩).kind = .forward := by decide
    rw [hforward, hkind]
    constructor <;> simp [Keyword.forward, Keyword.left, Keyword.right, Keyword.repetition]
  by_cases hleft : word = Keyword.left.toList
  · have hkind : (single ⟨Keyword.left.toList, []⟩).kind = .left := by decide
    rw [hleft, hkind]
    constructor <;> simp [Keyword.forward, Keyword.left, Keyword.right, Keyword.repetition]
  by_cases hright : word = Keyword.right.toList
  · have hkind : (single ⟨Keyword.right.toList, []⟩).kind = .right := by decide
    rw [hright, hkind]
    constructor <;> simp [Keyword.forward, Keyword.left, Keyword.right, Keyword.repetition]
  by_cases hrepeat : word = Keyword.repetition.toList
  · have hkind : (single ⟨Keyword.repetition.toList, []⟩).kind = .repeatStart none := by decide
    rw [hrepeat, hkind]
    constructor <;> simp [Keyword.forward, Keyword.left, Keyword.right, Keyword.repetition]
  · -- no command has this word
    have hkind : (single ⟨word, []⟩).kind = .unknown := by
      simp [kind, Word.is, hforward, hleft, hright, hrepeat]
    rw [hkind]
    constructor <;> simp [hforward, hleft, hright, hrepeat]

/-- A `REPEAT` with a word behind it has the count that the word writes, if it writes one. -/
theorem hasKind_repeat (word : List Char) :
    HasKind [Keyword.repetition.toList, word] (.repeatStart (repeatCount? word)) where
  forward := by simp
  left := by simp
  right := by simp
  repeatEnd := by simp [Keyword.ending, Keyword.repetition]
  counted := by
    intro n
    rw [TokenKind.repeatStart.injEq, repeatCount?_eq_some_iff]
    constructor
    · intro hcount
      exact ⟨word, rfl, hcount⟩
    · rintro ⟨word', hgroup, hcount⟩
      cases hgroup
      exact hcount
  uncounted := by
    rw [TokenKind.repeatStart.injEq]
    constructor
    · intro hnone
      refine ⟨rfl, fun word' n hgroup hcount => ?_⟩
      cases hgroup
      -- a count is small enough to be a word
      have hlt : n < UInt32.size := Nat.lt_succ_of_le hcount.le
      have hsome : repeatCount? word = some (UInt32.ofNat n) := by
        rw [repeatCount?_eq_some_iff, UInt32.toNat_ofNat_of_lt' hlt]
        exact hcount
      rw [hnone] at hsome
      cases hsome
    · rintro ⟨-, hcount⟩
      rw [Option.eq_none_iff_forall_ne_some]
      intro n hsome
      exact hcount word n.toNat rfl ((repeatCount?_eq_some_iff word n).1 hsome)
  unknown := by simp

/-- The kind of two words that belong together. -/
theorem hasKind_pair {w v : Word} (hfuses : fuses w v = true) :
    HasKind (pair w v).texts (pair w v).kind := by
  have htexts : (pair w v).texts = [w.text, v.text] := rfl
  rw [htexts]
  by_cases hrepeat : w.text = Keyword.repetition.toList
  · have hkind : (pair w v).kind = .repeatStart (repeatCount? v.text) := by
      simp [kind, Word.is, hrepeat]
    rw [hkind, hrepeat]
    exact hasKind_repeat v.text
  · obtain ⟨hw, hv⟩ : w.text = Keyword.ending.toList ∧ v.text = Keyword.repetition.toList := by
      simpa [fuses, Word.is, hrepeat] using hfuses
    have hkind : (pair w v).kind = .repeatEnd := by simp [kind, Word.is, hrepeat]
    rw [hkind, hw, hv]
    constructor <;> simp [Keyword.ending, Keyword.repetition]

/-- The words of a group tell its kind. -/
theorem hasKind_of_mem_ofWords {ws : List Word} {g : WordGroup} (h : g ∈ ofWords ws) :
    HasKind g.texts g.kind := by
  cases g with
  | single w => exact hasKind_single w
  | pair w v => exact hasKind_pair (fuses_of_pair_mem h)

/-! ### Groups by their texts -/

theorem wordsTaken_of_fuses {w v : Word} (h : fuses w v = true) (following : List (List Char)) :
    wordsTaken w.text (v.text :: following) = [v.text] := by
  simp only [fuses, Word.is, Bool.or_eq_true, Bool.and_eq_true, beq_iff_eq] at h
  unfold wordsTaken
  by_cases hrepeat : w.text = Keyword.repetition.toList
  · rw [if_pos hrepeat]
    rfl
  · obtain ⟨hend, hnext⟩ := h.resolve_left hrepeat
    rw [if_neg hrepeat, if_pos ⟨hend, congrArg some hnext⟩]
    rfl

theorem wordsTaken_of_not_fuses {w v : Word} (h : ¬ fuses w v = true) (following : List (List Char)) :
    wordsTaken w.text (v.text :: following) = [] := by
  simp only [fuses, Word.is, Bool.or_eq_true, Bool.and_eq_true, beq_iff_eq, not_or] at h
  unfold wordsTaken
  rw [if_neg h.1, if_neg fun hend => h.2 (hend.imp_right Option.some.inj)]

/-- The last word of a line takes nothing. -/
theorem wordsTaken_nil (first : List Char) : wordsTaken first [] = [] := by
  simp [wordsTaken]

/-- The groups of some words are grouped by the rule. -/
theorem isGrouping_ofWords (ws : List Word) :
    IsGrouping (ws.map Word.text) ((ofWords ws).map texts) := by
  fun_induction ofWords ws with
  | case1 => exact .nil
  | case2 w => exact IsGrouping.cons (wordsTaken_nil w.text).symm IsGrouping.nil
  | case3 w v more hfuses ih => exact .cons (wordsTaken_of_fuses hfuses _).symm ih
  | case4 w v more hfuses ih => exact .cons (wordsTaken_of_not_fuses hfuses _).symm ih

/-- The words of a group are those of its text. -/
theorem lineWords_text {ws : List Word} (h : Spaced.Regular ⟨[], ws⟩) {g : WordGroup}
    (hg : g ∈ ofWords ws) : lineWords g.text = g.texts := by
  cases g with
  | single w => exact lineWords_of_isWord (h.isWord w (mem_of_mem_words hg List.mem_cons_self))
  | pair w v =>
    have hw : w ∈ ws := mem_of_mem_words hg List.mem_cons_self
    have hv : v ∈ ws := mem_of_mem_words hg (List.mem_cons_of_mem w List.mem_cons_self)
    have hne : w.gap ≠ [] := rel_of_pair_mem h.apart hg
    have hblank := h.gap_blank w hw
    -- the gap between the words begins with a blank, at which the text is split
    obtain ⟨c, gap, hgap⟩ := List.exists_cons_of_ne_nil hne
    rw [hgap] at hblank
    obtain ⟨hc, hblanks⟩ := List.forall_mem_cons.1 hblank
    rw [text, hgap, List.append_assoc, List.cons_append, lineWords_append_blank hc,
      lineWords_blanks_append hblanks, lineWords_of_isWord (h.isWord w hw),
      lineWords_of_isWord (h.isWord v hv)]
    rfl

end WordGroup

/-! ### Lines -/

/-- The words that a token is made of. -/
def Token.words (t : Token) : List (List Char) := lineWords t.text.toList

/-- A token of some groups has the text and the kind of one of them. -/
theorem WordGroup.exists_group_of_mem_place {line column : Nat} {groups : List WordGroup}
    {t : Token} (h : t ∈ place line column groups) :
    ∃ g ∈ groups, t.text.toList = g.text ∧ t.kind = g.kind := by
  induction groups generalizing column with
  | nil => cases h
  | cons g groups ih =>
    rcases List.mem_cons.1 h with rfl | h
    · exact ⟨g, List.mem_cons_self, String.toList_ofList, rfl⟩
    · obtain ⟨g', hg', hsame⟩ := ih h
      exact ⟨g', List.mem_cons_of_mem g hg', hsame⟩

/-- The words of the tokens are the words of the groups, one token for each group. -/
theorem WordGroup.map_words_place (line column : Nat) {groups : List WordGroup}
    (h : ∀ g ∈ groups, lineWords g.text = g.texts) :
    (place line column groups).map Token.words = groups.map texts := by
  induction groups generalizing column with
  | nil => rfl
  | cons g groups ih =>
    obtain ⟨hwords, hmore⟩ := List.forall_mem_cons.1 h
    rw [place, List.map_cons, List.map_cons, ih _ hmore, Token.words, String.toList_ofList, hwords]

namespace Token

theorem hasKind_of_mem_ofLine {line : Nat} {s : String} {t : Token} (h : t ∈ ofLine line s) :
    HasKind t.words t.kind := by
  obtain ⟨g, hg, htext, hkind⟩ := WordGroup.exists_group_of_mem_place h
  have hregular := (Spaced.regular_ofChars s.toList).withoutLead
  rw [words, htext, hkind, WordGroup.lineWords_text hregular hg]
  exact WordGroup.hasKind_of_mem_ofWords hg

/-- The words of the tokens are the words of the line, grouped by the rule. -/
theorem isGrouping_map_words_ofLine (line : Nat) (s : String) :
    IsGrouping (lineWords s.toList) ((ofLine line s).map words) := by
  have hregular := (Spaced.regular_ofChars s.toList).withoutLead
  rw [ofLine, ofLineChars, WordGroup.map_words_place line _ fun g hg =>
    WordGroup.lineWords_text hregular hg, ← Spaced.texts_ofChars]
  exact WordGroup.isGrouping_ofWords _

/-- The kinds of the tokens of a line depend on nothing but its words. -/
theorem map_kind_ofLine_congr {s s' : String} (h : lineWords s.toList = lineWords s'.toList)
    (line line' : Nat) : (ofLine line s).map kind = (ofLine line' s').map kind := by
  rw [← Spaced.texts_ofChars, ← Spaced.texts_ofChars] at h
  rw [ofLine, ofLine, map_kind_ofLineChars, map_kind_ofLineChars]
  exact WordGroup.map_kind_ofWords_congr h

/-- There is exactly one way to group the words of a line by the rule, and the tokens of the line
    are these groups, one token for each and in order.  The words of a token tell its kind, so
    lines with the same words have tokens of the same kinds, whatever stands between the words. -/
theorem ofLine_groups_words :
    (∀ (line : Nat) (s : String),
      (∀ groups, IsGrouping (lineWords s.toList) groups ↔ groups = (ofLine line s).map words) ∧
      ∀ t ∈ ofLine line s, HasKind t.words t.kind) ∧
    ∀ (line line' : Nat) (s s' : String), lineWords s.toList = lineWords s'.toList →
      (ofLine line s).map kind = (ofLine line' s').map kind := by
  constructor
  · intro line s
    have hgroups := isGrouping_map_words_ofLine line s
    refine ⟨fun groups => ?_, fun t ht => hasKind_of_mem_ofLine ht⟩
    constructor
    · intro hgroups'
      exact hgroups'.unique hgroups
    · rintro rfl
      exact hgroups
  · intro line line' s s' hwords
    exact map_kind_ofLine_congr hwords line line'

/-- A `REPEAT` that takes an `END`, so that the next `REPEAT` takes the number behind it, then a
    count that is just too large and one with leading zeros, in two layouts. -/
theorem ofLine_groups_words_regrouped :
    let s := "REPEAT END REPEAT 2 REPEAT 4294967296 REPEAT 004294967295 END REPEAT REPEAT +2 END"
    let s' := "\tREPEAT\u00a0END  REPEAT\u30002\r\nREPEAT 4294967296 REPEAT 004294967295" ++
      "\u2003END\u0085REPEAT REPEAT +2 END "
    let groups := ["REPEAT END", "REPEAT 2", "REPEAT 4294967296", "REPEAT 004294967295",
      "END REPEAT", "REPEAT +2", "END"].map fun group => lineWords group.toList
    IsGrouping (lineWords s.toList) groups ∧
    (ofLine 7 s).map kind =
      [.repeatStart none, .repeatStart (some 2), .repeatStart none, .repeatStart (some 4294967295),
        .repeatEnd, .repeatStart none, .unknown] ∧
    lineWords s'.toList = lineWords s.toList ∧ (ofLine 3 s').map kind = (ofLine 7 s).map kind := by
  intro s s' groups
  have hwords : lineWords s'.toList = lineWords s.toList := by decide +kernel
  have hgroups : groups = (ofLine 7 s).map words := by decide +kernel
  refine ⟨((ofLine_groups_words.1 7 s).1 groups).2 hgroups, by decide +kernel, hwords, ?_⟩
  exact ofLine_groups_words.2 3 7 s' s hwords

end Token
end RobotScript
