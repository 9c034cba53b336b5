import RobotScript.Proofs.Parser.Extension
import RobotScript.Proofs.Token.Grouping

/-! # The layout of a program

    Where the words of a program stand does not matter: they can be put on any
    lines and separated by any blanks, as long as a `REPEAT` keeps its count and
    an `END` keeps its `REPEAT` on its line.

    This is about programs that are read.  In a text that is refused a line end
    can keep two words apart that would be one token on one line. -/

namespace RobotScript

/-- The two words are one token of a program: a `REPEAT` and its count, or an `END` and its
    `REPEAT`. -/
def Word.Joins (w v : Word) : Prop :=
  (w.is Keyword.repetition ∧ (repeatCount? v.text).isSome) ∨
    (w.is Keyword.ending ∧ v.is Keyword.repetition)

instance (w v : Word) : Decidable (w.Joins v) :=
  inferInstanceAs (Decidable (_ ∨ _))

/-- The second layout has the words of the first, with other blanks around them. -/
structure Relaid (s t : Spaced) : Prop where
  texts_eq : t.texts = s.texts
  lead_blank : ∀ c ∈ t.lead, isBlank c = true
  gap_blank : ∀ w ∈ t.words, ∀ c ∈ w.gap, isBlank c = true
  /-- Between two words there is a gap, and it has no line end if the words are one token. -/
  apart : t.words.IsChain fun w v => w.gap ≠ [] ∧ (w.Joins v → '\n' ∉ w.gap)

/-- Words that are laid out anew are still apart. -/
theorem Relaid.regular {s t : Spaced} (h : Relaid s t) (hs : s.Regular) : t.Regular where
  lead_blank := h.lead_blank
  isWord := by
    intro w hw
    have hmem : w.text ∈ s.texts := by
      rw [← h.texts_eq]
      exact List.mem_map_of_mem hw
    obtain ⟨v, hv, htext⟩ := List.mem_map.1 hmem
    rw [← htext]
    exact hs.isWord v hv
  gap_blank := h.gap_blank
  apart := h.apart.imp fun _ _ hgap => hgap.1

namespace WordGroup

/-- A pair that is a proper token is a `REPEAT` with its count or an `END` with its `REPEAT`. -/
theorem joins_of_isProper {w v : Word} (hfuses : fuses w v = true)
    (hproper : (pair w v).kind.IsProper) : w.Joins v := by
  by_cases hw : w.is Keyword.repetition = true
  · have hcount : repeatCount? v.text ≠ none := by
      intro hnone
      rw [kind, if_pos hw, hnone] at hproper
      exact hproper.2 rfl
    exact .inl ⟨hw, Option.isSome_iff_ne_none.2 hcount⟩
  · rw [fuses, Bool.or_eq_true, Bool.and_eq_true] at hfuses
    exact .inr (hfuses.resolve_left hw)

end WordGroup

namespace Program

/-- All tokens of a text that is read are proper. -/
theorem isProper_of_parse {text : String} {limit : Option Nat} {tree : Action}
    (h : parse text limit = .ok tree) : ∀ k ∈ textKinds text.toList, k.IsProper := by
  intro k hk
  rw [← map_kind_ofText_eq_textKinds] at hk
  obtain ⟨i, hi⟩ := List.mem_iff_getElem?.1 hk
  have hright := not_offends_of_parseTokens h i
  constructor
  · rintro rfl
    exact hright (.unknown hi)
  · rintro rfl
    exact hright (.malformed hi)

/-- Texts with tokens of the same kinds are read as the same tree. -/
theorem parse_of_textKinds_eq {text text' : String} {limit : Option Nat} {tree : Action}
    (h : parse text limit = .ok tree) (hkinds : textKinds text'.toList = textKinds text.toList) :
    parse text' limit = .ok tree := by
  obtain ⟨hcanonical, hwritten, hlimit⟩ := isCanonical_of_parseTokens h
  refine parseTokens_of_isCanonical hcanonical ?_ hlimit
  rw [hwritten, map_kind_ofText_eq_textKinds, map_kind_ofText_eq_textKinds, hkinds]

/-- A program whose words are laid out anew is read as the same tree. -/
theorem parse_chars_of_relaid {text : String} {limit : Option Nat} {tree : Action}
    (h : parse text limit = .ok tree) {layout : Spaced}
    (hlayout : Relaid (Spaced.ofChars text.toList) layout) :
    parse (String.ofList layout.chars) limit = .ok tree := by
  have hproper := isProper_of_parse h
  have hregular := hlayout.regular (Spaced.regular_ofChars text.toList)
  have honeLine := textKinds_eq_lineKinds hproper
  rw [honeLine] at hproper
  -- the groups of the layout are those of the text on one line
  have hgroups : (WordGroup.ofWords layout.words).map WordGroup.kind = lineKinds text.toList :=
    WordGroup.map_kind_ofWords_congr hlayout.texts_eq
  have hpairs : ∀ w v, WordGroup.pair w v ∈ WordGroup.ofWords layout.words → '\n' ∉ w.gap := by
    intro w v hpair
    have hkind : (WordGroup.pair w v).kind ∈ lineKinds text.toList := by
      rw [← hgroups]
      exact List.mem_map_of_mem hpair
    have hjoins :=
      WordGroup.joins_of_isProper (WordGroup.fuses_of_pair_mem hpair) (hproper _ hkind)
    exact (WordGroup.rel_of_pair_mem hlayout.apart hpair).2 hjoins
  refine parse_of_textKinds_eq h ?_
  rw [String.toList_ofList, textKinds_chars_of_unbroken hregular hpairs, hgroups, honeLine]

/-- A program with one command on a line, and the same words with line ends wherever they may
    stand and with wider blanks inside the tokens. -/
theorem parse_chars_of_relaid_repeat :
    let text := "REPEAT 02\n\tLEFT FORWARD\r\nEND REPEAT"
    let layout : Spaced :=
      ⟨['\n'], [⟨"REPEAT".toList, ['\u3000', '\r']⟩, ⟨"02".toList, [' ']⟩,
        ⟨"LEFT".toList, ['\n', '\n']⟩, ⟨"FORWARD".toList, ['\t']⟩, ⟨"END".toList, ['\u00a0']⟩,
        ⟨"REPEAT".toList, ['\r', '\n']⟩]⟩
    let tree : Action := .sequence [.repeated 2 (.sequence [.turnLeft, .moveForward])]
    parse text (some 1) = .ok tree ∧ Relaid (Spaced.ofChars text.toList) layout ∧
      parse "\nREPEAT\u3000\r02 LEFT\n\nFORWARD\tEND\u00a0REPEAT\r\n" (some 1) = .ok tree := by
  intro text layout tree
  have hparse : parse text (some 1) = .ok tree := by
    have hcanonical : Action.IsCanonical tree := ⟨⟨trivial, trivial, trivial⟩, trivial⟩
    refine parseTokens_of_isCanonical hcanonical (by decide) ?_
    rintro most ⟨⟩
    decide
  have hgaps : (layout.words.all fun w => w.gap.all isBlank) = true := by decide
  have hlayout : Relaid (Spaced.ofChars text.toList) layout :=
    ⟨by decide, List.forall_mem_singleton.2 rfl,
      fun w hw => List.all_eq_true.1 (List.all_eq_true.1 hgaps w hw), by decide⟩
  have hchars : String.ofList layout.chars =
      "\nREPEAT\u3000\r02 LEFT\n\nFORWARD\tEND\u00a0REPEAT\r\n" := by decide
  have hrelaid := parse_chars_of_relaid hparse hlayout
  rw [hchars] at hrelaid
  exact ⟨hparse, hlayout, hrelaid⟩

end Program
end RobotScript
