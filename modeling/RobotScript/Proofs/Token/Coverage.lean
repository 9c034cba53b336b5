import RobotScript.Proofs.Text.Pieces
import RobotScript.Proofs.Token.Place

/-! # Tokens cover their line

    A line is blanks, then its tokens, each with the blanks behind it.  No
    character is lost and none belongs to two tokens, neighbours are kept apart
    by a gap, and a token says at which character of its line it begins.

    What the groups of a line cover is what its words cover, so all of this
    comes from the layout of the words. -/

namespace RobotScript

/-! ### Spots -/

/-- A token of a line together with the blanks that follow it. -/
structure Spot where
  token : Token
  /-- The blanks between this token and the next one, or the end of the line. -/
  gap : List Char
deriving Repr, DecidableEq

/-- The characters that a token and the gap behind it cover. -/
def Spot.chars (s : Spot) : List Char := s.token.text.toList ++ s.gap

/-- The characters begin and end with one that is no blank. -/
structure IsTight (cs : List Char) : Prop where
  begins : ∃ c, cs.head? = some c ∧ isBlank c = false
  ends : ∃ c, cs.getLast? = some c ∧ isBlank c = false

/-- The line numbered `line` is the blanks of `lead` and then the tokens of `spots`, which say
    where they stand. -/
structure LaidOut (line : Nat) (cs lead : List Char) (spots : List Spot) : Prop where
  /-- Nothing is lost, and nothing is there twice. -/
  chars_eq : lead ++ spots.flatMap Spot.chars = cs
  lead_blank : ∀ c ∈ lead, isBlank c = true
  gap_blank : ∀ s ∈ spots, ∀ c ∈ s.gap, isBlank c = true
  /-- Behind every token but the last there is a gap. -/
  apart : spots.IsChain fun s _ => s.gap ≠ []
  tight : ∀ s ∈ spots, IsTight s.token.text.toList
  /-- A column is 1 for the first character of the line. -/
  position : ∀ front s back, spots = front ++ s :: back →
    s.token.position = ⟨line, 1 + (lead ++ front.flatMap Spot.chars).length⟩

/-! ### Words and groups -/

theorem IsWord.isTight {cs : List Char} (h : IsWord cs) : IsTight cs := by
  have hlast := List.getLast_mem h.ne_nil
  have hhead := List.head_mem h.ne_nil
  exact ⟨⟨_, List.head?_eq_some_head h.ne_nil, h.not_blank _ hhead⟩,
    ⟨_, List.getLast?_eq_some_getLast h.ne_nil, h.not_blank _ hlast⟩⟩

/-- Whatever stands between two words, they begin and end as one. -/
theorem IsTight.append {cs ds : List Char} (hcs : IsTight cs) (between : List Char)
    (hds : IsTight ds) : IsTight (cs ++ between ++ ds) := by
  obtain ⟨c, hc, hcblank⟩ := hcs.begins
  obtain ⟨d, hd, hdblank⟩ := hds.ends
  refine ⟨⟨c, ?_, hcblank⟩, ⟨d, ?_, hdblank⟩⟩
  · rw [List.append_assoc, List.head?_append, hc]
    rfl
  · rw [List.getLast?_append, hd]
    rfl

namespace WordGroup

/-- A group covers what its words cover. -/
theorem text_append_gap (g : WordGroup) : g.text ++ g.gap = g.words.flatMap Word.chars := by
  cases g with
  | single w => simp [text, gap, words, Word.chars]
  | pair w v => simp [text, gap, words, Word.chars]

theorem isTight_text {g : WordGroup} (h : ∀ w ∈ g.words, IsWord w.text) : IsTight g.text := by
  cases g with
  | single w => exact (h w List.mem_cons_self).isTight
  | pair w v =>
    have hw := (h w List.mem_cons_self).isTight
    have hv := (h v (List.mem_cons_of_mem w List.mem_cons_self)).isTight
    exact hw.append w.gap hv

/-- The gap behind a group is the one behind its last word. -/
theorem exists_gap_eq (g : WordGroup) : ∃ w ∈ g.words, w.gap = g.gap := by
  cases g with
  | single w => exact ⟨w, List.mem_cons_self, rfl⟩
  | pair w v => exact ⟨v, List.mem_cons_of_mem w List.mem_cons_self, rfl⟩

/-- Groups are kept apart by the gaps between their words. -/
theorem isChain_gap_ofWords {ws : List Word} (h : ws.IsChain fun w _ => w.gap ≠ []) :
    (ofWords ws).IsChain fun g _ => g.gap ≠ [] := by
  fun_induction ofWords ws with
  | case1 => exact .nil
  | case2 w => exact .singleton _
  | case3 w v more hfuses ih =>
    refine List.isChain_cons.2 ⟨?_, ih h.tail.tail⟩
    intro g hg
    cases more with
    | nil => cases hg
    | cons u more => exact (List.isChain_cons_cons.1 h.tail).1
  | case4 w v more hfuses ih =>
    refine List.isChain_cons.2 ⟨?_, ih h.tail⟩
    intro g hg
    exact (List.isChain_cons_cons.1 h).1

/-- The tokens of a line's groups with the gaps behind them, the first of them at the given
    column. -/
def spots (line column : Nat) : List WordGroup → List Spot
  | [] => []
  | g :: more =>
    ⟨⟨g.kind, String.ofList g.text, ⟨line, column⟩⟩, g.gap⟩ ::
      spots line (column + g.text.length + g.gap.length) more

theorem map_token_spots (line column : Nat) (groups : List WordGroup) :
    (spots line column groups).map Spot.token = place line column groups := by
  induction groups generalizing column with
  | nil => rfl
  | cons g groups ih => rw [spots, place, List.map_cons, ih]

theorem flatMap_chars_spots (line column : Nat) (groups : List WordGroup) :
    (spots line column groups).flatMap Spot.chars =
      (groups.flatMap words).flatMap Word.chars := by
  induction groups generalizing column with
  | nil => rfl
  | cons g groups ih =>
    rw [spots, List.flatMap_cons, List.flatMap_cons, List.flatMap_append, ih, Spot.chars,
      String.toList_ofList, text_append_gap]

/-- A spot is that of a group, with its text and its gap. -/
theorem exists_group_of_mem_spots {line column : Nat} {groups : List WordGroup} {s : Spot}
    (h : s ∈ spots line column groups) :
    ∃ g ∈ groups, s.token.text.toList = g.text ∧ s.gap = g.gap := by
  induction groups generalizing column with
  | nil => cases h
  | cons g groups ih =>
    rw [spots] at h
    rcases List.mem_cons.1 h with rfl | h
    · exact ⟨g, List.mem_cons_self, String.toList_ofList, rfl⟩
    · obtain ⟨g', hg', hsame⟩ := ih h
      exact ⟨g', List.mem_cons_of_mem g hg', hsame⟩

theorem isChain_gap_spots (line column : Nat) {groups : List WordGroup}
    (h : groups.IsChain fun g _ => g.gap ≠ []) :
    (spots line column groups).IsChain fun s _ => s.gap ≠ [] := by
  induction groups generalizing column with
  | nil => exact .nil
  | cons g groups ih =>
    rw [spots]
    refine List.isChain_cons.2 ⟨?_, ih _ h.tail⟩
    intro s hs
    cases groups with
    | nil => cases hs
    | cons next more => exact (List.isChain_cons_cons.1 h).1

/-- A token of a group begins behind the characters of all spots before it. -/
theorem position_spots {line column : Nat} {groups : List WordGroup} {front back : List Spot}
    {s : Spot} (h : spots line column groups = front ++ s :: back) :
    s.token.position = ⟨line, column + (front.flatMap Spot.chars).length⟩ := by
  induction groups generalizing column front with
  | nil => simp [spots] at h
  | cons g groups ih =>
    rw [spots] at h
    cases front with
    | nil =>
      cases h
      rfl
    | cons first front =>
      rw [List.cons_append] at h
      obtain ⟨rfl, hrest⟩ := List.cons_eq_cons.1 h
      rw [ih hrest, List.flatMap_cons, List.length_append, Spot.chars, List.length_append,
        String.toList_ofList]
      congr 1
      show column + g.text.length + g.gap.length + _ = column + (g.text.length + g.gap.length + _)
      omega

end WordGroup

/-! ### Lines -/

namespace Token

/-- A line is laid out with its tokens. -/
theorem exists_laidOut_ofLineChars (line : Nat) (cs : List Char) :
    ∃ lead spots, LaidOut line cs lead spots ∧ spots.map Spot.token = ofLineChars line cs := by
  have hregular := Spaced.regular_ofChars cs
  have hchars := Spaced.chars_ofChars cs
  unfold ofLineChars
  generalize Spaced.ofChars cs = s at hregular hchars
  refine ⟨s.lead, WordGroup.spots line (1 + s.lead.length) (WordGroup.ofWords s.words), ?_,
    WordGroup.map_token_spots line _ _⟩
  constructor
  · rw [WordGroup.flatMap_chars_spots, WordGroup.flatMap_words_ofWords]
    exact hchars
  · exact hregular.lead_blank
  · -- a gap behind a token is one behind a word
    intro spot hspot
    obtain ⟨g, hg, -, hgap⟩ := WordGroup.exists_group_of_mem_spots hspot
    obtain ⟨w, hw, hwgap⟩ := g.exists_gap_eq
    rw [hgap, ← hwgap]
    exact hregular.gap_blank w (WordGroup.mem_of_mem_words hg hw)
  · exact WordGroup.isChain_gap_spots line _ (WordGroup.isChain_gap_ofWords hregular.apart)
  · intro spot hspot
    obtain ⟨g, hg, htext, -⟩ := WordGroup.exists_group_of_mem_spots hspot
    rw [htext]
    apply WordGroup.isTight_text
    intro w hw
    exact hregular.isWord w (WordGroup.mem_of_mem_words hg hw)
  · intro front spot back hspots
    rw [WordGroup.position_spots hspots, List.length_append, Nat.add_assoc]

/-- A token of a line is found in it at its column. -/
theorem exists_eq_append_of_mem_ofLineChars {line : Nat} {cs : List Char} {t : Token}
    (h : t ∈ ofLineChars line cs) :
    ∃ before behind, cs = before ++ t.text.toList ++ behind ∧
      t.position = ⟨line, 1 + before.length⟩ := by
  obtain ⟨lead, spots, hlaid, htokens⟩ := exists_laidOut_ofLineChars line cs
  rw [← htokens] at h
  obtain ⟨spot, hspot, rfl⟩ := List.mem_map.1 h
  obtain ⟨front, back, hspots⟩ := List.append_of_mem hspot
  refine ⟨lead ++ front.flatMap Spot.chars, spot.gap ++ back.flatMap Spot.chars, ?_,
    hlaid.position front spot back hspots⟩
  rw [← hlaid.chars_eq, hspots]
  simp [Spot.chars]

end Token
end RobotScript
