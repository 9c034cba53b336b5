import RobotScript.Proofs.Action.Printing

/-! # Writing the text of an action

    The text of an action is written in rounds.  A round takes the next item
    from the stack, writes the line it begins with, and puts the items that
    follow in its place.  A line that cannot be padded stops everything.

    What the rounds keep is stated for any stack: the text so far, followed by
    the lines that the stack stands for, is the whole text.  Every round takes
    one step off the size of the stack, so the number of rounds is known.  If
    all lines can be padded, the rounds end with the text by recursion on the
    tree (`text?_eq_pretty`); if not, they end at a line that cannot
    (`text?_eq_none_iff_stops`). -/

namespace RobotScript

/-! ### Rounds -/

/-- A state of the writing: the items still to be written, next item first, and the text so far. -/
structure Rendering where
  stack : List ListingItem
  text : String

namespace Rendering

/-- Nothing of the action is written yet. -/
def start (a : Action) : Rendering := ⟨[.node a 0], ""⟩

/-- What a round comes to. -/
inductive Round where
  /-- The round leads to another state. -/
  | next (r : Rendering)
  /-- Nothing is left to be written. -/
  | finished
  /-- The next line cannot be padded. -/
  | stopped

/-- One round. -/
def round : Rendering → Round
  | ⟨[], _⟩ => .finished
  | ⟨item :: stack, text⟩ =>
    match item.line? with
    | none => .next ⟨item.rest ++ stack, text⟩
    | some line =>
      if line.Fits then .next ⟨item.rest ++ stack, text ++ line.text⟩ else .stopped

/-- Writing goes from one state to another in `n` rounds. -/
inductive Rounds : Nat → Rendering → Rendering → Prop where
  /-- No round is made. -/
  | zero (r : Rendering) : Rounds 0 r r
  /-- One round is made, and the others after it. -/
  | succ {n : Nat} {r r' r'' : Rendering} (hround : r.round = .next r') (hmore : Rounds n r' r'') :
      Rounds (n + 1) r r''

/-- The rounds lead to a line that cannot be padded. -/
def Stops (r : Rendering) : Prop := ∃ n r', Rounds n r r' ∧ r'.round = .stopped

/-! ### One round -/

/-- The text of the line that an item begins with. -/
def lineText (item : ListingItem) : String := String.join (item.line?.toList.map Line.text)

/-- A line that can be padded is written. -/
theorem round_of_fits {item : ListingItem} (h : ∀ l ∈ item.line?, l.Fits)
    (stack : List ListingItem) (text : String) :
    round ⟨item :: stack, text⟩ = .next ⟨item.rest ++ stack, text ++ lineText item⟩ := by
  cases hline : item.line? with
  | none => simp [round, lineText, hline]
  | some line =>
    have hfits : line.Fits := h line hline
    simp [round, lineText, hline, hfits]

theorem round_of_not_fits {item : ListingItem} {line : Line} (hline : item.line? = some line)
    (h : ¬ line.Fits) (stack : List ListingItem) (text : String) :
    round ⟨item :: stack, text⟩ = .stopped := by
  simp only [round, hline, if_neg h]

/-- The lines of a stack are the line of its first item and the lines of what takes its place. -/
theorem flatMap_lines_cons (item : ListingItem) (stack : List ListingItem) :
    (item :: stack).flatMap ListingItem.lines =
      item.line?.toList ++ (item.rest ++ stack).flatMap ListingItem.lines := by
  rw [List.flatMap_cons, item.lines_eq, List.flatMap_append, List.append_assoc]

/-- A round takes one step off the size of the stack. -/
theorem sizeOfStack_rest_append (item : ListingItem) (stack : List ListingItem) :
    ListingItem.sizeOfStack (item :: stack) =
      ListingItem.sizeOfStack (item.rest ++ stack) + 1 := by
  have hrest := ListingItem.sizeOfStack_rest item
  rw [ListingItem.sizeOfStack_append, ListingItem.sizeOfStack]
  omega

/-! ### All rounds -/

/-- If all lines of the stack can be padded, the rounds write them all, one after the other. -/
theorem rounds_of_fits : (stack : List ListingItem) → (text : String) →
    (∀ l ∈ stack.flatMap ListingItem.lines, l.Fits) →
    Rounds (ListingItem.sizeOfStack stack) ⟨stack, text⟩
      ⟨[], text ++ String.join ((stack.flatMap ListingItem.lines).map Line.text)⟩
  | [], text, _ => by
    rw [List.flatMap_nil, List.map_nil, String.join_nil, String.append_empty]
    exact .zero _
  | item :: stack, text, h => by
    rw [flatMap_lines_cons] at h ⊢
    have hline : ∀ l ∈ item.line?, l.Fits := fun l hl =>
      h l (List.mem_append_left _ (Option.mem_toList.2 hl))
    have hmore := rounds_of_fits (item.rest ++ stack) (text ++ lineText item)
      fun l hl => h l (List.mem_append_right _ hl)
    rw [sizeOfStack_rest_append]
    refine .succ (round_of_fits hline stack text) ?_
    rwa [List.map_append, String.join_append, ← String.append_assoc]
termination_by stack => ListingItem.sizeOfStack stack
decreasing_by exact ListingItem.sizeOfStack_rest_append_lt item stack

/-- If some line of the stack cannot be padded, the rounds lead to such a line. -/
theorem stops_of_not_fits : (stack : List ListingItem) → (text : String) →
    (∃ l ∈ stack.flatMap ListingItem.lines, ¬ l.Fits) → Stops ⟨stack, text⟩
  | [], _, h => by
    obtain ⟨l, hl, -⟩ := h
    cases hl
  | item :: stack, text, h => by
    by_cases hline : ∃ l ∈ item.line?, ¬ l.Fits
    · obtain ⟨l, hl, hwide⟩ := hline
      exact ⟨0, _, .zero _, round_of_not_fits hl hwide stack text⟩
    · have hfits : ∀ l ∈ item.line?, l.Fits := by simpa using hline
      -- the line that is too wide is one of those behind this one
      rw [flatMap_lines_cons] at h
      obtain ⟨l, hl, hwide⟩ := h
      have hlater : l ∈ (item.rest ++ stack).flatMap ListingItem.lines := by
        rcases List.mem_append.1 hl with hl | hl
        · exact absurd (hfits l (Option.mem_toList.1 hl)) hwide
        · exact hl
      obtain ⟨n, r', hrounds, hstopped⟩ :=
        stops_of_not_fits (item.rest ++ stack) (text ++ lineText item) ⟨l, hlater, hwide⟩
      exact ⟨n + 1, r', .succ (round_of_fits hfits stack text) hrounds, hstopped⟩
termination_by stack => ListingItem.sizeOfStack stack
decreasing_by exact ListingItem.sizeOfStack_rest_append_lt item stack

/-- The rounds have one end. -/
theorem Rounds.end_unique {n n' : Nat} {r e e' : Rendering} (h : Rounds n r e) (h' : Rounds n' r e')
    (he : ∀ r', e.round ≠ .next r') (he' : ∀ r', e'.round ≠ .next r') : e = e' := by
  induction h generalizing n' with
  | zero r =>
    cases h' with
    | zero => rfl
    | succ hround _ => exact absurd hround (he _)
  | succ hround _ ih =>
    cases h' with
    | zero => exact absurd hround (he' _)
    | succ hround' hmore' =>
      obtain rfl := Round.next.inj (hround.symm.trans hround')
      exact ih hmore' he

end Rendering

namespace Action

/-! ### The text of an action -/

theorem flatMap_lines_start (a : Action) :
    (Rendering.start a).stack.flatMap ListingItem.lines = a.lines 0 :=
  List.append_nil _

/-- If all lines of an action can be padded, they are written from the first to the last. -/
theorem rounds_start_of_fits {a : Action} (h : ∀ l ∈ a.lines 0, l.Fits) :
    Rendering.Rounds a.listingSize (.start a) ⟨[], a.pretty 0⟩ := by
  rw [← flatMap_lines_start] at h
  have hrounds := Rendering.rounds_of_fits _ "" h
  rw [flatMap_lines_start, join_lines, String.empty_append] at hrounds
  exact hrounds

/-- An action has no text if and only if one of its lines cannot be padded. -/
theorem text?_eq_none_iff (a : Action) : a.text? = none ↔ ∃ l ∈ a.lines 0, ¬ l.Fits := by
  rw [text?, listing_eq_lines]
  split
  · rename_i hfits
    simpa using hfits
  · rename_i hwide
    simpa using hwide

/-- An action has no text if and only if writing it leads to a line that cannot be padded. -/
theorem text?_eq_none_iff_stops (a : Action) : a.text? = none ↔ (Rendering.start a).Stops := by
  rw [text?_eq_none_iff]
  constructor
  · intro hwide
    rw [← flatMap_lines_start] at hwide
    exact Rendering.stops_of_not_fits _ "" hwide
  · rintro ⟨n, r, hrounds, hstopped⟩
    by_cases hwide : ∃ l ∈ a.lines 0, ¬ l.Fits
    · exact hwide
    · -- the lines would be written to the end, and not only to the one that is too wide
      have hend := rounds_start_of_fits (a := a) (by simpa using hwide)
      have hsame := hrounds.end_unique hend (by simp [hstopped]) (by simp [Rendering.round])
      rw [hsame] at hstopped
      cases hstopped

/-- Writing an action whose lines can all be padded takes as many rounds as its size says, and what
    has been written in the end is the text by recursion on the tree. -/
theorem text?_eq_pretty (a : Action) (hfits : ∀ l ∈ a.lines 0, l.Fits) :
    Rendering.Rounds a.listingSize (.start a) ⟨[], a.pretty 0⟩ ∧ a.text? = some (a.pretty 0) := by
  refine ⟨rounds_start_of_fits hfits, ?_⟩
  rw [text?_eq_some_iff, join_lines]
  exact ⟨hfits, rfl⟩

/-- Sequences without lines of their own, a repetition whose body is one action, and one whose body
    has no lines. -/
theorem text?_eq_pretty_nested :
    let a : Action := .sequence [.sequence [.turnLeft, .sequence []],
      .repeated 4294967295 (.repeated 0 .moveForward), .repeated 10 (.sequence []), .turnRight]
    let text := "LEFT\nREPEAT 4294967295\n  REPEAT 0\n    FORWARD\n  END REPEAT\nEND REPEAT\n" ++
      "REPEAT 10\nEND REPEAT\nRIGHT\n"
    (∀ l ∈ a.lines 0, l.Fits) ∧ Rendering.Rounds 13 (.start a) ⟨[], text⟩ ∧ a.text? = some text := by
  intro a text
  have hfits : ∀ l ∈ a.lines 0, l.Fits := by decide
  have htext : a.pretty 0 = text := by decide +kernel
  rw [← htext]
  exact ⟨hfits, text?_eq_pretty a hfits⟩

end Action
end RobotScript
