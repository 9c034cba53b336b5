import RobotScript.Proofs.Action.Rendering
import RobotScript.Proofs.Blocks.Written
import RobotScript.Proofs.Program.Reparse

/-! # How deep a program may be to have a text

    The line of a command is indented by the number of blocks that the command
    stands in, so the tokens of a program tell how far the lines of its text are
    indented (`map_indent_lines`).  A program that was read has a text if and
    only if none of its commands stands in more than 32767 blocks
    (`parse_renders_iff`).

    Reading knows no such bound.  The programs `nestedText` with one command
    inside any number of blocks are all read if nothing else limits them, and
    those with more blocks than that have no text. -/

namespace RobotScript

/-! ### Levels -/

namespace TokenKind

/-- The number of blocks that the token at the place `i` stands in.  The two ends of a block stand
    outside it. -/
def level (ks : List TokenKind) (i : Nat) : Int := min (depth ks i) (depth ks (i + 1))

/-- The levels of some tokens that come behind others, where `d` blocks are open. -/
def levels (d : Int) : List TokenKind → List Int
  | [] => []
  | k :: ks => min d (d + k.delta) :: levels (d + k.delta) ks

theorem levels_append (d : Int) (ks ls : List TokenKind) :
    levels d (ks ++ ls) = levels d ks ++ levels (d + balance ks) ls := by
  induction ks generalizing d with
  | nil => simp [levels]
  | cons k ks ih => simp [levels, ih, Int.add_assoc]

/-- The two ends of a block stand where the block is opened, and what is between them stands in one
    block more. -/
theorem levels_block (d : Int) (count : Option UInt32) {ks : List TokenKind} (h : balance ks = 0) :
    levels d (.repeatStart count :: (ks ++ [.repeatEnd])) = d :: (levels (d + 1) ks ++ [d]) := by
  have hopen : min d (d + 1) = d := by omega
  have hclose : min (d + 1) (d + 1 + -1) = d := by omega
  rw [levels, delta, hopen, levels_append, h, Int.add_zero]
  simp only [levels, delta, hclose]

/-- Levels are counted from the depth at which the first token stands. -/
theorem levels_eq_map_level (d : Int) (ks : List TokenKind) :
    levels d ks = (List.range ks.length).map fun i => d + level ks i := by
  induction ks generalizing d with
  | nil => rfl
  | cons k ks ih =>
    rw [levels, ih, List.length_cons, List.range_succ_eq_map, List.map_cons, List.map_map]
    congr 1
    · simp only [level, depth_cons_succ, depth_zero]
      omega
    · refine List.map_congr_left fun i _ => ?_
      simp only [Function.comp_apply, level, Nat.succ_eq_add_one, depth_cons_succ]
      omega

/-- What holds of all levels of a list. -/
theorem forall_mem_levels_iff (ks : List TokenKind) (P : Int → Prop) :
    (∀ x ∈ levels 0 ks, P x) ↔ ∀ i, i < ks.length → P (level ks i) := by
  simp [levels_eq_map_level]

end TokenKind

/-! ### The indentation of the lines -/

namespace Action

open TokenKind

mutual

/-- A line is indented by the level of its token. -/
theorem map_indent_lines : (d : Nat) → (a : Action) →
    ((lines d a).map fun l => (l.indent : Int)) = levels d (kinds a)
  | d, .moveForward => by simp [lines, kinds, levels, delta]
  | d, .turnLeft => by simp [lines, kinds, levels, delta]
  | d, .turnRight => by simp [lines, kinds, levels, delta]
  | d, .sequence as => map_indent_linesOfList d as
  | d, .repeated n a => by
    have hbody := map_indent_lines (d + 1) a
    rw [Int.natCast_succ] at hbody
    rw [kinds, levels_block d _ (balance_kinds a), lines, List.map_cons, List.map_append, hbody]
    rfl

theorem map_indent_linesOfList : (d : Nat) → (as : List Action) →
    ((linesOfList d as).map fun l => (l.indent : Int)) = levels d (kindsOfList as)
  | _, [] => rfl
  | d, a :: as => by
    simp [linesOfList, kindsOfList, levels_append, balance_kinds, map_indent_lines d a,
      map_indent_linesOfList d as]

end

mutual

/-- A line stands in no more repetitions than there are inside one another. -/
theorem indent_le_of_mem_lines : (d : Nat) → (a : Action) → ∀ l ∈ lines d a,
    l.indent ≤ d + nesting a
  | d, .moveForward => by simp [lines]
  | d, .turnLeft => by simp [lines]
  | d, .turnRight => by simp [lines]
  | d, .sequence as => indent_le_of_mem_linesOfList d as
  | d, .repeated n a => by
    intro l hl
    simp only [lines, List.mem_cons, List.mem_append, List.not_mem_nil, or_false] at hl
    rcases hl with rfl | hl | rfl
    · exact Nat.le_add_right d _
    · have hbody := indent_le_of_mem_lines (d + 1) a l hl
      rw [nesting]
      omega
    · exact Nat.le_add_right d _

theorem indent_le_of_mem_linesOfList : (d : Nat) → (as : List Action) → ∀ l ∈ linesOfList d as,
    l.indent ≤ d + nestingOfList as
  | d, [] => by simp [linesOfList]
  | d, a :: as => by
    intro l hl
    rw [nestingOfList]
    rcases List.mem_append.1 hl with hl | hl
    · have hfirst := indent_le_of_mem_lines d a l hl
      omega
    · have hothers := indent_le_of_mem_linesOfList d as l hl
      omega

end

end Action

/-- A line can be padded if it stands in at most 32767 repetitions. -/
theorem Line.fits_iff (l : Line) : l.Fits ↔ l.indent ≤ 32767 := by
  unfold Fits padding maxPadding
  omega

/-- The lines of an action can be padded if none of its tokens stands in more than 32767 blocks. -/
theorem Action.forall_fits_iff (a : Action) :
    (∀ l ∈ a.lines 0, l.Fits) ↔
      ∀ i, i < a.kinds.length → TokenKind.level a.kinds i ≤ 32767 := by
  rw [← TokenKind.forall_mem_levels_iff a.kinds (· ≤ 32767)]
  have hlevels := map_indent_lines 0 a
  rw [Int.natCast_zero] at hlevels
  rw [← hlevels, List.forall_mem_map]
  refine forall₂_congr fun l _ => ?_
  rw [Line.fits_iff]
  omega

namespace Program

open RobotScript.Action

/-! ### One command inside many blocks -/

/-- The elements of the tree of one command inside `d` repetitions. -/
def nestedElements : Nat → List Action
  | 0 => [.moveForward]
  | d + 1 => [.repeated 1 (.sequence (nestedElements d))]

/-- The tree of one command inside `d` repetitions. -/
def nestedTree (d : Nat) : Action := .sequence (nestedElements d)

/-- The program with one command inside `d` blocks, one command on a line. -/
def nestedText (d : Nat) : String :=
  String.join
    (List.replicate d "REPEAT 1\n" ++ "FORWARD\n" :: List.replicate d "END REPEAT\n")

theorem areElements_nestedElements (d : Nat) : AreElements (nestedElements d) := by
  induction d with
  | zero => exact ⟨trivial, trivial⟩
  | succ d ih => exact ⟨ih, trivial⟩

theorem nestingOfList_nestedElements (d : Nat) : nestingOfList (nestedElements d) = d := by
  induction d with
  | zero => rfl
  | succ d ih => simp [nestedElements, nestingOfList, nesting, ih]

theorem kindsOfList_nestedElements (d : Nat) :
    kindsOfList (nestedElements d) =
      List.replicate d (.repeatStart (some 1)) ++ .forward :: List.replicate d .repeatEnd := by
  induction d with
  | zero => rfl
  | succ d ih =>
    -- one `REPEAT` more comes first, and one `END REPEAT` more comes last
    rw [List.replicate_succ, List.replicate_succ']
    simp [nestedElements, kindsOfList, kinds, ih]

/-- The command in the middle is indented by the number of repetitions. -/
theorem mem_linesOfList_nestedElements (d e : Nat) :
    ⟨e + d, Keyword.forward⟩ ∈ linesOfList e (nestedElements d) := by
  induction d generalizing e with
  | zero => exact List.mem_cons_self
  | succ d ih =>
    have hbody := ih (e + 1)
    rw [Nat.add_right_comm, Nat.add_assoc] at hbody
    simp [nestedElements, linesOfList, lines, hbody]

/-- One line that is written many times is read as that many tokens. -/
theorem forall₂_writes_replicate {l : Line} {k : TokenKind} (h : l.Writes k) (d : Nat) :
    List.Forall₂ Line.Writes (List.replicate d l) (List.replicate d k) := by
  induction d with
  | zero => exact .nil
  | succ d ih => exact .cons h ih

/-- The program is read as the tokens of its tree. -/
theorem map_kind_ofText_nestedText (d : Nat) :
    (Token.ofText (nestedText d)).map Token.kind = kinds (nestedTree d) := by
  let ls : List Line :=
    List.replicate d ⟨0, Command.repeatStart 1⟩ ++
      ⟨0, Keyword.forward⟩ :: List.replicate d ⟨0, Command.repeatEnd⟩
  have htext : nestedText d = String.join (ls.map Line.text) := by
    have hstart : Line.text ⟨0, Command.repeatStart 1⟩ = "REPEAT 1\n" := by decide
    have hleaf : Line.text ⟨0, Keyword.forward⟩ = "FORWARD\n" := by decide
    have hend : Line.text ⟨0, Command.repeatEnd⟩ = "END REPEAT\n" := by decide
    simp only [ls, List.map_append, List.map_cons, List.map_replicate, hstart, hleaf, hend]
    rfl
  have hleaf : Line.Writes ⟨0, Keyword.forward⟩ .forward :=
    Line.writes_single 0 (by decide) (by decide)
  rw [htext, nestedTree, kinds, kindsOfList_nestedElements]
  exact map_kind_ofText_join
    (List.rel_append (forall₂_writes_replicate (writes_repeatStart 0 1) d)
      (.cons hleaf (forall₂_writes_replicate (writes_repeatEnd 0) d)))

/-- The program is read if so many blocks may be open at once. -/
theorem parse_nestedText {d : Nat} {limit : Option Nat}
    (hlimit : ∀ most, limit = some most → d ≤ most) :
    parse (nestedText d) limit = .ok (nestedTree d) := by
  refine parseTokens_of_isCanonical (areElements_nestedElements d)
    (map_kind_ofText_nestedText d).symm ?_
  rw [nestedTree, nesting, nestingOfList_nestedElements]
  exact hlimit

/-- The tree has no text if and only if its command stands inside more than 32767 repetitions. -/
theorem text?_nestedTree_eq_none_iff (d : Nat) : (nestedTree d).text? = none ↔ 32767 < d := by
  rw [text?_eq_none_iff]
  constructor
  · rintro ⟨l, hl, hwide⟩
    have hindent := indent_le_of_mem_linesOfList 0 (nestedElements d) l hl
    rw [nestingOfList_nestedElements] at hindent
    rw [Line.fits_iff] at hwide
    omega
  · intro hdeep
    have hline := mem_linesOfList_nestedElements d 0
    rw [Nat.zero_add] at hline
    refine ⟨_, hline, ?_⟩
    rw [Line.fits_iff]
    exact Nat.not_le.2 hdeep

/-! ### Programs with a text -/

/-- The text of a program that was read is the text by recursion on its tree if none of its commands
    stands in more than 32767 blocks, and otherwise writing it leads to a line that cannot be
    padded.  No program has a line of that kind if no more blocks than that may be open at once. -/
theorem parse_renders_iff {text : String} {limit : Option Nat} {tree : Action}
    (h : parse text limit = .ok tree) :
    let ks := (Token.ofText text).map Token.kind
    (tree.text? = some (tree.pretty 0) ↔ ∀ i, i < ks.length → TokenKind.level ks i ≤ 32767) ∧
    ((Rendering.start tree).Stops ↔ ∃ i, i < ks.length ∧ 32767 < TokenKind.level ks i) ∧
    ∀ most, limit = some most → most ≤ 32767 → tree.text? = some (tree.pretty 0) := by
  intro ks
  obtain ⟨-, hkinds, hlimit⟩ := isCanonical_of_parseTokens h
  have htext : tree.text? = some (tree.pretty 0) ↔ ∀ l ∈ tree.lines 0, l.Fits := by
    rw [text?_eq_some_iff, join_lines]
    exact and_iff_left rfl
  have hfits := forall_fits_iff tree
  rw [hkinds] at hfits
  refine ⟨htext.trans hfits, ?_, ?_⟩
  · -- there is a line that cannot be padded unless all of them can
    rw [← text?_eq_none_iff_stops, text?_eq_none_iff]
    have hwide := not_congr hfits
    simp only [not_forall, Int.not_le, exists_prop] at hwide
    exact hwide
  · intro most hmost hle
    rw [htext]
    intro l hl
    rw [Line.fits_iff]
    have hindent := indent_le_of_mem_lines 0 tree l hl
    have hnesting := hlimit most hmost
    omega

/-- As many blocks as can be printed: the program is read and has a text if no more may be open. -/
theorem parse_renders_deepest :
    parse (nestedText 32767) (some 32767) = .ok (nestedTree 32767) ∧
      (nestedTree 32767).text? = some ((nestedTree 32767).pretty 0) := by
  have hparse : parse (nestedText 32767) (some 32767) = .ok (nestedTree 32767) :=
    parse_nestedText fun most hmost => Nat.le_of_eq (Option.some.inj hmost)
  obtain ⟨-, -, hlimited⟩ := parse_renders_iff hparse
  exact ⟨hparse, hlimited 32767 rfl (Nat.le_refl _)⟩

/-- One block more: the program is read if nothing limits it, and it has no text. -/
theorem parse_too_deep_to_render :
    parse (nestedText 32768) none = .ok (nestedTree 32768) ∧
      (nestedTree 32768).text? = none ∧ (Rendering.start (nestedTree 32768)).Stops := by
  have hparse : parse (nestedText 32768) none = .ok (nestedTree 32768) :=
    parse_nestedText fun _ hmost => by cases hmost
  have htext : (nestedTree 32768).text? = none :=
    (text?_nestedTree_eq_none_iff 32768).2 (by decide)
  exact ⟨hparse, htext, (text?_eq_none_iff_stops _).1 htext⟩

end Program
end RobotScript
