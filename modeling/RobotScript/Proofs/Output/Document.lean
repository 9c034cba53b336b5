import RobotScript.Output.Render
import RobotScript.Proofs.Action.Counting
import RobotScript.Proofs.Action.Printing
import RobotScript.Proofs.Output.Sink
import RobotScript.Robot

/-! # What is printed of a program

    The whole text that is printed of a program, stated by recursion on its
    tree: its calls, its call counts, or the program itself.  The pieces that
    are written one after the other are put together here; whether the writer
    takes them is another matter. -/

namespace RobotScript

/-! ### Documents -/

/-- The text that is printed for a list of calls. -/
def Call.document : Format → List Call → String
  | .text, cs => String.join (cs.map fun c => c.name ++ "\n")
  | .json, cs => Call.jsonList cs ++ "\n"

namespace Action

/-- The text that is printed for the number of calls of each kind. -/
def countsDocument (tree : Action) : Format → String
  | .text =>
    "move_forward: " ++ (callCount .moveForward tree).repr ++ "\n" ++
    "turn_left: " ++ (callCount .turnLeft tree).repr ++ "\n" ++
    "turn_right: " ++ (callCount .turnRight tree).repr ++ "\n" ++
    "total: " ++ (totalCount tree).repr ++ "\n"
  | .json =>
    "\x7b\"forward\":" ++ (callCount .moveForward tree).repr ++
    ",\"left\":" ++ (callCount .turnLeft tree).repr ++
    ",\"right\":" ++ (callCount .turnRight tree).repr ++ "\x7d\n"

/-- The text that is printed of a program. -/
def document (tree : Action) : Emit → Format → String
  | .trace, format => Call.document format tree.calls
  | .counts, format => tree.countsDocument format
  | .program, .text => tree.pretty 0
  | .program, .json => tree.jsonDocument 0 ++ "\n"

end Action

/-! ### Traces -/

namespace Trace

theorem join_callPieces_text (first : Bool) (cs : List Call) :
    String.join (callPieces .text first cs) = Call.document .text cs := by
  induction cs generalizing first with
  | nil => rfl
  | cons c cs ih =>
    rw [callPieces, String.join_append, ih]
    simp [pieces, Call.document]

/-- Behind the first call, every call is written with a comma in front of it. -/
theorem join_callPieces_json (cs : List Call) :
    String.join (callPieces .json false cs) =
      String.join ((cs.map fun c => "\"" ++ c.name ++ "\"").map ("," ++ ·)) := by
  induction cs with
  | nil => rfl
  | cons c cs ih =>
    rw [callPieces, String.join_append, ih]
    simp [pieces, String.append_assoc]

/-- The pieces of a trace put together are its document. -/
theorem join_tracePieces (format : Format) (cs : List Call) (hcount : cs.length < UInt64.size) :
    String.join (tracePieces format cs) = Call.document format cs := by
  unfold tracePieces
  rw [String.join_append]
  cases format with
  | text => rw [join_callPieces_text, endPieces, String.join_nil, String.append_empty]
  | json =>
    cases cs with
    | nil =>
      -- without calls the array is opened where it is closed
      decide
    | cons c cs =>
      -- the counter is not back at 0, so the array is not opened a second time
      have hpos : UInt64.ofNat (c :: cs).length ≠ 0 := by
        intro hzero
        have hbeq := ofNat_beq_zero hcount
        rw [hzero] at hbeq
        exact absurd hbeq (by simp)
      rw [callPieces, String.join_append, join_callPieces_json, endPieces, if_neg hpos,
        Call.document, Call.jsonList, List.map_cons, JsonLayout.intercalate_cons]
      simp [pieces, String.append_assoc]

end Trace

/-! ### Counts -/

namespace Output

/-- The counters of a program that does not make too many calls are its call counts. -/
theorem toNat_countsOf {tree : Action} (hcount : tree.calls.length < UInt64.size) :
    (countsOf tree).forward.toNat = tree.callCount .moveForward ∧
    (countsOf tree).left.toNat = tree.callCount .turnLeft ∧
    (countsOf tree).right.toNat = tree.callCount .turnRight ∧
    (countsOf tree).total.toNat = tree.totalCount := by
  have hrange : CallCounts.zero.sum + tree.calls.length < UInt64.size := by
    rwa [show CallCounts.zero.sum = 0 from rfl, Nat.zero_add]
  have hcounted := CallCounts.countedUp_performAll hrange
  rw [← Action.apply_eq_performAll] at hcounted
  obtain ⟨hforward, hleft, hright, htotal⟩ := hcounted
  -- all counters start at 0
  rw [show CallCounts.zero.total.toNat = 0 from rfl, Nat.zero_add, Action.length_calls] at htotal
  rw [Action.count_calls] at hforward hleft hright
  exact ⟨hforward.trans (Nat.zero_add _), hleft.trans (Nat.zero_add _),
    hright.trans (Nat.zero_add _), htotal⟩

theorem join_countLines {tree : Action} (hcount : tree.calls.length < UInt64.size) :
    String.join (countLines (countsOf tree)) = tree.countsDocument .text := by
  obtain ⟨hforward, hleft, hright, htotal⟩ := toNat_countsOf hcount
  unfold countLines Action.countsDocument
  rw [hforward, hleft, hright, htotal]
  apply String.toList_inj.1
  simp

theorem countsJson_append {tree : Action} (hcount : tree.calls.length < UInt64.size) :
    countsJson (countsOf tree) ++ "\n" = tree.countsDocument .json := by
  obtain ⟨hforward, hleft, hright, -⟩ := toNat_countsOf hcount
  unfold countsJson Action.countsDocument
  rw [hforward, hleft, hright]
  apply String.toList_inj.1
  simp

end Output

end RobotScript
