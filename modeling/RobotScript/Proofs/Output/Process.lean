import RobotScript.Proofs.Output.Document
import RobotScript.Proofs.Program.Reparse

/-! # Printing to a writer that may fail

    Whatever is printed of a program, and wherever the writer stops taking
    more, the sink holds the first bytes of one document, and the run fails if
    and only if something of the document is missing, or the trace could not be
    flushed.  A program that is refused leaves the sink untouched. -/

namespace RobotScript
namespace Output

open Sink JsonLayout

variable (limit : Option Nat) (failFlush : Bool)

/-! ### The ways to write -/

theorem writes_writeText (pieces : List String) :
    Writes limit failFlush (writeText writer pieces) (String.join pieces)
      (.bare (.io .brokenPipe)) :=
  (writes_writeAll limit failFlush pieces).adaptExcept _

theorem writes_writeListing {ls : List Line} (hfits : ∀ l ∈ ls, l.Fits) :
    Writes limit failFlush (writeListing writer ls) (String.join (ls.map Line.text))
      (.bare (.io .brokenPipe)) := by
  induction ls with
  | nil => exact Writes.nothing limit failFlush _
  | cons l ls ih =>
    have hline := writes_writeText limit failFlush [l.text]
    rw [String.join_cons, String.join_nil, String.append_empty] at hline
    rw [List.map_cons, String.join_cons, writeListing, if_pos (hfits l List.mem_cons_self)]
    exact hline.bind (ih fun l' hl' => hfits l' (List.mem_cons_of_mem l hl'))

/-- A JSON document fails with an error of its own, but its line end does not. -/
theorem writeJson_offered (pieces : List JsonPiece) {text : String} (h : Takes limit text) :
    writeJson writer pieces (offered limit failFlush text) =
      if Takes limit (text ++ (pieceText pieces ++ "\n")) then
        .ok () (offered limit failFlush (text ++ (pieceText pieces ++ "\n")))
      else
        .error
          (.bare
            (if Takes limit (text ++ pieceText pieces) then .io .brokenPipe else .json .brokenPipe))
          (offered limit failFlush (text ++ (pieceText pieces ++ "\n"))) := by
  induction pieces generalizing text with
  | nil =>
    have hend := writes_writeText limit failFlush ["\n"] text h
    rw [pieceText_nil, String.append_empty, String.empty_append, if_pos h]
    exact hend
  | cons piece pieces ih =>
    have hpiece := ((writes_write limit failFlush piece.text).adaptExcept
      fun e => Failure.bare (.json e)) text h
    have hjoin : ∀ more, text ++ (pieceText (piece :: pieces) ++ more) =
        text ++ piece.text ++ (pieceText pieces ++ more) := by
      intro more
      rw [pieceText, List.map_cons, String.join_cons]
      simp only [String.append_assoc, pieceText]
    have hbody := hjoin ""
    rw [String.append_empty, String.append_empty] at hbody
    change EStateM.bind ((write piece.text).adaptExcept fun e => .bare (.json e))
      (fun _ => writeJson writer pieces) _ = _
    unfold EStateM.bind
    rw [hpiece, hjoin, hbody]
    by_cases hfirst : Takes limit (text ++ piece.text)
    · rw [if_pos hfirst]
      exact ih hfirst
    · -- the limit lies in this piece, so the line end is not reached
      have hnext : ∀ more, ¬ Takes limit (text ++ piece.text ++ more) :=
        fun _ hall => hfirst hall.of_append
      rw [if_neg hfirst, if_neg (hnext _), if_neg (hnext _), offered_append_of_not_takes _ hfirst]

/-! ### Documents -/

/-- The failure of a program whose document is not taken as a whole, or whose trace cannot be
    flushed. -/
def stopFailure (emit : Emit) (format : Format) (limit : Option Nat) (document : String) :
    Failure :=
  match emit, format with
  | .trace, _ =>
    .inContext "failed to write trace"
      (.io (if Takes limit document then .timedOut else .brokenPipe))
  | _, .text => .bare (.io .brokenPipe)
  | _, .json =>
    -- the line end behind a JSON document is not written as JSON
    .bare (if limit = some (document.utf8ByteSize - 1) then .io .brokenPipe else .json .brokenPipe)

/-- Printing a document to an empty sink comes to this. -/
def Prints (emit : Emit) (format : Format) (limit : Option Nat) (failFlush : Bool)
    (document : String) (done : Output Sink) : Prop :=
  done.out = offered limit failFlush document ∧
  done.result =
    if Takes limit document ∧ ¬ (emit = .trace ∧ failFlush = true) then .ok ()
    else .error (stopFailure emit format limit document)

/-- What is written as text is printed. -/
theorem prints_ofWriting {emit : Emit} (hemit : emit ≠ .trace) {x : EStateM Failure Sink Unit}
    {document : String} (hx : Writes limit failFlush x document (.bare (.io .brokenPipe))) :
    Prints emit .text limit failFlush document (ofWriting x (.empty limit failFlush)) := by
  -- an empty sink is one that was offered nothing
  have hrun := hx "" (takes_empty limit)
  have hfailure : stopFailure emit .text limit document = .bare (.io .brokenPipe) := by
    cases emit with
    | trace => exact absurd rfl hemit
    | counts => rfl
    | program => rfl
  rw [offered_empty, String.empty_append] at hrun
  unfold Prints ofWriting
  rw [hrun, hfailure]
  by_cases htakes : Takes limit document
  · simp [htakes, hemit]
  · simp [htakes]

/-- Without room for the line end, there is room for the text in front of it only if nothing but
    the line end is missing. -/
theorem takes_iff_of_not_takes {body : String} (h : ¬ Takes limit (body ++ "\n")) :
    Takes limit body ↔ limit = some ((body ++ "\n").utf8ByteSize - 1) := by
  have hsize : (body ++ "\n").utf8ByteSize = body.utf8ByteSize + 1 := String.utf8ByteSize_append
  cases limit with
  | none => exact absurd (takes_none _) h
  | some most =>
    rw [takes_some_iff, hsize] at h
    rw [takes_some_iff, hsize, Option.some_inj]
    omega

/-- What is written as JSON is printed. -/
theorem prints_writeJson {emit : Emit} (hemit : emit ≠ .trace) (pieces : List JsonPiece) :
    Prints emit .json limit failFlush (pieceText pieces ++ "\n")
      (ofWriting (writeJson writer pieces) (.empty limit failFlush)) := by
  have hrun := writeJson_offered limit failFlush pieces (takes_empty limit)
  have hfailure : stopFailure emit .json limit (pieceText pieces ++ "\n") =
      .bare (if limit = some ((pieceText pieces ++ "\n").utf8ByteSize - 1) then .io .brokenPipe
        else .json .brokenPipe) := by
    cases emit with
    | trace => exact absurd rfl hemit
    | counts => rfl
    | program => rfl
  rw [offered_empty, String.empty_append, String.empty_append] at hrun
  unfold Prints ofWriting
  rw [hrun, hfailure]
  by_cases htakes : Takes limit (pieceText pieces ++ "\n")
  · simp [htakes, hemit]
  · simp [htakes, takes_iff_of_not_takes limit htakes]

/-- A trace of calls is written as a whole, then flushed. -/
theorem finish_performAll_empty (format : Format) {cs : List Call} (hcount : cs.length < UInt64.size) :
    ((Trace.robot writer format).performAll cs (Trace.start (.empty limit failFlush))).finish
        writer format =
      if Takes limit (Call.document format cs) then
        if failFlush then .error .timedOut (offered limit failFlush (Call.document format cs))
        else .ok (UInt64.ofNat cs.length) (offered limit failFlush (Call.document format cs))
      else .error .brokenPipe (offered limit failFlush (Call.document format cs)) := by
  have hwrite := writes_writeAll limit failFlush (Trace.tracePieces format cs) ""
    (takes_empty limit)
  have hrun := Trace.finish_performAll writer format cs (Sink.empty limit failFlush) hcount
  rw [offered_empty, String.empty_append, Trace.join_tracePieces format cs hcount] at hwrite
  -- writing comes first, and flushing only if it succeeds
  change _ = EStateM.bind (writer.writeAll (Trace.tracePieces format cs)) _ _ at hrun
  unfold EStateM.bind at hrun
  rw [hwrite] at hrun
  by_cases htakes : Takes limit (Call.document format cs)
  · rw [if_pos htakes] at hrun ⊢
    cases failFlush with
    | false => exact hrun
    | true => exact hrun
  · rw [if_neg htakes] at hrun ⊢
    exact hrun

/-- A trace is printed, and flushing comes after all of it. -/
theorem prints_trace (format : Format) {tree : Action} (hcount : tree.calls.length < UInt64.size) :
    Prints .trace format limit failFlush (Call.document format tree.calls)
      (trace writer format tree (.empty limit failFlush)) := by
  have hrun := finish_performAll_empty limit failFlush format hcount
  unfold Prints trace
  rw [Action.apply_eq_performAll, hrun]
  by_cases htakes : Takes limit (Call.document format tree.calls)
  · -- only the flush is left to fail
    cases failFlush with
    | false => simp [htakes]
    | true => simp [htakes, stopFailure]
  · simp [htakes, stopFailure]

/-- Whatever is printed of a program, it is its document. -/
theorem prints_render (emit : Emit) (format : Format) {tree : Action}
    (hcount : emit ≠ .program → tree.calls.length < UInt64.size)
    (hfits : emit = .program → format = .text → ∀ l ∈ tree.lines 0, l.Fits) :
    Prints emit format limit failFlush (tree.document emit format)
      (render writer emit format tree (.empty limit failFlush)) := by
  cases emit with
  | trace => exact prints_trace limit failFlush format (hcount (by decide))
  | counts =>
    have hcount := hcount (by decide)
    have hemit : Emit.counts ≠ .trace := by decide
    cases format with
    | text =>
      have hwrites := writes_writeText limit failFlush (countLines (countsOf tree))
      rw [join_countLines hcount] at hwrites
      exact prints_ofWriting limit failFlush hemit hwrites
    | json =>
      have hprints := prints_writeJson limit failFlush hemit [.word (countsJson (countsOf tree))]
      rw [pieceText_word, pieceText_nil, String.append_empty, countsJson_append hcount] at hprints
      exact hprints
  | program =>
    have hemit : Emit.program ≠ .trace := by decide
    cases format with
    | text =>
      have hwrites := writes_writeListing limit failFlush (hfits rfl rfl)
      rw [Action.join_lines, ← Action.listing_eq_lines] at hwrites
      exact prints_ofWriting limit failFlush hemit hwrites
    | json =>
      have hprints := prints_writeJson limit failFlush hemit tree.json
      rw [Action.document, ← Action.jsonText_eq_jsonDocument]
      exact hprints

/-! ### All together -/

section

variable {σ : Type} (w : Writer IoError σ) (emit : Emit) (format : Format) {maxDepth : Option Nat}
  (name : String) {text : String} (out : σ)

/-- A program that is refused does nothing to the writer. -/
theorem process_of_error {e : ParseError}
    (h : Program.parse text (some (maxDepth.getD defaultMaxDepth)) = .error e) :
    (process w emit format maxDepth name text out).result =
        .error (.inContext s!"failed to parse {name}" (.parse e)) ∧
      (process w emit format maxDepth name text out).out = out := by
  unfold process
  rw [Program.parse] at h
  simp only [h, and_self]

/-- Any other program is printed. -/
theorem process_of_ok {tree : Action}
    (h : Program.parse text (some (maxDepth.getD defaultMaxDepth)) = .ok tree) :
    (process w emit format maxDepth name text out).result = (render w emit format tree out).result ∧
      (process w emit format maxDepth name text out).out = (render w emit format tree out).out := by
  unfold process
  rw [Program.parse] at h
  simp only [h, and_self]

end

/-- A program that is refused prints nothing and fails with the reason.  Of any other program the
    sink keeps the first bytes of the document, as many as there is room for, and printing succeeds
    if and only if these are all of them and a trace could also be flushed. -/
theorem process_keeps_first_bytes (emit : Emit) (format : Format) (maxDepth : Option Nat)
    (name text : String) (limit : Option Nat) (failFlush : Bool) :
    let done := process writer emit format maxDepth name text (.empty limit failFlush)
    match Program.parse text (some (maxDepth.getD 1000)) with
    | .error e =>
      done.result = .error (.inContext s!"failed to parse {name}" (.parse e)) ∧
      done.out.kept = .empty
    | .ok tree =>
      (emit ≠ .program → tree.calls.length < UInt64.size) →
      (emit = .program → format = .text → ∀ l ∈ tree.lines 0, l.Fits) →
      let document := tree.document emit format
      done.out.kept = document.toUTF8.extract 0 (capacity limit document.utf8ByteSize) ∧
      (done.result = .ok () ↔
        Takes limit document ∧ ¬ (emit = .trace ∧ failFlush = true)) ∧
      ∀ failure, done.result = .error failure →
        failure = stopFailure emit format limit document := by
  intro done
  cases hparse : Program.parse text (some (maxDepth.getD 1000)) with
  | error e =>
    obtain ⟨hresult, hout⟩ :=
      process_of_error writer emit format name (.empty limit failFlush) hparse
    exact ⟨hresult, congrArg Sink.kept hout⟩
  | ok tree =>
    intro hcount hfits document
    obtain ⟨hresult, hout⟩ := process_of_ok writer emit format name (.empty limit failFlush) hparse
    obtain ⟨hkept, hprinted⟩ := prints_render limit failFlush emit format hcount hfits
    rw [hkept] at hout
    rw [hprinted] at hresult
    -- the result is the one of printing, which is success exactly in the case stated
    refine ⟨congrArg Sink.kept hout, ?_, ?_⟩
    · change done.result = _ at hresult
      rw [hresult]
      split
      · rename_i hdone
        exact ⟨fun _ => hdone, fun _ => rfl⟩
      · rename_i hdone
        refine ⟨fun h => ?_, fun h => absurd h hdone⟩
        cases h
    · intro failure hfailure
      change done.result = _ at hresult
      rw [hresult] at hfailure
      split at hfailure
      · cases hfailure
      · cases hfailure
        rfl

/-- A trace is cut in the middle of its second call, and the same program is printed as a whole. -/
theorem process_cuts_trace :
    let tree : Action := .sequence [.repeated 2 (.sequence [.turnLeft]), .moveForward]
    let text := "REPEAT 2\n  LEFT\nEND REPEAT\nFORWARD\n"
    let traced := process writer .trace .json (some 1) "turns" text (.empty (some 14) true)
    let listed := process writer .program .text (some 1) "turns" text (.empty (some 35) true)
    Program.parse text (some 1) = .ok tree ∧
    (tree.calls.length < UInt64.size ∧
      traced.out.kept = "[\"turn_left\",\"".toUTF8 ∧
      traced.result = .error (.inContext "failed to write trace" (.io .brokenPipe))) ∧
    ((∀ l ∈ tree.lines 0, l.Fits) ∧ listed.out.kept = text.toUTF8 ∧ listed.result = .ok ()) := by
  intro tree text traced listed
  have hfits : ∀ l ∈ tree.lines 0, l.Fits := by decide
  have htext : tree.text? = some text := (Action.text?_eq_some_iff _ _).2 ⟨hfits, by decide⟩
  have hparse : Program.parse text (some 1) = .ok tree :=
    Action.parse_text htext fun most hmost => by cases hmost; decide
  have hcount : tree.calls.length < UInt64.size := by decide
  have htraced := process_keeps_first_bytes .trace .json (some 1) "turns" text (some 14) true
  have hlisted := process_keeps_first_bytes .program .text (some 1) "turns" text (some 35) true
  simp only [Option.getD_some, hparse] at htraced hlisted
  refine ⟨hparse, ⟨hcount, ?_⟩, hfits, ?_⟩
  · obtain ⟨hkept, hok, hfailure⟩ := htraced (fun _ => hcount) fun h => by cases h
    have hdocument : tree.document .trace .json =
        "[\"turn_left\",\"turn_left\",\"move_forward\"]\n" := by decide
    rw [hdocument] at hkept hok hfailure
    refine ⟨hkept.trans (by decide), ?_⟩
    cases hresult : traced.result with
    | ok => exact absurd (hok.1 hresult).1 (by decide)
    | error failure => rw [hfailure failure hresult]; decide
  · obtain ⟨hkept, hok, -⟩ := hlisted (fun h => absurd rfl h) fun _ _ => hfits
    have hdocument : tree.document .program .text = text := by decide
    rw [hdocument] at hkept hok
    exact ⟨hkept.trans (by decide), hok.2 (by decide)⟩

end Output
end RobotScript
