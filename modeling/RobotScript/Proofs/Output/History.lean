import RobotScript.Proofs.Output.Document

/-! # What a trace does to its writer

    A writer can be watched: beside its state every operation is noted that it
    is given, and the error if the operation fails.  Watching a writer changes
    nothing about what it does (`finish_watched`), so the notes are those of a
    trace on any writer, whatever the writer does after an operation has
    failed.

    The notes only grow, a failed operation is the last one in them, and as
    long as no operation fails they hold the calls made so far. -/

namespace RobotScript

/-! ### Notes -/

/-- What a writer is told to do. -/
inductive Operation where
  /-- Write all of a piece of text. -/
  | write (piece : String)
  /-- Hand on what has been written. -/
  | flush
deriving Repr, DecidableEq

/-- An operation that a writer was given, and what came of it. -/
structure Attempt (ε : Type) where
  operation : Operation
  /-- The error, if the operation failed. -/
  error : Option ε
deriving Repr, DecidableEq

/-- The state of a writer that is watched. -/
structure Watched (ε σ : Type) where
  /-- The state of the writer itself. -/
  out : σ
  /-- All that it was given to do, in order. -/
  attempts : List (Attempt ε)

namespace Attempt

variable {ε : Type}

/-- An operation that did not fail. -/
def done (operation : Operation) : Attempt ε := ⟨operation, none⟩

/-- No operation failed. -/
def AllDone (attempts : List (Attempt ε)) : Prop := ∀ a ∈ attempts, a.error = none

/-- The text that an attempt has certainly written. -/
def text (a : Attempt ε) : String :=
  match a with
  | ⟨.write piece, none⟩ => piece
  | _ => ""

/-- The text written by operations that did not fail. -/
def written (attempts : List (Attempt ε)) : String := String.join (attempts.map text)

/-- The notes about pieces that were all written. -/
def ofPieces (pieces : List String) : List (Attempt ε) := pieces.map fun p => done (.write p)

theorem allDone_ofPieces (pieces : List String) : AllDone (ofPieces (ε := ε) pieces) := by
  intro a ha
  obtain ⟨piece, -, rfl⟩ := List.mem_map.1 ha
  rfl

theorem written_ofPieces (pieces : List String) :
    written (ofPieces (ε := ε) pieces) = String.join pieces := by
  unfold written ofPieces
  rw [List.map_map]
  exact congrArg String.join (List.map_id' pieces)

theorem written_append (front back : List (Attempt ε)) :
    written (front ++ back) = written front ++ written back := by
  rw [written, List.map_append, String.join_append]
  rfl

theorem not_allDone_append_failed (before : List (Attempt ε)) (operation : Operation) (e : ε) :
    ¬ AllDone (before ++ [⟨operation, some e⟩]) := by
  intro h
  have hlast := h ⟨operation, some e⟩ (List.mem_append_right _ List.mem_cons_self)
  cases hlast

end Attempt

/-! ### Watching -/

namespace Writer

variable {ε σ : Type}

/-- Do an operation and note it. -/
def watch (operation : Operation) (x : EStateM ε σ Unit) : EStateM ε (Watched ε σ) Unit := fun s =>
  match x s.out with
  | .ok _ out => .ok () ⟨out, s.attempts ++ [.done operation]⟩
  | .error e out => .error e ⟨out, s.attempts ++ [⟨operation, some e⟩]⟩

/-- The writer that does the same and notes it. -/
def watched (w : Writer ε σ) : Writer ε (Watched ε σ) where
  write piece := watch (.write piece) (w.write piece)
  flush := watch .flush w.flush

/-- What an operation on a watched writer comes to for the writer itself. -/
def unwatch {α : Type} (r : EStateM.Result ε (Watched ε σ) α) : EStateM.Result ε σ α :=
  match r with
  | .ok a s => .ok a s.out
  | .error e s => .error e s.out

/-- The notes after an operation on a watched writer. -/
def attempts {α : Type} (r : EStateM.Result ε (Watched ε σ) α) : List (Attempt ε) :=
  match r with
  | .ok _ s => s.attempts
  | .error _ s => s.attempts

/-- A computation on a watched writer does with it what another one does with the writer. -/
def Mirrors {α : Type} (x : EStateM ε (Watched ε σ) α) (y : EStateM ε σ α) : Prop :=
  ∀ s, unwatch (x s) = y s.out

theorem mirrors_pure {α : Type} (a : α) :
    Mirrors (pure a : EStateM ε (Watched ε σ) α) (pure a) := fun _ => rfl

theorem Mirrors.bind {α β : Type} {x : EStateM ε (Watched ε σ) α} {y : EStateM ε σ α}
    {f : α → EStateM ε (Watched ε σ) β} {g : α → EStateM ε σ β} (hx : Mirrors x y)
    (hf : ∀ a, Mirrors (f a) (g a)) : Mirrors (x >>= f) (y >>= g) := by
  intro s
  change unwatch (EStateM.bind x f s) = EStateM.bind y g s.out
  unfold EStateM.bind
  rw [← hx s]
  cases x s with
  | ok a s' => exact hf a s'
  | error e s' => rfl

theorem mirrors_watch (operation : Operation) (x : EStateM ε σ Unit) :
    Mirrors (watch operation x) x := by
  intro s
  unfold watch
  cases x s.out with
  | ok _ out => rfl
  | error e out => rfl

/-- A computation on a watched writer keeps the notes and adds to them. -/
def Grows {α : Type} (x : EStateM ε (Watched ε σ) α) : Prop :=
  ∀ s, s.attempts <+: attempts (x s)

theorem grows_pure {α : Type} (a : α) : Grows (pure a : EStateM ε (Watched ε σ) α) :=
  fun s => List.prefix_refl s.attempts

theorem Grows.bind {α β : Type} {x : EStateM ε (Watched ε σ) α}
    {f : α → EStateM ε (Watched ε σ) β} (hx : Grows x) (hf : ∀ a, Grows (f a)) :
    Grows (x >>= f) := by
  intro s
  have hfirst := hx s
  change s.attempts <+: attempts (EStateM.bind x f s)
  unfold EStateM.bind
  cases hrun : x s with
  | ok a s' =>
    rw [hrun] at hfirst
    exact hfirst.trans (hf a s')
  | error e s' =>
    rw [hrun] at hfirst
    exact hfirst

theorem grows_watch (operation : Operation) (x : EStateM ε σ Unit) : Grows (watch operation x) := by
  intro s
  unfold watch
  cases x s.out with
  | ok _ out => exact List.prefix_append _ _
  | error e out => exact List.prefix_append _ _

variable (w : Writer ε σ)

theorem grows_writeAll (pieces : List String) : Grows (w.watched.writeAll pieces) := by
  induction pieces with
  | nil => exact grows_pure ()
  | cons piece pieces ih => exact (grows_watch _ _).bind fun _ => ih

/-- A watched writer does with pieces of text what the writer does. -/
theorem mirrors_writeAll (pieces : List String) :
    Mirrors (w.watched.writeAll pieces) (w.writeAll pieces) := by
  induction pieces with
  | nil => exact mirrors_pure ()
  | cons piece pieces ih => exact (mirrors_watch _ _).bind fun _ => ih

/-- The notes after one operation. -/
theorem watch_cases (operation : Operation) (x : EStateM ε σ Unit) (s : Watched ε σ) :
    (∃ out, watch operation x s = .ok () ⟨out, s.attempts ++ [.done operation]⟩) ∨
    ∃ e out, watch operation x s = .error e ⟨out, s.attempts ++ [⟨operation, some e⟩]⟩ := by
  unfold watch
  cases x s.out with
  | ok _ out => exact .inl ⟨out, rfl⟩
  | error e out => exact .inr ⟨e, out, rfl⟩

/-- The notes after some pieces of text were written: all of the pieces, or those up to the first
    that failed. -/
theorem writeAll_watched_cases (pieces : List String) (s : Watched ε σ) :
    (∃ out, w.watched.writeAll pieces s = .ok () ⟨out, s.attempts ++ Attempt.ofPieces pieces⟩) ∨
    ∃ front piece e out, front ++ [piece] <+: pieces ∧
      w.watched.writeAll pieces s =
        .error e ⟨out, s.attempts ++ Attempt.ofPieces front ++ [⟨.write piece, some e⟩]⟩ := by
  induction pieces generalizing s with
  | nil =>
    refine .inl ⟨s.out, ?_⟩
    rw [Attempt.ofPieces, List.map_nil, List.append_nil]
    rfl
  | cons piece pieces ih =>
    change (∃ out, EStateM.bind (watch (.write piece) (w.write piece))
        (fun _ => w.watched.writeAll pieces) s = _) ∨
      ∃ front last e out, _ ∧ EStateM.bind (watch (.write piece) (w.write piece))
        (fun _ => w.watched.writeAll pieces) s = _
    unfold EStateM.bind
    rcases watch_cases (.write piece) (w.write piece) s with ⟨out, hdone⟩ | ⟨e, out, hfailed⟩
    · -- the piece is written, and the others follow
      rw [hdone]
      rcases ih ⟨out, s.attempts ++ [.done (.write piece)]⟩ with
        ⟨out', hrest⟩ | ⟨front, last, e, out', hfront, hrest⟩
      · refine .inl ⟨out', ?_⟩
        rw [List.append_assoc] at hrest
        exact hrest
      · refine .inr ⟨piece :: front, last, e, out', ?_, ?_⟩
        · exact (List.cons_prefix_cons).2 ⟨rfl, hfront⟩
        · rw [List.append_assoc s.attempts] at hrest
          exact hrest
    · -- the piece fails, and none of the others is tried
      rw [hfailed]
      refine .inr ⟨[], piece, e, out, ?_, ?_⟩
      · exact (List.cons_prefix_cons).2 ⟨rfl, List.nil_prefix⟩
      · rw [Attempt.ofPieces, List.map_nil, List.append_nil]

end Writer

/-! ### Traces on a watched writer -/

/-- The text of the calls of a trace that goes on: a line for each of them, or the beginning of the
    array that holds them. -/
def Call.rendering : Format → List Call → String
  | .text, cs => String.join (cs.map fun c => c.name ++ "\n")
  | .json, [] => ""
  | .json, c :: cs => "[" ++ ",".intercalate ((c :: cs).map fun c => "\"" ++ c.name ++ "\"")

namespace Trace

variable {ε σ : Type}

/-- The trace on the writer itself. -/
def unwatch (t : Trace ε (Watched ε σ)) : Trace ε σ := ⟨t.out.out, t.calls, t.error⟩

theorem join_callPieces (format : Format) (cs : List Call) :
    String.join (callPieces format true cs) = Call.rendering format cs := by
  cases format with
  | text => exact join_callPieces_text true cs
  | json =>
    cases cs with
    | nil => rfl
    | cons c cs =>
      rw [callPieces, String.join_append, join_callPieces_json, Call.rendering, List.map_cons,
        JsonLayout.intercalate_cons]
      simp [pieces, String.append_assoc]

variable (w : Writer ε σ) (format : Format)

/-! ### Watching changes nothing -/

theorem unwatch_record (c : Call) (t : Trace ε (Watched ε σ)) :
    unwatch (record w.watched format c t) = record w format c (unwatch t) := by
  obtain ⟨s, calls, error⟩ := t
  cases error with
  | some e => rfl
  | none =>
    have hwrite := w.mirrors_writeAll (pieces format (calls == 0) c) s
    unfold unwatch record
    simp only [← hwrite]
    cases w.watched.writeAll (pieces format (calls == 0) c) s with
    | ok _ s' => rfl
    | error e s' => rfl

theorem unwatch_performAll (cs : List Call) (t : Trace ε (Watched ε σ)) :
    unwatch ((robot w.watched format).performAll cs t) =
      (robot w format).performAll cs (unwatch t) := by
  induction cs generalizing t with
  | nil => rfl
  | cons c cs ih =>
    rw [Robot.performAll_cons, Robot.performAll_cons, ih, robot, robot, Robot.perform_ofPerform,
      Robot.perform_ofPerform, unwatch_record]

theorem unwatch_finish (t : Trace ε (Watched ε σ)) :
    Writer.unwatch (t.finish w.watched format) = (unwatch t).finish w format := by
  obtain ⟨s, calls, error⟩ := t
  cases error with
  | some e => rfl
  | none =>
    have hflush : Writer.Mirrors w.watched.flush w.flush := Writer.mirrors_watch _ _
    exact (w.mirrors_writeAll (endPieces format calls)).bind
      (fun _ => hflush.bind fun _ => Writer.mirrors_pure calls) s

/-! ### The notes grow -/

theorem attempts_prefix_record (c : Call) (t : Trace ε (Watched ε σ)) :
    t.out.attempts <+: (record w.watched format c t).out.attempts := by
  obtain ⟨s, calls, error⟩ := t
  cases error with
  | some e => exact List.prefix_refl _
  | none =>
    have hgrow := w.grows_writeAll (pieces format (calls == 0) c) s
    unfold record
    simp only
    cases hwrite : w.watched.writeAll (pieces format (calls == 0) c) s with
    | ok _ s' =>
      rw [hwrite] at hgrow
      exact hgrow
    | error e s' =>
      rw [hwrite] at hgrow
      exact hgrow

theorem attempts_prefix_performAll (cs : List Call) (t : Trace ε (Watched ε σ)) :
    t.out.attempts <+: ((robot w.watched format).performAll cs t).out.attempts := by
  induction cs generalizing t with
  | nil => exact List.prefix_refl _
  | cons c cs ih =>
    have hfirst := attempts_prefix_record w format c t
    rw [Robot.performAll_cons, robot, Robot.perform_ofPerform]
    exact hfirst.trans (ih _)

theorem attempts_prefix_finish (t : Trace ε (Watched ε σ)) :
    t.out.attempts <+: Writer.attempts (t.finish w.watched format) := by
  obtain ⟨s, calls, error⟩ := t
  cases error with
  | some e => exact List.prefix_refl _
  | none =>
    have hflush : Writer.Grows w.watched.flush := Writer.grows_watch _ _
    exact (w.grows_writeAll (endPieces format calls)).bind
      (fun _ => hflush.bind fun _ => Writer.grows_pure calls) s

/-! ### What the notes say -/

/-- The trace on a watched writer that has not been given anything to do. -/
def watchedStart (out : σ) : Trace ε (Watched ε σ) := start ⟨out, []⟩

/-- After some calls the notes hold the pieces of all of them, or end with the first failure. -/
theorem performAll_watched_cases (cs : List Call) (out : σ) (hcount : cs.length < UInt64.size) :
    (∃ out', (robot w.watched format).performAll cs (watchedStart out) =
      ⟨⟨out', Attempt.ofPieces (callPieces format true cs)⟩, UInt64.ofNat cs.length, none⟩) ∨
    ∃ front operation e out' calls, (robot w.watched format).performAll cs (watchedStart out) =
      ⟨⟨out', Attempt.ofPieces front ++ [⟨operation, some e⟩]⟩, calls, some e⟩ := by
  have hcalls := performAll_robot w.watched format cs ⟨out, []⟩ 0 (by omega)
  rw [beq_self_eq_true, Nat.zero_add] at hcalls
  rcases w.writeAll_watched_cases (callPieces format true cs) ⟨out, []⟩ with
    ⟨out', hwrite⟩ | ⟨front, piece, e, out', -, hwrite⟩
  · rw [hwrite] at hcalls
    exact .inl ⟨out', hcalls⟩
  · rw [hwrite] at hcalls
    obtain ⟨calls, hcalls⟩ := hcalls
    exact .inr ⟨front, .write piece, e, out', calls, hcalls⟩

/-- At the end the notes hold the pieces of the whole trace and the flush, or end with the first
    failure. -/
theorem finish_watched_cases (cs : List Call) (out : σ) (hcount : cs.length < UInt64.size) :
    (∃ out', ((robot w.watched format).performAll cs (watchedStart out)).finish w.watched format =
      .ok (UInt64.ofNat cs.length)
        ⟨out', Attempt.ofPieces (tracePieces format cs) ++ [.done .flush]⟩) ∨
    ∃ front operation e out',
      ((robot w.watched format).performAll cs (watchedStart out)).finish w.watched format =
        .error e ⟨out', Attempt.ofPieces front ++ [⟨operation, some e⟩]⟩ := by
  have hrun := finish_performAll w.watched format cs ⟨out, []⟩ hcount
  change _ = EStateM.bind (w.watched.writeAll (tracePieces format cs))
    (fun _ => EStateM.bind (Writer.watch .flush w.flush) fun _ => EStateM.pure _) _ at hrun
  unfold EStateM.bind at hrun
  rcases w.writeAll_watched_cases (tracePieces format cs) ⟨out, []⟩ with
    ⟨out', hwrite⟩ | ⟨front, piece, e, out', -, hwrite⟩
  · rw [hwrite] at hrun
    rcases Writer.watch_cases .flush w.flush
        ⟨out', Attempt.ofPieces (tracePieces format cs)⟩ with ⟨out'', hflush⟩ | ⟨e, out'', hflush⟩
    · refine .inl ⟨out'', hrun.trans ?_⟩
      simp only [List.nil_append]
      rw [hflush]
      rfl
    · refine .inr ⟨tracePieces format cs, .flush, e, out'', hrun.trans ?_⟩
      simp only [List.nil_append]
      rw [hflush]
  · rw [hwrite] at hrun
    exact .inr ⟨front, .write piece, e, out', hrun⟩

/-- If no operation has failed, all calls are written and counted. -/
theorem written_performAll (cs : List Call) (out : σ) (hcount : cs.length < UInt64.size)
    (hdone : Attempt.AllDone
      ((robot w.watched format).performAll cs (watchedStart out)).out.attempts) :
    Attempt.written ((robot w.watched format).performAll cs (watchedStart out)).out.attempts =
      Call.rendering format cs ∧
    ((robot w.watched format).performAll cs (watchedStart out)).calls.toNat = cs.length := by
  rcases performAll_watched_cases w format cs out hcount with
    ⟨out', htraced⟩ | ⟨before, operation, e, out', calls, htraced⟩
  · rw [htraced]
    refine ⟨?_, UInt64.toNat_ofNat_of_lt' hcount⟩
    rw [Attempt.written_ofPieces, join_callPieces]
  · rw [htraced] at hdone
    exact absurd hdone (Attempt.not_allDone_append_failed _ operation e)

/-- The notes after some calls are the beginning of the notes at the end. -/
theorem attempts_prefix_ended (front back : List Call) (t : Trace ε (Watched ε σ)) :
    ((robot w.watched format).performAll front t).out.attempts <+:
      Writer.attempts
        (((robot w.watched format).performAll (front ++ back) t).finish w.watched format) := by
  have hmore := attempts_prefix_performAll w format back
    ((robot w.watched format).performAll front t)
  rw [← Robot.performAll_append] at hmore
  exact hmore.trans (attempts_prefix_finish w format _)

/-- The trace of some calls on any writer, seen by watching the writer, stops at the first failure
    and is complete without one.  Watching changes nothing.  After each call the notes are the
    beginning of those at the end, and if they hold no failure, all calls so far are written and
    counted.  At the end there is no failure in them, the whole document is written and flushed and
    its calls are counted, or the only failure in them is the last attempt, and ending the trace
    gives its error. -/
theorem finish_reports_first_failure (w : Writer ε σ) (format : Format) (cs : List Call) (out : σ)
    (hcount : cs.length < UInt64.size) :
    let traced (front : List Call) := (robot w.watched format).performAll front (watchedStart out)
    let ended := (traced cs).finish w.watched format
    Writer.unwatch ended = ((robot w format).performAll cs (start out)).finish w format ∧
    (∀ front, front <+: cs →
      (traced front).out.attempts <+: Writer.attempts ended ∧
      (Attempt.AllDone (traced front).out.attempts →
        Attempt.written (traced front).out.attempts = Call.rendering format front ∧
        (traced front).calls.toNat = front.length)) ∧
    match ended with
    | .ok calls s =>
      Attempt.AllDone s.attempts ∧ s.attempts.getLast? = some (.done .flush) ∧
      Attempt.written s.attempts = Call.document format cs ∧ calls.toNat = cs.length
    | .error e s =>
      ∃ before operation, s.attempts = before ++ [⟨operation, some e⟩] ∧
        Attempt.AllDone before := by
  intro traced ended
  have hended := finish_watched_cases w format cs out hcount
  refine ⟨?_, ?_, ?_⟩
  · show Writer.unwatch ((traced cs).finish w.watched format) = _
    rw [unwatch_finish, unwatch_performAll]
    rfl
  · rintro front ⟨back, rfl⟩
    have hfront : front.length < UInt64.size := by
      rw [List.length_append] at hcount
      omega
    refine ⟨attempts_prefix_ended w format front back (watchedStart out), ?_⟩
    intro hdone
    exact written_performAll w format front out hfront hdone
  · change (∃ out', ended = _) ∨ ∃ front operation e out', ended = _ at hended
    rcases hended with ⟨out', hended⟩ | ⟨before, operation, e, out', hended⟩
    · rw [hended]
      refine ⟨?_, List.getLast?_concat, ?_, UInt64.toNat_ofNat_of_lt' hcount⟩
      · -- neither a piece nor the flush has failed
        intro a ha
        rcases List.mem_append.1 ha with hpiece | hflush
        · exact Attempt.allDone_ofPieces _ a hpiece
        · rw [List.mem_singleton.1 hflush]
          rfl
      · have hflush : Attempt.written [Attempt.done (ε := ε) .flush] = "" := rfl
        rw [Attempt.written_append, Attempt.written_ofPieces, join_tracePieces format cs hcount,
          hflush, String.append_empty]
    · rw [hended]
      exact ⟨_, operation, rfl, Attempt.allDone_ofPieces before⟩

/-- A writer fails once, between a comma and the call behind it, and would take more afterwards.
    The third call is not written, the array is not closed, and the error is the one of that
    failure; without a failure the same calls are written as a whole. -/
theorem finish_reports_first_failure_between_pieces :
    let w (bad : Nat) : Writer Nat Nat :=
      ⟨fun _ n => if n = bad then .error n (n + 1) else .ok () (n + 1), fun n => .ok () (n + 1)⟩
    let cs : List Call := [.turnLeft, .moveForward, .turnRight]
    let traced (bad : Nat) := (robot (w bad).watched .json).performAll cs (watchedStart 0)
    cs.length < UInt64.size ∧
    (Writer.unwatch ((traced 5).finish (w 5).watched .json) = .error 5 6 ∧
      ∃ before operation,
        Writer.attempts ((traced 5).finish (w 5).watched .json) =
          before ++ [⟨operation, some 5⟩] ∧
        Attempt.AllDone before ∧ Attempt.written before = "[\"turn_left\",") ∧
    (Attempt.AllDone (traced 99).out.attempts ∧
      Attempt.written (traced 99).out.attempts =
        "[\"turn_left\",\"move_forward\",\"turn_right\"" ∧
      Writer.unwatch ((traced 99).finish (w 99).watched .json) = .ok 3 14 ∧
      Attempt.written (Writer.attempts ((traced 99).finish (w 99).watched .json)) =
        "[\"turn_left\",\"move_forward\",\"turn_right\"]\n") := by
  intro w cs traced
  have hcount : cs.length < UInt64.size := by decide
  refine ⟨hcount, ?_, ?_⟩
  · -- the sixth operation is the quotation mark in front of the second call
    obtain ⟨hfailed, -, before, operation, hbefore, hdone⟩ :=
      finish_reports_first_failure (w 5) .json cs 0 hcount
    have hnotes : Attempt.ofPieces ["[", "\"", "turn_left", "\"", ","] ++
        [⟨.write "\"", some 5⟩] = before ++ [⟨operation, some 5⟩] := hbefore
    obtain ⟨rfl, -⟩ := List.append_inj' hnotes rfl
    exact ⟨hfailed, _, operation, hbefore, hdone, by decide⟩
  · obtain ⟨hended, hfront, -, -, hwritten, -⟩ :=
      finish_reports_first_failure (w 99) .json cs 0 hcount
    have hall : Attempt.AllDone (traced 99).out.attempts := by
      unfold Attempt.AllDone
      decide
    have hcalls := (hfront cs (List.prefix_refl cs)).2 hall
    exact ⟨hall, hcalls.1, hended, hwritten⟩

end Trace

end RobotScript
