import RobotScript.Output.Basic

/-! # What is written

    A writer is handed pieces of text.  Sinks keep the first bytes of all
    pieces, and a trace is one list of pieces for every writer. -/

namespace RobotScript

/-! ## What a sink keeps

    A sink keeps the first bytes of everything it is offered, whatever the
    pieces are in which it is offered and wherever its limit cuts them.  So a
    sink is described by the text offered to it so far (`Sink.offered`), and
    writing pieces in order either offers all of them or fails, and in both
    cases it keeps what it would keep of their concatenation. -/

/-! ### Writers -/

namespace Writer

variable {ε σ : Type}

/-- Pieces can be written in two goes. -/
theorem writeAll_append (w : Writer ε σ) (ps qs : List String) (out : σ) :
    w.writeAll (ps ++ qs) out =
      match w.writeAll ps out with
      | .ok _ out' => w.writeAll qs out'
      | .error e out' => .error e out' := by
  induction ps generalizing out with
  | nil => rfl
  | cons p ps ih =>
    change EStateM.bind (w.write p) (fun _ => w.writeAll (ps ++ qs)) out =
      match EStateM.bind (w.write p) (fun _ => w.writeAll ps) out with
      | .ok _ out' => w.writeAll qs out'
      | .error e out' => .error e out'
    unfold EStateM.bind
    cases w.write p out with
    | ok _ out' => exact ih out'
    | error e out' => rfl

end Writer

namespace Sink

/-! ### Room -/

/-- How many of the first `n` bytes offered are kept. -/
def capacity (limit : Option Nat) (n : Nat) : Nat :=
  match limit with
  | none => n
  | some most => min most n

/-- The text can be kept as a whole. -/
def Takes (limit : Option Nat) (text : String) : Prop :=
  ∀ most, limit = some most → text.utf8ByteSize ≤ most

theorem takes_none (text : String) : Takes none text := fun _ hlimit => by cases hlimit

instance (limit : Option Nat) (text : String) : Decidable (Takes limit text) :=
  match limit with
  | none => isTrue (takes_none text)
  | some most =>
    decidable_of_iff (text.utf8ByteSize ≤ most)
      ⟨fun h _ hm => by cases hm; exact h, fun h => h _ rfl⟩

/-- The sink that was offered a text when it was empty. -/
def offered (limit : Option Nat) (failFlush : Bool) (text : String) : Sink where
  kept := text.toUTF8.extract 0 (capacity limit text.utf8ByteSize)
  limit := limit
  failFlush := failFlush

variable {limit : Option Nat} {failFlush : Bool}

theorem offered_empty : offered limit failFlush "" = empty limit failFlush := by
  unfold offered empty
  congr 1
  apply ByteArray.ext
  simp

theorem takes_empty (limit : Option Nat) : Takes limit "" := fun _ _ => Nat.zero_le _

theorem Takes.of_append {s t : String} (h : Takes limit (s ++ t)) : Takes limit s := by
  intro most hlimit
  have := h most hlimit
  rw [String.utf8ByteSize_append] at this
  omega

theorem takes_some_iff {most : Nat} {text : String} :
    Takes (some most) text ↔ text.utf8ByteSize ≤ most :=
  ⟨fun h => h most rfl, fun h _ hm => by cases hm; exact h⟩

/-- A text can be kept as a whole if there is room for all of its bytes. -/
theorem capacity_eq_iff {text : String} :
    capacity limit text.utf8ByteSize = text.utf8ByteSize ↔ Takes limit text := by
  cases limit with
  | none => exact ⟨fun _ => takes_none text, fun _ => rfl⟩
  | some most =>
    rw [takes_some_iff]
    show min most text.utf8ByteSize = text.utf8ByteSize ↔ text.utf8ByteSize ≤ most
    omega

theorem kept_offered_of_takes {text : String} (h : Takes limit text) :
    (offered limit failFlush text).kept = text.toByteArray := by
  unfold offered
  rw [capacity_eq_iff.2 h, String.toUTF8_eq_toByteArray, ← String.size_toByteArray,
    ByteArray.extract_zero_size]

/-- A sink that could not keep all it was offered keeps nothing more. -/
theorem offered_append_of_not_takes {text : String} (more : String) (h : ¬ Takes limit text) :
    offered limit failFlush (text ++ more) = offered limit failFlush text := by
  cases limit with
  | none => exact absurd (takes_none text) h
  | some most =>
    -- the limit lies inside the text that was offered first
    have hlt : most < text.utf8ByteSize := Nat.lt_of_not_le fun hle => h (takes_some_iff.2 hle)
    have hsize := String.utf8ByteSize_append (s := text) (t := more)
    have hfull : capacity (some most) text.utf8ByteSize = most := Nat.min_eq_left (by omega)
    have hfull' : capacity (some most) (text ++ more).utf8ByteSize = most :=
      Nat.min_eq_left (by omega)
    have hnothing : most - text.utf8ByteSize = 0 := by omega
    unfold offered
    rw [hfull, hfull', String.toUTF8_eq_toByteArray, String.toUTF8_eq_toByteArray,
      String.toByteArray_append, ByteArray.extract_append, String.size_toByteArray, hnothing]
    simp

/-! ### Writing -/

/-- A text that can be kept as a whole is kept, whatever comes behind it. -/
theorem le_capacity_add {text : String} (h : Takes limit text) (n : Nat) :
    text.utf8ByteSize ≤ capacity limit (text.utf8ByteSize + n) := by
  cases limit with
  | none => exact Nat.le_add_right _ _
  | some most => exact Nat.le_min.2 ⟨takes_some_iff.1 h, Nat.le_add_right _ _⟩

/-- How much of a piece is kept behind a text that was offered before. -/
theorem room_offered {text : String} (h : Takes limit text) (n : Nat) :
    (offered limit failFlush text).room n =
      capacity limit (text.utf8ByteSize + n) - text.utf8ByteSize := by
  have hkept : (offered limit failFlush text).kept.size = text.utf8ByteSize := by
    rw [kept_offered_of_takes h, String.size_toByteArray]
  unfold room
  rw [hkept]
  cases limit with
  | none =>
    show n = text.utf8ByteSize + n - text.utf8ByteSize
    omega
  | some most =>
    have hle := takes_some_iff.1 h
    show min n (most - text.utf8ByteSize) =
      min most (text.utf8ByteSize + n) - text.utf8ByteSize
    omega

/-- A piece is kept behind what was offered before, as far as there is room for it. -/
theorem kept_offered_append {text : String} (h : Takes limit text) (piece : String) :
    (offered limit failFlush (text ++ piece)).kept =
      (offered limit failFlush text).kept ++
        piece.toByteArray.extract 0 ((offered limit failFlush text).room piece.utf8ByteSize) := by
  have hle := le_capacity_add h piece.utf8ByteSize
  -- all of the text lies in front of the end of what is kept
  have htext : text.toByteArray.extract 0
      (capacity limit (text.utf8ByteSize + piece.utf8ByteSize)) = text.toByteArray := by
    rw [← Nat.max_eq_left hle, ← String.size_toByteArray, ByteArray.extract_zero_max_size]
  rw [room_offered h, kept_offered_of_takes h]
  unfold offered
  rw [String.utf8ByteSize_append, String.toUTF8_eq_toByteArray, String.toByteArray_append,
    ByteArray.extract_append, String.size_toByteArray, Nat.zero_sub, htext]

/-- Running `x` adds a text to what was offered before, and it fails with `e` if there is no room
    for all of the text. -/
def Writes (limit : Option Nat) (failFlush : Bool) {ε : Type} (x : EStateM ε Sink Unit)
    (piece : String) (e : ε) : Prop :=
  ∀ text, Takes limit text →
    x (offered limit failFlush text) =
      if Takes limit (text ++ piece) then .ok () (offered limit failFlush (text ++ piece))
      else .error e (offered limit failFlush (text ++ piece))

/-- Writing a piece adds it. -/
theorem writes_write (limit : Option Nat) (failFlush : Bool) (piece : String) :
    Writes limit failFlush (write piece) piece .brokenPipe := by
  intro text h
  have hstate : { offered limit failFlush text with
      kept := (offered limit failFlush text).kept ++
        piece.toByteArray.extract 0 ((offered limit failFlush text).room piece.utf8ByteSize) } =
      offered limit failFlush (text ++ piece) := by
    rw [← kept_offered_append h]
    rfl
  -- all of the piece is taken if and only if nothing of the longer text is missing
  have hroom : (offered limit failFlush text).room piece.utf8ByteSize = piece.utf8ByteSize ↔
      Takes limit (text ++ piece) := by
    have hle := le_capacity_add h piece.utf8ByteSize
    rw [room_offered h, ← capacity_eq_iff, String.utf8ByteSize_append]
    omega
  unfold write
  simp only [String.toUTF8_eq_toByteArray, String.size_toByteArray, hstate, hroom]

namespace Writes

variable {ε ε' : Type} {x y : EStateM ε Sink Unit} {e : ε}

theorem nothing (limit : Option Nat) (failFlush : Bool) (e : ε) :
    Writes limit failFlush (pure ()) "" e := by
  intro text h
  rw [String.append_empty, if_pos h]
  rfl

/-- What is written in two goes is written one behind the other. -/
theorem bind {p q : String} (hx : Writes limit failFlush x p e)
    (hy : Writes limit failFlush y q e) :
    Writes limit failFlush (x >>= fun _ => y) (p ++ q) e := by
  intro text h
  change EStateM.bind x (fun _ => y) _ = _
  unfold EStateM.bind
  rw [hx text h, ← String.append_assoc]
  by_cases hfirst : Takes limit (text ++ p)
  · rw [if_pos hfirst]
    exact hy (text ++ p) hfirst
  · -- the sink is full, and nothing of what follows is kept
    have hall : ¬ Takes limit (text ++ p ++ q) := fun hall => hfirst hall.of_append
    rw [if_neg hfirst, if_neg hall, offered_append_of_not_takes _ hfirst]

/-- The error can be put in other words. -/
theorem adaptExcept {p : String} (hx : Writes limit failFlush x p e) (f : ε → ε') :
    Writes limit failFlush (x.adaptExcept f) p (f e) := by
  intro text h
  unfold EStateM.adaptExcept
  rw [hx text h]
  by_cases hfirst : Takes limit (text ++ p)
  · rw [if_pos hfirst, if_pos hfirst]
  · rw [if_neg hfirst, if_neg hfirst]

end Writes

/-- Writing pieces one after the other adds all of them. -/
theorem writes_writeAll (limit : Option Nat) (failFlush : Bool) (pieces : List String) :
    Writes limit failFlush (writer.writeAll pieces) (String.join pieces) .brokenPipe := by
  induction pieces with
  | nil => exact Writes.nothing limit failFlush _
  | cons piece pieces ih =>
    rw [String.join_cons]
    exact (writes_write limit failFlush piece).bind ih

end Sink

/-! ## A trace is one list of pieces

    The robot that writes its calls hands them to the writer one by one and
    keeps the first error.  For every writer this comes to writing the pieces
    of all calls, and the pieces that end the trace, in one go
    (`finish_performAll`), as long as the number of calls does not overflow its
    64-bit counter. -/

namespace Trace

/-! ### Pieces -/

/-- The pieces of text for some calls; `first` tells whether no call stands before them. -/
def callPieces (format : Format) : Bool → List Call → List String
  | _, [] => []
  | first, c :: cs => pieces format first c ++ callPieces format false cs

/-- The pieces of text of a whole trace. -/
def tracePieces (format : Format) (cs : List Call) : List String :=
  callPieces format true cs ++ endPieces format (UInt64.ofNat cs.length)

variable {ε σ : Type} (w : Writer ε σ) (format : Format)

/-! ### Making calls -/

/-- Once an error is kept, calls change nothing. -/
theorem performAll_of_error (cs : List Call) (out : σ) (calls : UInt64) (e : ε) :
    (robot w format).performAll cs ⟨out, calls, some e⟩ = ⟨out, calls, some e⟩ := by
  induction cs with
  | nil => rfl
  | cons c cs ih =>
    have hrecord : (robot w format).perform c ⟨out, calls, some e⟩ = ⟨out, calls, some e⟩ := by
      rw [robot, Robot.perform_ofPerform, record]
    rw [Robot.performAll_cons, hrecord, ih]

/-- A counter of calls that has not overflowed is 0 only if no call was made. -/
theorem ofNat_beq_zero {n : Nat} (h : n < UInt64.size) : (UInt64.ofNat n == 0) = (n == 0) := by
  rw [Bool.eq_iff_iff, beq_iff_eq, beq_iff_eq]
  constructor
  · intro hzero
    have hnat := congrArg UInt64.toNat hzero
    rw [UInt64.toNat_ofNat_of_lt' h] at hnat
    exact hnat
  · rintro rfl
    rfl

/-- Calls that are made one by one, `n` others before them, are written like one list of pieces. -/
theorem performAll_robot (cs : List Call) (out : σ) (n : Nat) (hcount : n + cs.length < UInt64.size) :
    match w.writeAll (callPieces format (n == 0) cs) out with
    | .ok _ out' =>
      (robot w format).performAll cs ⟨out, UInt64.ofNat n, none⟩ =
        ⟨out', UInt64.ofNat (n + cs.length), none⟩
    | .error e out' =>
      ∃ calls, (robot w format).performAll cs ⟨out, UInt64.ofNat n, none⟩ =
        ⟨out', calls, some e⟩ := by
  induction cs generalizing out n with
  | nil => rfl
  | cons c cs ih =>
    rw [List.length_cons] at hcount
    rw [callPieces, Writer.writeAll_append, Robot.performAll_cons, robot, Robot.perform_ofPerform,
      record, ofNat_beq_zero (by omega)]
    cases w.writeAll (pieces format (n == 0) c) out with
    | error e out' =>
      -- the other calls find the error kept
      exact ⟨UInt64.ofNat n, performAll_of_error w format cs out' (UInt64.ofNat n) e⟩
    | ok _ out' =>
      have ih := ih out' (n + 1) (by omega)
      have hnext : UInt64.ofNat (n + 1) = UInt64.ofNat n + 1 := UInt64.ofNat_add n 1
      have hlength : n + 1 + cs.length = n + (c :: cs).length := by
        rw [List.length_cons]
        omega
      rw [hnext, hlength] at ih
      exact ih

/-- Making calls and ending the trace is writing all of it and flushing. -/
theorem finish_performAll (cs : List Call) (out : σ) (hcount : cs.length < UInt64.size) :
    ((robot w format).performAll cs (start out)).finish w format =
      (do
        w.writeAll (tracePieces format cs)
        w.flush
        pure (UInt64.ofNat cs.length) : EStateM ε σ UInt64) out := by
  have hcalls := performAll_robot w format cs out 0 (by omega)
  have hpieces : w.writeAll (tracePieces format cs) out = _ :=
    Writer.writeAll_append w (callPieces format true cs) (endPieces format _) out
  rw [beq_self_eq_true, Nat.zero_add] at hcalls
  change _ = EStateM.bind (w.writeAll (tracePieces format cs)) _ out
  unfold EStateM.bind
  rw [hpieces]
  cases hwrite : w.writeAll (callPieces format true cs) out with
  | ok _ out' =>
    -- no error is kept, so ending the trace writes the rest of it
    rw [hwrite] at hcalls
    have hstart : (robot w format).performAll cs (start out) =
        ⟨out', UInt64.ofNat cs.length, none⟩ := hcalls
    rw [hstart]
    rfl
  | error e out' =>
    -- ending the trace only hands on the error that is kept
    rw [hwrite] at hcalls
    obtain ⟨calls, hcalls⟩ := hcalls
    have hstart : (robot w format).performAll cs (start out) = ⟨out', calls, some e⟩ := hcalls
    rw [hstart]
    rfl

end Trace

end RobotScript
