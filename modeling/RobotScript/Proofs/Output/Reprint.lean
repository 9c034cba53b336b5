import RobotScript.Proofs.Output.Process

/-! # Printing what was printed

    A program that is printed as text is a program text again, with the same
    tree and therefore with the same output, whatever is printed of it.  So
    printing as text brings a program into a form that printing does not change
    any more, and it loses nothing but the layout. -/

namespace RobotScript

/-- What is read is a normal form, so its text is read as it was. -/
theorem Action.parse_text_of_parse {source s : String} {limit : Option Nat} {tree : Action}
    (h : Program.parse source limit = .ok tree) (hs : tree.text? = some s) :
    Program.parse s limit = .ok tree := by
  obtain ⟨hcanonical, -, hlimit⟩ := Program.isCanonical_of_parseTokens h
  have hread := parse_text hs hlimit
  rwa [normalize_of_isCanonical hcanonical] at hread

namespace Output

open Sink

/-- Only lines that can be padded are written without a failure. -/
theorem fits_of_writeListing {σ : Type} {w : Writer IoError σ} {ls : List Line} {out out' : σ}
    (h : writeListing w ls out = .ok () out') : ∀ l ∈ ls, l.Fits := by
  induction ls generalizing out with
  | nil => exact nofun
  | cons l ls ih =>
    rw [writeListing] at h
    by_cases hfits : l.Fits
    · rw [if_pos hfits] at h
      change EStateM.bind (writeText w [l.text]) (fun _ => writeListing w ls) out = _ at h
      unfold EStateM.bind at h
      split at h
      · intro l' hl'
        rcases List.mem_cons.1 hl' with rfl | hl'
        · exact hfits
        · exact ih h l' hl'
      · cases h
    · rw [if_neg hfits] at h
      cases h

/-- The lines of a tree are printed if they can be padded. -/
theorem prints_listing {tree : Action} (hfits : ∀ l ∈ tree.listing, l.Fits) (room : Option Nat)
    (failFlush : Bool) :
    Prints .program .text room failFlush (String.join (tree.listing.map Line.text))
      (render writer .program .text tree (.empty room failFlush)) := by
  have hemit : Emit.program ≠ .trace := by decide
  exact prints_ofWriting room failFlush hemit (writes_writeListing room failFlush hfits)

/-- A tree is printed as its text if there is room for it. -/
theorem render_text_of_takes {tree : Action} {p : String} (htext : tree.text? = some p)
    {room : Option Nat} (htakes : Takes room p) (failFlush : Bool) :
    (render writer .program .text tree (.empty room failFlush)).result = .ok () ∧
      (render writer .program .text tree (.empty room failFlush)).out.kept = p.toUTF8 := by
  obtain ⟨hfits, rfl⟩ := (Action.text?_eq_some_iff tree p).1 htext
  rw [← Action.listing_eq_lines] at hfits htakes ⊢
  obtain ⟨hout, hresult⟩ := prints_listing hfits room failFlush
  rw [hout, hresult, kept_offered_of_takes htakes, if_pos ⟨htakes, nofun⟩]
  exact ⟨rfl, rfl⟩

/-- A tree that is printed as text without a failure has a text, and there is room for it. -/
theorem takes_of_render_text {tree : Action} {room : Option Nat} {failFlush : Bool}
    (h : (render writer .program .text tree (.empty room failFlush)).result = .ok ()) :
    ∃ p, tree.text? = some p ∧ Takes room p := by
  have hfits : ∀ l ∈ tree.listing, l.Fits := by
    change (ofWriting (writeListing writer tree.listing) _).result = .ok () at h
    unfold ofWriting at h
    split at h
    · rename_i hwritten
      exact fits_of_writeListing hwritten
    · cases h
  obtain ⟨-, hresult⟩ := prints_listing hfits room failFlush
  rw [hresult] at h
  split at h
  · rename_i htakes
    rw [Action.listing_eq_lines] at hfits htakes
    exact ⟨_, (Action.text?_eq_some_iff tree _).2 ⟨hfits, rfl⟩, htakes.1⟩
  · cases h

/-- A program text is printed as the text of its tree if there is room for it. -/
theorem process_text_of_takes {maxDepth : Option Nat} {source : String} {tree : Action}
    (hparse : Program.parse source (some (maxDepth.getD defaultMaxDepth)) = .ok tree) {p : String}
    (htext : tree.text? = some p) {room : Option Nat} (htakes : Takes room p) (name : String)
    (failFlush : Bool) :
    (process writer .program .text maxDepth name source (.empty room failFlush)).result = .ok () ∧
      (process writer .program .text maxDepth name source (.empty room failFlush)).out.kept =
        p.toUTF8 := by
  obtain ⟨hresult, hout⟩ :=
    process_of_ok writer .program .text name (.empty room failFlush) hparse
  rw [hresult, hout]
  exact render_text_of_takes htext htakes failFlush

/-- A program text that is printed as text without a failure is read as a tree with a text, and
    there is room for it. -/
theorem takes_of_process_text {maxDepth : Option Nat} {name source : String} {room : Option Nat}
    {failFlush : Bool}
    (h : (process writer .program .text maxDepth name source (.empty room failFlush)).result =
      .ok ()) :
    ∃ tree p, Program.parse source (some (maxDepth.getD defaultMaxDepth)) = .ok tree ∧
      tree.text? = some p ∧ Takes room p := by
  cases hparse : Program.parse source (some (maxDepth.getD defaultMaxDepth)) with
  | error e =>
    obtain ⟨hresult, -⟩ :=
      process_of_error writer .program .text name (.empty room failFlush) hparse
    rw [hresult] at h
    cases h
  | ok tree =>
    obtain ⟨hresult, -⟩ :=
      process_of_ok writer .program .text name (.empty room failFlush) hparse
    rw [hresult] at h
    obtain ⟨p, htext, htakes⟩ := takes_of_render_text h
    exact ⟨tree, p, rfl, htext, htakes⟩

/-- Texts that are read as the same tree have the same output. -/
theorem process_congr {σ : Type} (w : Writer IoError σ) (emit : Emit) (format : Format)
    {maxDepth : Option Nat} (name name' : String) {text text' : String} {tree : Action}
    (h : Program.parse text (some (maxDepth.getD defaultMaxDepth)) = .ok tree)
    (h' : Program.parse text' (some (maxDepth.getD defaultMaxDepth)) = .ok tree) (out : σ) :
    (process w emit format maxDepth name text out).result =
        (process w emit format maxDepth name' text' out).result ∧
      (process w emit format maxDepth name text out).out =
        (process w emit format maxDepth name' text' out).out := by
  obtain ⟨hresult, hout⟩ := process_of_ok w emit format name out h
  obtain ⟨hresult', hout'⟩ := process_of_ok w emit format name' out h'
  exact ⟨hresult.trans hresult'.symm, hout.trans hout'.symm⟩

/-- The text of a program is read as the same tree under the same limit.  So if a program is printed
    as text, what is printed is a text, printing that as text gives the same bytes again, and
    whatever else is printed of it, to whatever writer, is what is printed of the program. -/
theorem process_text_idempotent (source : String) :
    (∀ limit tree s, Program.parse source limit = .ok tree → tree.text? = some s →
      Program.parse s limit = .ok tree) ∧
    ∀ (maxDepth : Option Nat) (name name' : String) (room : Option Nat) (failFlush : Bool),
      let printed := process writer .program .text maxDepth name source (.empty room failFlush)
      printed.result = .ok () →
      ∃ p : String, printed.out.kept = p.toUTF8 ∧
        (let again := process writer .program .text maxDepth name' p (.empty room failFlush)
        again.result = .ok () ∧ again.out.kept = p.toUTF8) ∧
        ∀ (σ : Type) (w : Writer IoError σ) (emit : Emit) (format : Format) (out : σ),
          (process w emit format maxDepth name' p out).result =
              (process w emit format maxDepth name source out).result ∧
            (process w emit format maxDepth name' p out).out =
              (process w emit format maxDepth name source out).out := by
  constructor
  · intro limit tree s hparse htext
    exact Action.parse_text_of_parse hparse htext
  · intro maxDepth name name' room failFlush printed hresult
    obtain ⟨tree, p, hparse, htext, htakes⟩ := takes_of_process_text hresult
    have hagain := Action.parse_text_of_parse hparse htext
    have hprinted := process_text_of_takes hparse htext htakes name failFlush
    refine ⟨p, hprinted.2, process_text_of_takes hagain htext htakes name' failFlush, ?_⟩
    exact fun σ w emit format out => process_congr w emit format name' name hagain hparse out

/-- A program with leading zeros, wide blanks and two commands on a line is printed with one command
    on a line, and there is room for exactly that. -/
theorem process_text_idempotent_repeat :
    let source := "REPEAT 002\u3000LEFT\r\nEND\tREPEAT FORWARD"
    let text := "REPEAT 2\n  LEFT\nEND REPEAT\nFORWARD\n"
    let tree : Action := .sequence [.repeated 2 (.sequence [.turnLeft]), .moveForward]
    let printed := process writer .program .text (some 1) "turns" source (.empty (some 35) true)
    let again := process writer .program .text (some 1) "again" text (.empty (some 35) true)
    (Program.parse source (some 1) = .ok tree ∧ tree.text? = some text ∧
      Program.parse text (some 1) = .ok tree) ∧
    (printed.result = .ok () ∧ printed.out.kept = text.toUTF8) ∧
    (again.result = .ok () ∧ again.out.kept = text.toUTF8) ∧
    (process writer .trace .json (some 1) "again" text (.empty none true)).out =
      (process writer .trace .json (some 1) "turns" source (.empty none true)).out := by
  intro source text tree printed again
  have hcanonical : Action.IsCanonical tree := ⟨⟨trivial, trivial⟩, trivial, trivial⟩
  have hparse : Program.parse source (some 1) = .ok tree :=
    Program.parseTokens_of_isCanonical hcanonical (by decide) fun most hmost => by
      cases hmost
      decide
  have hfits : ∀ l ∈ tree.lines 0, l.Fits := by decide
  have htext : tree.text? = some text := (Action.text?_eq_some_iff _ _).2 ⟨hfits, by decide⟩
  obtain ⟨hread, hfixed⟩ := process_text_idempotent source
  have htakes : Takes (some 35) text := by decide
  have hprinted : printed.result = .ok () ∧ printed.out.kept = text.toUTF8 :=
    process_text_of_takes hparse htext htakes "turns" true
  obtain ⟨p, hkept, hagain, hother⟩ :=
    hfixed (some 1) "turns" "again" (some 35) true hprinted.1
  -- what was printed is the text
  have hp : p = text := by
    rw [← String.toByteArray_inj, ← String.toUTF8_eq_toByteArray, ← String.toUTF8_eq_toByteArray]
    exact hkept.symm.trans hprinted.2
  subst hp
  exact ⟨⟨hparse, htext, hread (some 1) tree text hparse htext⟩, hprinted, hagain,
    (hother Sink writer .trace .json (.empty none true)).2⟩

end Output
end RobotScript
