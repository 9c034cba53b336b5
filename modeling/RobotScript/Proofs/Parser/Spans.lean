import RobotScript.Proofs.Blocks.Openings
import RobotScript.Proofs.Parser.Grammar

/-! # What is reported about the blocks

    Reading reports each block when it is opened, before a token of its body is
    read.  The reports turn out to be right: they are about the tokens that
    open blocks, one for each of them up to the place where reading ends, and
    each names the body that the block has in the whole list of tokens
    (`reading_reports_blocks`).

    The invariant is that the reports made so far are about the openings read
    so far.  All else follows from it, as a place has at most one report:
    bodies lie apart or one inside the other, and the openings in the tokens of
    a tree are its repetitions. -/

namespace RobotScript

/-! ### Reports -/

/-- The report is about the `REPEAT` at the place `i` and the body behind it. -/
structure Span.Describes (tokens : Array Token) (i : Nat) (span : Span) : Prop where
  /-- It gives the count and the position of the `REPEAT`. -/
  start : ∃ token, tokens[i]? = some token ∧ token.kind = .repeatStart (some span.count) ∧
    token.position = span.position
  /-- The body begins behind the `REPEAT`. -/
  first : span.first = i + 1
  /-- The body is balanced and has an `END REPEAT` behind it. -/
  body : TokenKind.IsBody (Parser.kindsOf tokens) span.first span.close

/-- The second body lies behind the first one or inside of it. -/
def Span.ApartOrInside (s t : Span) : Prop :=
  s.close < t.first ∨ s.first < t.first ∧ t.close < s.close

variable {tokens : Array Token} {limit : Option Nat}

/-- What a report says about the kind of the token. -/
theorem Span.Describes.kind {i : Nat} {span : Span} (h : span.Describes tokens i) :
    (Parser.kindsOf tokens)[i]? = some (.repeatStart (some span.count)) := by
  obtain ⟨token, htoken, hkind, -⟩ := h.start
  rw [Parser.getElem?_kindsOf, htoken, ← hkind]
  rfl

/-- Reports about two places do not cross, and they end at two places. -/
theorem Span.Describes.apartOrInside {i j : Nat} {s t : Span} (hs : s.Describes tokens i)
    (ht : t.Describes tokens j) (hij : i < j) : s.ApartOrInside t ∧ s.close ≠ t.close := by
  have hbody := ht.body
  have hle := ht.body.le
  rw [ht.first] at hbody
  have hfirst : s.first ≤ j := by rw [hs.first]; exact hij
  rcases hs.body.apart_or_inside hbody hfirst ht.kind rfl with hapart | hinside
  · exact ⟨.inl (by rw [ht.first]; omega), by rw [ht.first] at hle; omega⟩
  · exact ⟨.inr ⟨by rw [ht.first]; omega, hinside⟩, by omega⟩

/-- A report about a repetition that is opened at the place gives its count, and the tokens of its
    body are those that write the body of the repetition. -/
theorem Span.Describes.repetition {i : Nat} {span : Span} {repetition : UInt32 × Action}
    (h : span.Describes tokens i) (hopens : Action.OpensAt (Parser.kindsOf tokens) repetition i) :
    span.count = repetition.1 ∧
      repetition.2.kinds = ((Parser.kindsOf tokens).take span.close).drop span.first := by
  -- one token has one count, and one opening has one body
  have hkind := h.kind
  simp only [hopens.start, Option.some_inj, TokenKind.repeatStart.injEq] at hkind
  have hbody := h.body
  rw [h.first] at hbody
  have hclose := hopens.body.stop_unique hbody
  refine ⟨hkind.symm, ?_⟩
  rw [h.first, ← hclose, hopens.kinds]

namespace Parser

/-! ### Rounds and runs -/

/-- The reports are about the openings among the first `n` tokens, in order. -/
def ReportsUpTo (tokens : Array Token) (n : Nat) (spans : List Span) : Prop :=
  List.Forall₂ (fun i span => span.Describes tokens i)
    (TokenKind.openings ((kindsOf tokens).take n)) spans

/-- The state is clean, and the openings read so far are reported. -/
structure Reported (tokens : Array Token) (limit : Option Nat) (s : State) : Prop where
  clean : Clean tokens limit s
  spans : ReportsUpTo tokens s.pos s.spans.toList

/-- A token that opens no block needs no report. -/
theorem ReportsUpTo.skip {n : Nat} {spans : List Span} {k : TokenKind}
    (h : ReportsUpTo tokens n spans) (hk : (kindsOf tokens)[n]? = some k)
    (hopens : ¬ k.opensBlock = true) : ReportsUpTo tokens (n + 1) spans := by
  unfold ReportsUpTo
  rw [TokenKind.openings_take_succ hk, if_neg hopens, List.append_nil]
  exact h

/-- A token that opens a block needs one report. -/
theorem ReportsUpTo.push {n : Nat} {spans : List Span} {span : Span}
    (h : ReportsUpTo tokens n spans) (hspan : span.Describes tokens n) :
    ReportsUpTo tokens (n + 1) (spans ++ [span]) := by
  have hopens : (TokenKind.repeatStart (some span.count)).opensBlock = true := rfl
  unfold ReportsUpTo
  rw [TokenKind.openings_take_succ hspan.kind, if_pos hopens]
  exact List.rel_append h (.cons hspan .nil)

/-- A round reports the block that it opens. -/
theorem reported_of_step {s s' : State} (h : Reported tokens limit s)
    (hstep : step tokens limit s = .next s') : Reported tokens limit s' := by
  have hround := hstep ▸ round_step limit h.clean.wellFormed
  refine ⟨clean_of_step h.clean hstep, ?_⟩
  have hspans := h.spans
  cases hround with
  | @close block parent rest pos _ hpos =>
    subst hpos
    cases h.clean.wellFormed with
    | inner hbody _ _ => exact hspans.skip hbody.terminator (by decide)
  | @leaf block outer pos _ token action hpos htoken hleaf =>
    refine hspans.skip (k := token.kind) (by rw [getElem?_kindsOf, htoken]; rfl) ?_
    intro hopens
    have hdelta := TokenKind.delta_of_leaf?_eq_some hleaf
    rw [TokenKind.delta_of_opensBlock hopens] at hdelta
    cases hdelta
  | @enter block outer pos close spans token count hpos htoken hkind hroom hbody hclose =>
    rw [Array.toList_push]
    exact hspans.push ⟨⟨token, htoken, hkind, rfl⟩, rfl, hbody⟩

/-- Before the first token nothing is reported. -/
theorem reported_start (tokens : Array Token) (limit : Option Nat) :
    Reported tokens limit (start tokens) :=
  ⟨clean_start tokens limit, .nil⟩

/-- Reading ends at the place `n`: behind the last token, or at the token that the error is
    about. -/
def EndsAt (tokens : Array Token) (limit : Option Nat) (n : Nat) : Except ParseError Action → Prop
  | .ok _ => n = tokens.size
  | .error e => IsFirstOffence (kindsOf tokens) limit n ∧
    ∃ token, tokens[n]? = some token ∧ e = token.refusal limit (depthAt tokens n)

/-- If the loop is left, the openings up to the place where reading ends are reported. -/
theorem reports_of_step {s : State} {outcome : Outcome} {spans : Array Span}
    (h : Reported tokens limit s) (hstep : step tokens limit s = .halt outcome spans) :
    ∃ n, EndsAt tokens limit n outcome.result ∧ ReportsUpTo tokens n spans.toList := by
  have hround := hstep ▸ round_step limit h.clean.wellFormed
  refine ⟨s.pos, ?_⟩
  cases hround with
  | finish hpos =>
    subst hpos
    cases h.clean.wellFormed with
    | bottom hstop _ _ => exact ⟨hstop, h.spans⟩
  | refuse htoken hoffends herror _ =>
    exact ⟨⟨⟨hoffends, h.clean.right⟩, _, htoken, herror⟩, h.spans⟩

/-- Reading reports the openings up to the place where it ends. -/
theorem reports_run (tokens : Array Token) (limit : Option Nat) :
    ∃ n, EndsAt tokens limit n (run tokens limit (start tokens)).1.result ∧
      ReportsUpTo tokens n (run tokens limit (start tokens)).2.toList :=
  run_induction
    (Q := fun outcome spans =>
      ∃ n, EndsAt tokens limit n outcome.result ∧ ReportsUpTo tokens n spans.toList)
    (fun _ _ h hstep => reported_of_step h hstep) (fun _ _ _ h hstep => reports_of_step h hstep)
    (start tokens) (reported_start tokens limit)

/-! ### All reports -/

/-- What holds of two partners, one in front of the other, holds of all pairs of a list whose
    partners are in order. -/
theorem pairwise_of_forall₂ {α β : Type} {R : α → β → Prop} {S : α → α → Prop} {T : β → β → Prop}
    {xs : List α} {ys : List β} (h : List.Forall₂ R xs ys) (hxs : xs.Pairwise S)
    (hpair : ∀ x x' y y', R x y → R x' y' → S x x' → T y y') : ys.Pairwise T := by
  have hlength := h.length_eq
  rw [List.pairwise_iff_getElem] at hxs ⊢
  intro i j hi hj hij
  exact hpair _ _ _ _ (h.get (by omega) hi) (h.get (by omega) hj)
    (hxs i j (by omega) (by omega) hij)

/-- Partners of partners. -/
theorem forall₂_trans {α β γ : Type} {R : α → β → Prop} {S : β → γ → Prop} {T : α → γ → Prop}
    {xs : List α} {ys : List β} {zs : List γ} (hxy : List.Forall₂ R xs ys)
    (hyz : List.Forall₂ S ys zs) (hpair : ∀ x y z, R x y → S y z → T x z) :
    List.Forall₂ T xs zs := by
  induction hxy generalizing zs with
  | nil => cases hyz; exact .nil
  | cons hx _ ih =>
    cases hyz with
    | cons hy hmore => exact .cons (hpair _ _ _ hx hy) (ih hmore)

/-- Reports about openings do not cross, and no two of them end at one place. -/
theorem ReportsUpTo.pairwise {n : Nat} {spans : List Span} (h : ReportsUpTo tokens n spans) :
    spans.Pairwise fun s t => s.ApartOrInside t ∧ s.close ≠ t.close :=
  pairwise_of_forall₂ h List.pairwise_findIdxs fun _ _ _ _ hs ht hij => hs.apartOrInside ht hij

/-- The records in the log of a reading are a first one that is no trace, and one about each
    report. -/
theorem filter_trace_log (reading : Reading) :
    reading.log.filter (·.level = .trace) = reading.spans.toList.map Span.record := by
  have hspans : ∀ r ∈ reading.spans.toList.map Span.record, decide (r.level = .trace) = true := by
    intro r hr
    obtain ⟨span, -, rfl⟩ := List.mem_map.1 hr
    rfl
  exact (List.filter_cons_of_neg (by simp)).trans (List.filter_eq_self.2 hspans)

/-- The trace records of reading a list of tokens write out reports about its openings, in order,
    one for each opening in front of the place where reading ends.  Each of them gives the count,
    the position and the body, no two bodies cross, and no two end at one place.  If a tree is read,
    the reports are about its repetitions in the order of the tree, and what they give as the bodies
    writes the bodies of the repetitions. -/
theorem reading_reports_blocks (tokens : Array Token) (limit : Option Nat) :
    let reading := Reading.ofTokens tokens limit
    let spans := reading.spans.toList
    (reading.log.filter (·.level = .trace) = spans.map fun span =>
      { level := .trace
        target := "robot_commands::parser"
        message := s!"repeat x{span.count.toNat} at {span.position.line}:{span.position.column} " ++
          s!"spans tokens {span.first}..{span.close}" }) ∧
    (∃ n, EndsAt tokens limit n reading.result ∧
      List.Forall₂ (fun i span => span.Describes tokens i)
        (TokenKind.openings ((kindsOf tokens).take n)) spans) ∧
    spans.Pairwise Span.ApartOrInside ∧ (spans.map Span.close).Nodup ∧
    ∀ tree, reading.result = .ok tree →
      List.Forall₂ (fun (repetition : UInt32 × Action) (span : Span) =>
          span.count = repetition.1 ∧
            repetition.2.kinds = ((kindsOf tokens).take span.close).drop span.first)
        tree.repetitions spans := by
  intro reading spans
  obtain ⟨n, hends, hreports⟩ := reports_run tokens limit
  change EndsAt tokens limit n reading.result at hends
  change ReportsUpTo tokens n spans at hreports
  have hpairs := hreports.pairwise
  refine ⟨filter_trace_log reading, ⟨n, hends, hreports⟩, hpairs.imp And.left, ?_, ?_⟩
  · rw [List.Nodup, List.pairwise_map]
    exact hpairs.imp And.right
  · intro tree htree
    -- all openings are reported, and they are those of the tokens that write the tree
    have hparse : Program.parseTokens tokens.toList limit = .ok tree := htree
    obtain ⟨-, hkinds, -⟩ := Program.isCanonical_of_parseTokens hparse
    change tree.kinds = kindsOf tokens at hkinds
    rw [htree] at hends
    change n = tokens.size at hends
    have hall : (kindsOf tokens).take n = tree.kinds := by
      rw [hends, ← length_kindsOf, List.take_length, hkinds]
    have hopened := tree.repetitions_opened
    unfold ReportsUpTo at hreports
    rw [hall] at hreports
    rw [hkinds] at hopened hreports
    exact forall₂_trans hopened hreports fun _ _ _ hopens hspan => hspan.repetition hopens

/-- The reports about two repetitions inside of a third one come behind the report about that one,
    and the last of them is about an empty body. -/
theorem reading_reports_blocks_nested :
    let tokens : Array Token :=
      #[⟨.repeatStart (some 2), "REPEAT 2", ⟨1, 1⟩⟩, ⟨.repeatStart (some 3), "REPEAT 3", ⟨2, 3⟩⟩,
        ⟨.forward, "FORWARD", ⟨2, 12⟩⟩, ⟨.repeatEnd, "END REPEAT", ⟨2, 20⟩⟩,
        ⟨.repeatStart (some 0), "REPEAT 0", ⟨3, 3⟩⟩, ⟨.repeatEnd, "END REPEAT", ⟨3, 12⟩⟩,
        ⟨.repeatEnd, "END REPEAT", ⟨4, 1⟩⟩]
    let inner : List Action := [.repeated 3 (.sequence [.moveForward]), .repeated 0 (.sequence [])]
    let reading := Reading.ofTokens tokens (some 2)
    reading.result = .ok (.sequence [.repeated 2 (.sequence inner)]) ∧
      reading.log.filter (·.level = .trace) =
        [⟨.trace, "robot_commands::parser", "repeat x2 at 1:1 spans tokens 1..6"⟩,
          ⟨.trace, "robot_commands::parser", "repeat x3 at 2:3 spans tokens 2..3"⟩,
          ⟨.trace, "robot_commands::parser", "repeat x0 at 3:3 spans tokens 5..5"⟩] ∧
      List.Forall₂ (fun (repetition : UInt32 × Action) (span : Span) =>
          span.count = repetition.1 ∧
            repetition.2.kinds = ((kindsOf tokens).take span.close).drop span.first)
        [(2, .sequence inner), (3, .sequence [.moveForward]), (0, .sequence [])]
        reading.spans.toList := by
  intro tokens inner reading
  have hcanonical : Action.IsCanonical (.sequence [.repeated 2 (.sequence inner)]) := by
    simp [inner, Action.IsCanonical, Action.AreElements, Action.IsElement]
  have hparse : Program.parseTokens tokens.toList (some 2) =
      .ok (.sequence [.repeated 2 (.sequence inner)]) :=
    Program.parseTokens_of_isCanonical hcanonical rfl fun most hmost => by cases hmost; decide
  obtain ⟨hlog, -, -, -, htree⟩ := reading_reports_blocks tokens (some 2)
  refine ⟨hparse, hlog.trans ?_, htree _ hparse⟩
  decide +kernel

end Parser

end RobotScript
