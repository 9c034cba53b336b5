import RobotScript.Action.Normal
import RobotScript.Proofs.Blocks.Offence

/-! # The tokens that write an action

    The tokens of an action are balanced, and none of them offends as long as
    the action is not nested too deeply for the place it stands at.  Between
    canonical actions nothing is lost: the tokens determine the action, and
    where they end. -/

namespace RobotScript
namespace Action

open TokenKind

/-! ### Balance -/

mutual

/-- The tokens of an action close every block they open. -/
theorem balance_kinds : (a : Action) → balance (kinds a) = 0
  | .moveForward => rfl
  | .turnLeft => rfl
  | .turnRight => rfl
  | .sequence as => balance_kindsOfList as
  | .repeated n a => by
    have hbody := balance_kinds a
    simp [kinds, delta, hbody]

theorem balance_kindsOfList : (as : List Action) → balance (kindsOfList as) = 0
  | [] => rfl
  | a :: as => by
    rw [kindsOfList, balance_append, balance_kinds a, balance_kindsOfList as, Int.add_zero]

end

/-! ### No offence -/

/-- None of the tokens `ks`, which stand between `before` and `after`, offends. -/
def RightBetween (limit : Option Nat) (before ks after : List TokenKind) : Prop :=
  ∀ i, before.length ≤ i → i < before.length + ks.length →
    ¬ Offends (before ++ (ks ++ after)) limit i

/-- A command for the robot does not offend wherever it stands. -/
theorem rightBetween_leaf {limit : Option Nat} {k : TokenKind} {action : Action}
    (hleaf : k.leaf? = some action) (before after : List TokenKind) :
    RightBetween limit before [k] after := by
  intro i hi hi'
  rw [List.length_singleton] at hi'
  obtain rfl : i = before.length := by omega
  exact not_offends_of_leaf (by simp) hleaf

/-- Tokens that do not offend can be put together. -/
theorem RightBetween.append {limit : Option Nat} {before ks ls after : List TokenKind}
    (hks : RightBetween limit before ks (ls ++ after))
    (hls : RightBetween limit (before ++ ks) ls after) :
    RightBetween limit before (ks ++ ls) after := by
  intro i hi hi'
  rw [List.length_append] at hi'
  by_cases hlt : i < before.length + ks.length
  · have := hks i hi hlt
    rwa [← List.append_assoc ks ls after] at this
  · have := hls i (by rw [List.length_append]; omega) (by rw [List.length_append]; omega)
    rwa [List.append_assoc before ks, ← List.append_assoc ks ls after] at this

/-- The two ends of a block do not offend if one more block may be opened and the tokens between
    them are balanced. -/
theorem rightBetween_block {limit : Option Nat} {n : UInt32} {before body after : List TokenKind}
    (hdepth : 0 ≤ balance before) (hroom : ∀ most, limit = some most → balance before < most)
    (hbalance : balance body = 0)
    (hbody : RightBetween limit (before ++ [.repeatStart (some n)]) body (.repeatEnd :: after)) :
    RightBetween limit before (.repeatStart (some n) :: (body ++ [.repeatEnd])) after := by
  have hlist : before ++ (.repeatStart (some n) :: (body ++ [.repeatEnd]) ++ after) =
      before ++ [.repeatStart (some n)] ++ (body ++ (.repeatEnd :: after)) := by simp
  unfold RightBetween at hbody ⊢
  rw [hlist]
  generalize hks : before ++ [.repeatStart (some n)] ++ (body ++ (.repeatEnd :: after)) = ks
    at hbody ⊢
  have hstart : ks[before.length]? = some (.repeatStart (some n)) := by simp [← hks]
  have hdepthStart : depth ks before.length = balance before := by
    rw [← hks, List.append_assoc, depth_length_append]
  -- the place of the `END REPEAT`
  obtain ⟨e, he⟩ : ∃ e, e = (before ++ .repeatStart (some n) :: body).length := ⟨_, rfl⟩
  have hlength : e = before.length + 1 + body.length := by rw [he]; simp; omega
  have hsplit : ks = (before ++ .repeatStart (some n) :: body) ++ (.repeatEnd :: after) := by
    simp [← hks]
  have hend : ks[e]? = some .repeatEnd := by rw [he, hsplit]; simp
  have hdepthEnd : depth ks e = balance before + 1 := by
    rw [he, hsplit, depth_length_append]
    simp [delta, hbalance]
  intro i hi hi'
  have hlt : i = before.length ∨ (before.length + 1 ≤ i ∧ i < e) ∨ i = e := by
    simp at hi'
    omega
  rcases hlt with rfl | ⟨hfirst, hlast⟩ | rfl
  · -- the `REPEAT` has room for its block and an `END REPEAT`
    rw [offends_repeatStart_iff hstart]
    rintro (⟨most, hlimit, hdeep⟩ | hopen)
    · have := hroom most hlimit
      omega
    · refine hopen ⟨e, by omega, hend, ?_⟩
      rw [balance_range ks (by omega), depth_succ hend, depth_succ hstart, hdepthEnd, hdepthStart]
      simp only [delta]
      omega
  · exact hbody i (by simp; omega) (by simp; omega)
  · -- the `END REPEAT` closes a block that is open
    rw [offends_repeatEnd_iff hend]
    omega

mutual

/-- The tokens of an action do not offend where the action is not nested too deeply. -/
theorem rightBetween_kinds {limit : Option Nat} : (a : Action) → (before after : List TokenKind) →
    0 ≤ balance before → (∀ most, limit = some most → balance before + nesting a ≤ most) →
    RightBetween limit before (kinds a) after
  | .moveForward, before, after, _, _ => rightBetween_leaf rfl before after
  | .turnLeft, before, after, _, _ => rightBetween_leaf rfl before after
  | .turnRight, before, after, _, _ => rightBetween_leaf rfl before after
  | .sequence as, before, after, hdepth, hlimit =>
    rightBetween_kindsOfList as before after hdepth hlimit
  | .repeated n a, before, after, hdepth, hlimit => by
    simp only [nesting] at hlimit
    refine rightBetween_block hdepth (fun most h => ?_) (balance_kinds a)
      (rightBetween_kinds a _ _ ?_ fun most h => ?_)
    · -- one more block may be opened
      have := hlimit most h
      omega
    · simp [delta]
      omega
    · -- inside the block the depth is one more, and the nesting is one less
      have := hlimit most h
      simp [delta]
      omega

theorem rightBetween_kindsOfList {limit : Option Nat} :
    (as : List Action) → (before after : List TokenKind) → 0 ≤ balance before →
    (∀ most, limit = some most → balance before + nestingOfList as ≤ most) →
    RightBetween limit before (kindsOfList as) after
  | [], before, after, _, _ => by
    intro i hi hi'
    simp [kindsOfList] at hi'
    omega
  | a :: as, before, after, hdepth, hlimit => by
    simp only [nestingOfList] at hlimit
    -- the first action is balanced, so the others stand at the same depth
    refine RightBetween.append (rightBetween_kinds a _ _ hdepth fun most h => ?_)
      (rightBetween_kindsOfList as _ _ ?_ fun most h => ?_)
    · have := hlimit most h
      omega
    · rw [balance_append, balance_kinds a]
      omega
    · have := hlimit most h
      rw [balance_append, balance_kinds a]
      omega

end

/-- No token of an action offends if the action is nested no deeper than the limit. -/
theorem not_offends_kinds {limit : Option Nat} (a : Action)
    (hlimit : ∀ most, limit = some most → nesting a ≤ most) (i : Nat) :
    ¬ Offends (kinds a) limit i := by
  intro h
  have hlt := h.lt_length
  have hright := rightBetween_kinds a [] [] (Int.le_refl 0)
    (fun most hm => by have := hlimit most hm; simp; omega) i (Nat.zero_le _) (by simpa using hlt)
  rw [List.nil_append, List.append_nil] at hright
  exact hright h

/-! ### Unique reading -/

/-- The tokens are at their end or go on with an `END REPEAT`. -/
def AtBlockEnd : List TokenKind → Prop
  | [] => True
  | k :: _ => k = .repeatEnd

/-- The tokens of an element of a canonical sequence do not begin with an `END REPEAT`. -/
theorem not_atBlockEnd_kinds {a : Action} (h : IsElement a) (ks : List TokenKind) :
    ¬ AtBlockEnd (kinds a ++ ks) := by
  cases a with
  | moveForward => intro hend; cases hend
  | turnLeft => intro hend; cases hend
  | turnRight => intro hend; cases hend
  | sequence as => exact h.elim
  | repeated n a => intro hend; cases hend

mutual

/-- The tokens of an element determine it, and where they end. -/
theorem kinds_inj : (a b : Action) → IsElement a → IsElement b → (ks ls : List TokenKind) →
    kinds a ++ ks = kinds b ++ ls → a = b ∧ ks = ls
  | .repeated n (.sequence as), .repeated m (.sequence bs), ha, hb, ks, ls, h => by
    simp only [kinds, List.cons_append, List.append_assoc, List.nil_append, List.cons.injEq,
      TokenKind.repeatStart.injEq, Option.some.injEq] at h
    obtain ⟨hn, hbody⟩ := h
    -- both bodies end in front of an `END REPEAT`, and neither has one of its own there
    obtain ⟨has, hrest⟩ :=
      kindsOfList_inj as bs ha hb (.repeatEnd :: ks) (.repeatEnd :: ls) rfl rfl hbody
    exact ⟨by rw [hn, has], by simpa using hrest⟩
  | .moveForward, .moveForward, _, _, ks, ls, h => ⟨rfl, by simpa [kinds] using h⟩
  | .turnLeft, .turnLeft, _, _, ks, ls, h => ⟨rfl, by simpa [kinds] using h⟩
  | .turnRight, .turnRight, _, _, ks, ls, h => ⟨rfl, by simpa [kinds] using h⟩
  -- elements of two kinds begin with different tokens
  | .moveForward, .turnLeft, _, _, ks, ls, h => by simp [kinds] at h
  | .moveForward, .turnRight, _, _, ks, ls, h => by simp [kinds] at h
  | .moveForward, .repeated _ _, _, _, ks, ls, h => by simp [kinds] at h
  | .turnLeft, .moveForward, _, _, ks, ls, h => by simp [kinds] at h
  | .turnLeft, .turnRight, _, _, ks, ls, h => by simp [kinds] at h
  | .turnLeft, .repeated _ _, _, _, ks, ls, h => by simp [kinds] at h
  | .turnRight, .moveForward, _, _, ks, ls, h => by simp [kinds] at h
  | .turnRight, .turnLeft, _, _, ks, ls, h => by simp [kinds] at h
  | .turnRight, .repeated _ _, _, _, ks, ls, h => by simp [kinds] at h
  | .repeated _ _, .moveForward, _, _, ks, ls, h => by simp [kinds] at h
  | .repeated _ _, .turnLeft, _, _, ks, ls, h => by simp [kinds] at h
  | .repeated _ _, .turnRight, _, _, ks, ls, h => by simp [kinds] at h

/-- The tokens of the elements of a canonical sequence determine them, and where they end. -/
theorem kindsOfList_inj : (as bs : List Action) → AreElements as → AreElements bs →
    (ks ls : List TokenKind) → AtBlockEnd ks → AtBlockEnd ls →
    kindsOfList as ++ ks = kindsOfList bs ++ ls → as = bs ∧ ks = ls
  | [], [], _, _, ks, ls, _, _, h => ⟨rfl, h⟩
  | [], b :: bs, _, hb, ks, ls, hks, _, h => by
    simp only [kindsOfList, List.nil_append, List.append_assoc] at h
    -- one list is at its end where the other has an element
    rw [h] at hks
    exact absurd hks (not_atBlockEnd_kinds hb.1 _)
  | a :: as, [], ha, _, ks, ls, _, hls, h => by
    simp only [kindsOfList, List.nil_append, List.append_assoc] at h
    rw [← h] at hls
    exact absurd hls (not_atBlockEnd_kinds ha.1 _)
  | a :: as, b :: bs, ha, hb, ks, ls, hks, hls, h => by
    simp only [kindsOfList, List.append_assoc] at h
    obtain ⟨hab, htail⟩ := kinds_inj a b ha.1 hb.1 _ _ h
    obtain ⟨habs, hrest⟩ := kindsOfList_inj as bs ha.2 hb.2 ks ls hks hls htail
    exact ⟨by rw [hab, habs], hrest⟩

end

/-- Canonical actions that are written with the same tokens are the same. -/
theorem eq_of_kinds_eq {a b : Action} (ha : IsCanonical a) (hb : IsCanonical b)
    (h : kinds a = kinds b) : a = b := by
  cases a with
  | sequence as =>
    cases b with
    | sequence bs =>
      have happ : kindsOfList as ++ [] = kindsOfList bs ++ [] := by
        rw [List.append_nil, List.append_nil]
        exact h
      rw [(kindsOfList_inj as bs ha hb [] [] trivial trivial happ).1]
    | moveForward => exact hb.elim
    | turnLeft => exact hb.elim
    | turnRight => exact hb.elim
    | repeated n b => exact hb.elim
  | moveForward => exact ha.elim
  | turnLeft => exact ha.elim
  | turnRight => exact ha.elim
  | repeated n a => exact ha.elim

end Action
end RobotScript
