import Mathlib.Data.List.Nodup
import Mathlib.Data.List.Perm.Subperm
import RobotScript.Proofs.Action.Interpreter

/-! # How much work is pending

    The stack of the machine never holds more entries than the action has
    nodes, however often its repetitions run.

    An entry stands for a node of the tree, and the stack is followed here with
    the paths to these nodes beside the entries (`Placed`).  The paths are kept
    in the order in which the nodes are finished: an entry lies inside of the
    node of each entry below it, or to the left of it.  A round keeps this
    order, since the work that an entry leaves behind lies inside of its node,
    so no node is pending twice (`Placed.Orderly.advance`). -/

namespace RobotScript

universe u

/-! ### Nodes -/

namespace Action

/-- The actions right below the root. -/
def children : Action → List Action
  | .moveForward => []
  | .turnLeft => []
  | .turnRight => []
  | .sequence as => as
  | .repeated _ a => [a]

/-- The action at the end of a path, which names a child at each node. -/
def nodeAt? : List Nat → Action → Option Action
  | [], a => some a
  | i :: path, a => a.children[i]?.bind (nodeAt? path)

mutual

/-- The number of nodes of an action. -/
def nodeCount : Action → Nat
  | .moveForward => 1
  | .turnLeft => 1
  | .turnRight => 1
  | .sequence as => 1 + nodeCountOfList as
  | .repeated _ a => 1 + nodeCount a

/-- The number of nodes of some actions. -/
def nodeCountOfList : List Action → Nat
  | [] => 0
  | a :: as => nodeCount a + nodeCountOfList as

end

mutual

/-- The paths to the nodes of an action. -/
def paths : Action → List (List Nat)
  | .moveForward => [[]]
  | .turnLeft => [[]]
  | .turnRight => [[]]
  | .sequence as => [] :: pathsOfList 0 as
  | .repeated _ a => [] :: (paths a).map (0 :: ·)

/-- The paths to the nodes of some actions that are children, the first of them with number `i`. -/
def pathsOfList (i : Nat) : List Action → List (List Nat)
  | [] => []
  | a :: as => (paths a).map (i :: ·) ++ pathsOfList (i + 1) as

end

mutual

/-- There is one path to each node. -/
theorem length_paths : (a : Action) → (paths a).length = nodeCount a
  | .moveForward => rfl
  | .turnLeft => rfl
  | .turnRight => rfl
  | .sequence as => by
    rw [paths, List.length_cons, length_pathsOfList 0 as, nodeCount, Nat.add_comm]
  | .repeated n a => by
    rw [paths, List.length_cons, List.length_map, length_paths a, nodeCount, Nat.add_comm]

theorem length_pathsOfList (i : Nat) : (as : List Action) →
    (pathsOfList i as).length = nodeCountOfList as
  | [] => rfl
  | a :: as => by
    rw [pathsOfList, List.length_append, List.length_map, length_paths a,
      length_pathsOfList (i + 1) as, nodeCountOfList]

end

mutual

/-- Every path that ends at a node is listed. -/
theorem mem_paths_of_nodeAt? : (a : Action) → (path : List Nat) → (b : Action) →
    nodeAt? path a = some b → path ∈ paths a
  | .moveForward, [], _, _ => List.mem_singleton_self _
  | .turnLeft, [], _, _ => List.mem_singleton_self _
  | .turnRight, [], _, _ => List.mem_singleton_self _
  | .sequence _, [], _, _ => List.mem_cons_self
  | .repeated _ _, [], _, _ => List.mem_cons_self
  | .sequence as, i :: path, b, h => by
    obtain ⟨a, ha, hb⟩ := Option.bind_eq_some_iff.1 h
    have hmem := mem_pathsOfList_of_nodeAt? 0 as i path a b ha hb
    rw [Nat.zero_add] at hmem
    exact List.mem_cons_of_mem _ hmem
  | .repeated n a, i :: path, b, h => by
    obtain ⟨a', ha', hb⟩ := Option.bind_eq_some_iff.1 h
    -- a repetition has one child
    obtain ⟨hi, rfl⟩ := List.getElem?_eq_some_iff.1 ha'
    obtain rfl : i = 0 := Nat.lt_one_iff.1 hi
    exact List.mem_cons_of_mem _ (List.mem_map_of_mem (mem_paths_of_nodeAt? a path b hb))

theorem mem_pathsOfList_of_nodeAt? (k : Nat) : (as : List Action) → (i : Nat) →
    (path : List Nat) → (a b : Action) → as[i]? = some a → nodeAt? path a = some b →
    (k + i) :: path ∈ pathsOfList k as
  | [], _, _, _, _, ha, _ => by cases ha
  | a :: as, 0, path, _, b, ha, hb => by
    cases ha
    exact List.mem_append_left _ (List.mem_map_of_mem (mem_paths_of_nodeAt? a path b hb))
  | _ :: as, i + 1, path, a, b, ha, hb => by
    have hmem := mem_pathsOfList_of_nodeAt? (k + 1) as i path a b ha hb
    rw [Nat.add_assoc, Nat.add_comm 1 i] at hmem
    exact List.mem_append_right _ hmem

end

/-- A path that is continued is followed to its end first. -/
theorem nodeAt?_append (p q : List Nat) (a : Action) :
    nodeAt? (p ++ q) a = (nodeAt? p a).bind (nodeAt? q) := by
  induction p generalizing a with
  | nil => rfl
  | cons i p ih =>
    rw [List.cons_append, nodeAt?, nodeAt?, Option.bind_assoc]
    congr 1
    exact funext ih

/-- A child of the node at the end of a path. -/
theorem nodeAt?_append_singleton {p : List Nat} {a b : Action} (h : nodeAt? p a = some b)
    (i : Nat) : nodeAt? (p ++ [i]) a = b.children[i]? := by
  rw [nodeAt?_append, h, Option.bind_some, nodeAt?]
  cases b.children[i]? <;> rfl

end Action

/-! ### The order of the nodes -/

/-- The node at the first path is finished before the one at the second. -/
inductive FinishedBefore : List Nat → List Nat → Prop where
  /-- It lies inside of it. -/
  | inside (i : Nat) (p : List Nat) : FinishedBefore (i :: p) []
  /-- It lies to the left of it. -/
  | left {i j : Nat} (hlt : i < j) (p q : List Nat) : FinishedBefore (i :: p) (j :: q)
  /-- It is so inside of a child. -/
  | within (i : Nat) {p q : List Nat} (h : FinishedBefore p q) : FinishedBefore (i :: p) (i :: q)

namespace FinishedBefore

/-- No node is finished before itself. -/
theorem irrefl (p : List Nat) : ¬ FinishedBefore p p := by
  intro h
  induction p with
  | nil => cases h
  | cons i p ih =>
    cases h with
    | left hlt => exact Nat.lt_irrefl i hlt
    | within _ h => exact ih h

instance : Std.Irrefl FinishedBefore := ⟨irrefl⟩

/-- What lies inside of a node is finished before all that comes behind the node. -/
theorem append {p q : List Nat} (h : FinishedBefore p q) (r : List Nat) :
    FinishedBefore (p ++ r) q := by
  induction h with
  | inside i p => exact .inside i (p ++ r)
  | left hlt p q => exact .left hlt (p ++ r) q
  | within i _ ih => exact .within i ih

/-- What lies inside of a node is finished before the node. -/
theorem append_singleton (p : List Nat) (i : Nat) : FinishedBefore (p ++ [i]) p := by
  induction p with
  | nil => exact .inside i []
  | cons j p ih => exact .within j ih

/-- The children of a node are finished from left to right. -/
theorem children (p : List Nat) {i j : Nat} (hlt : i < j) :
    FinishedBefore (p ++ [i]) (p ++ [j]) := by
  induction p with
  | nil => exact .left hlt [] []
  | cons k p ih => exact .within k ih

end FinishedBefore

/-! ### Entries and their nodes -/

/-- An entry of the stack and the path to the node that it stands for. -/
structure Placed where
  path : List Nat
  entry : Pending

namespace Placed

/-- What is left of an entry stands for the same node. -/
def rest (e : Placed) : List Placed := e.entry.rest.map (Placed.mk e.path)

/-- The work that an action leaves behind stands for its children. -/
def unfold (e : Placed) : List Placed :=
  (Pending.unfold e.entry.action).mapIdx fun i p => ⟨e.path ++ [i], p⟩

/-- The stack after the action of its first entry has begun to run. -/
def advance (e : Placed) (stack : List Placed) : List Placed := e.unfold ++ (e.rest ++ stack)

/-- The stack after some rounds. -/
def after : Nat → List Placed → List Placed
  | 0, stack => stack
  | _ + 1, [] => []
  | n + 1, e :: stack => after n (e.advance stack)

/-- The stack of the machine that is about to run an action. -/
def start (a : Action) : List Placed := [⟨[], .once a⟩]

/-- The entries go through a round as those of the machine do. -/
theorem map_entry_advance {σ : Type u} (robot : Robot σ) (e : Placed) (stack : List Placed)
    (s : σ) :
    (e.advance stack).map entry = (Machine.advance robot e.entry (stack.map entry) s).stack := by
  have hunfold : e.unfold.map entry = Pending.unfold e.entry.action := by
    apply List.ext_getElem
    · simp [unfold]
    · intro i hi hi'
      simp [unfold]
  have hrest : e.rest.map entry = e.entry.rest := by simp [rest, Function.comp_def]
  rw [advance, List.map_append, List.map_append, hunfold, hrest]
  rfl

/-- After the same number of rounds the entries are those of the machine. -/
theorem map_entry_after {σ : Type u} {robot : Robot σ} {n : Nat} {m m' : Machine σ}
    (h : Machine.Rounds robot n m m') (stack : List Placed) (hstack : stack.map entry = m.stack) :
    (after n stack).map entry = m'.stack := by
  induction h generalizing stack with
  | zero m => exact hstack
  | @succ n m m' m'' hstep _ ih =>
    obtain ⟨entries, s⟩ := m
    cases stack with
    | nil =>
      subst hstack
      cases hstep
    | cons e stack =>
      subst hstack
      cases hstep
      exact ih (e.advance stack) (map_entry_advance robot e stack s)

/-! ### The stack in order -/

/-- The entry stands for a node of the action. -/
inductive StandsIn (a : Action) : Placed → Prop where
  /-- An action that is to be run once is the one at the end of the path. -/
  | once {p : List Nat} {b : Action} (hnode : a.nodeAt? p = some b) : StandsIn a ⟨p, .once b⟩
  /-- A body with runs to go is that of a repetition which has this number of runs or more. -/
  | again {p : List Nat} {b : Action} {count n : UInt32}
      (hnode : a.nodeAt? p = some (.repeated count b)) (hpos : 0 < n) (hle : n ≤ count) :
      StandsIn a ⟨p ++ [0], .again b n⟩

variable {a : Action} {e : Placed} {stack : List Placed}

/-- The path of an entry ends at the action of the entry. -/
theorem StandsIn.nodeAt? (h : e.StandsIn a) : a.nodeAt? e.path = some e.entry.action := by
  cases h with
  | once hnode => exact hnode
  | again hnode _ _ =>
    rw [Action.nodeAt?_append_singleton hnode]
    rfl

/-- The work that an action leaves behind stands for its children. -/
theorem standsIn_of_unfold {path : List Nat} {b : Action} {i : Nat} {p : Pending}
    (hnode : a.nodeAt? path = some b) (hp : (Pending.unfold b)[i]? = some p) :
    StandsIn a ⟨path ++ [i], p⟩ := by
  cases b with
  | moveForward => cases hp
  | turnLeft => cases hp
  | turnRight => cases hp
  | sequence as =>
    rw [Pending.unfold, List.getElem?_map, Option.map_eq_some_iff] at hp
    obtain ⟨b, hb, rfl⟩ := hp
    exact .once ((Action.nodeAt?_append_singleton hnode i).trans hb)
  | repeated count b =>
    by_cases hpos : 0 < count
    · -- the one entry has all runs to go
      rw [Pending.unfold, if_pos hpos] at hp
      obtain ⟨hi, rfl⟩ := List.getElem?_eq_some_iff.1 hp
      obtain rfl : i = 0 := Nat.lt_one_iff.1 hi
      exact .again hnode hpos (UInt32.le_refl count)
    · rw [Pending.unfold, if_neg hpos] at hp
      cases hp

theorem StandsIn.of_mem_unfold (h : e.StandsIn a) {x : Placed} (hx : x ∈ e.unfold) :
    x.StandsIn a := by
  obtain ⟨i, hi, rfl⟩ := List.mem_mapIdx.1 hx
  exact standsIn_of_unfold h.nodeAt? (List.getElem?_eq_getElem hi)

/-- What is left of an entry has one run less to go, and still at least one. -/
theorem StandsIn.of_mem_rest (h : e.StandsIn a) {x : Placed} (hx : x ∈ e.rest) :
    x.StandsIn a := by
  cases h with
  | once _ => cases hx
  | @again p b count n hnode hpos hle =>
    by_cases hmore : 1 < n
    · rw [Placed.rest, Pending.rest, if_pos hmore, List.map_singleton, List.mem_singleton] at hx
      subst hx
      have hone : 1 ≤ n := UInt32.le_of_lt hmore
      refine .again hnode ?_ (UInt32.le_trans (UInt32.sub_le hone) hle)
      rw [UInt32.lt_iff_toNat_lt, UInt32.toNat_sub_of_le n 1 hone]
      exact Nat.sub_pos_of_lt (UInt32.lt_iff_toNat_lt.1 hmore)
    · -- this was the last run
      rw [Placed.rest, Pending.rest, if_neg hmore] at hx
      cases hx

/-- The entries stand for nodes of the action, and those of the nodes that are finished first are
    run first. -/
structure Orderly (a : Action) (stack : List Placed) : Prop where
  stands : ∀ e ∈ stack, e.StandsIn a
  order : stack.Pairwise fun x y => FinishedBefore x.path y.path

/-- The stack of a machine that has not begun is in order. -/
theorem orderly_start (a : Action) : Orderly a (start a) where
  stands := by
    intro e he
    obtain rfl := List.mem_singleton.1 he
    exact .once rfl
  order := List.pairwise_singleton _ _

theorem path_of_mem_rest {x : Placed} (hx : x ∈ e.rest) : x.path = e.path := by
  obtain ⟨p, -, rfl⟩ := List.mem_map.1 hx
  rfl

/-- The work that an action leaves behind is finished from left to right. -/
theorem pairwise_unfold (e : Placed) :
    e.unfold.Pairwise fun x y => FinishedBefore x.path y.path := by
  have hpath : ∀ i (hi : i < e.unfold.length), e.unfold[i].path = e.path ++ [i] := by
    intro i hi
    simp [Placed.unfold]
  rw [List.pairwise_iff_getElem]
  intro i j hi hj hij
  rw [hpath i hi, hpath j hj]
  exact FinishedBefore.children e.path hij

/-- No more than one entry is left of an entry. -/
theorem pairwise_rest (e : Placed) : e.rest.Pairwise fun x y => FinishedBefore x.path y.path := by
  obtain ⟨path, entry⟩ := e
  cases entry with
  | once b => exact .nil
  | again b n =>
    rw [Placed.rest, Pending.rest]
    split
    · exact List.pairwise_singleton _ _
    · exact .nil

/-- A round keeps the stack in order. -/
theorem Orderly.advance (h : Orderly a (e :: stack)) : Orderly a (e.advance stack) := by
  have hentry := h.stands e List.mem_cons_self
  obtain ⟨hbelow, hstack⟩ := List.pairwise_cons.1 h.order
  constructor
  · intro x hx
    rcases List.mem_append.1 hx with hx | hx
    · exact hentry.of_mem_unfold hx
    · rcases List.mem_append.1 hx with hx | hx
      · exact hentry.of_mem_rest hx
      · exact h.stands x (List.mem_cons_of_mem e hx)
  · refine List.pairwise_append.2 ⟨pairwise_unfold e, List.pairwise_append.2
      ⟨pairwise_rest e, hstack, ?_⟩, ?_⟩
    · -- what is left of the entry stands where the entry stood
      intro x hx y hy
      rw [path_of_mem_rest hx]
      exact hbelow y hy
    · -- the work that it leaves behind stands inside of its node
      intro x hx y hy
      obtain ⟨i, hi, rfl⟩ := List.mem_mapIdx.1 hx
      rcases List.mem_append.1 hy with hy | hy
      · rw [path_of_mem_rest hy]
        exact FinishedBefore.append_singleton e.path i
      · exact (hbelow y hy).append [i]

/-- The stack stays in order for any number of rounds. -/
theorem Orderly.after (h : Orderly a stack) (n : Nat) : Orderly a (after n stack) := by
  induction n generalizing stack with
  | zero => exact h
  | succ n ih =>
    cases stack with
    | nil => exact h
    | cons e stack => exact ih h.advance

/-- In a stack that is in order no node is pending twice. -/
theorem Orderly.nodup (h : Orderly a stack) : (stack.map path).Nodup := by
  have hpaths : (stack.map path).Pairwise FinishedBefore := List.pairwise_map.2 h.order
  exact hpaths.nodup

/-- A stack that is in order holds no more entries than there are nodes. -/
theorem Orderly.length_le (h : Orderly a stack) : stack.length ≤ a.nodeCount := by
  have hsubset : stack.map path ⊆ a.paths := by
    intro p hp
    obtain ⟨e, he, rfl⟩ := List.mem_map.1 hp
    exact Action.mem_paths_of_nodeAt? a e.path _ (h.stands e he).nodeAt?
  have hlength := (List.subperm_of_subset h.nodup hsubset).length_le
  rwa [List.length_map, Action.length_paths] at hlength

end Placed

/-- In every state that the machine reaches on its way through an action, each entry of the stack
    stands for a node: an action that is to be run once for its own node, and a body for that of the
    body of a repetition which has as many runs as are still to go, or more, and at least one is.
    No two entries stand for one node, so there are no more entries than the action has nodes. -/
theorem Machine.pending_nodes_distinct {σ : Type u} (robot : Robot σ) (a : Action) (s : σ) {n : Nat}
    {m : Machine σ} (h : Machine.Rounds robot n (.start a s) m) :
    let stack := Placed.after n (Placed.start a)
    stack.map Placed.entry = m.stack ∧ (∀ e ∈ stack, e.StandsIn a) ∧
      (stack.map Placed.path).Nodup ∧ m.stack.length ≤ a.nodeCount := by
  intro stack
  have hentries : stack.map Placed.entry = m.stack := Placed.map_entry_after h _ rfl
  have horderly : Placed.Orderly a stack := (Placed.orderly_start a).after n
  refine ⟨hentries, horderly.stands, horderly.nodup, ?_⟩
  rw [← hentries, List.length_map]
  exact horderly.length_le

/-- Of a repetition with as many runs as can be written, one entry is pending beside those for the
    run that has begun. -/
theorem Machine.pending_nodes_distinct_repeat :
    let turns : Action := .repeated 2 .turnLeft
    let body : Action := .sequence [.moveForward, turns]
    let a : Action := .repeated 4294967295 body
    let m : Machine Recording :=
      ⟨[.again .turnLeft 2, .again body 4294967294], #[.moveForward]⟩
    Machine.Rounds recorder 4 (.start a #[]) m ∧
      (⟨[0, 1, 0], .again .turnLeft 2⟩ : Placed).StandsIn a ∧
      (⟨[0], .again body 4294967294⟩ : Placed).StandsIn a ∧
      ([[0, 1, 0], [0]] : List (List Nat)).Nodup ∧ m.stack.length ≤ a.nodeCount := by
  intro turns body a m
  have hrounds : Machine.Rounds recorder 4 (.start a #[]) m :=
    .succ rfl (.succ rfl (.succ rfl (.succ rfl (.zero m))))
  obtain ⟨-, hstands, hnodup, hlength⟩ := Machine.pending_nodes_distinct recorder a #[] hrounds
  exact ⟨hrounds, hstands _ List.mem_cons_self,
    hstands _ (List.mem_cons_of_mem _ List.mem_cons_self), hnodup, hlength⟩

end RobotScript
