import RobotScript.Action.Basic
import RobotScript.Token

/-! # Normal forms of actions

    A token list says nothing about sequences inside sequences, and it cannot
    tell a single action in a repetition from a sequence of one.  An action is
    canonical when it has none of these: it is a sequence of leaves and of
    repetitions whose bodies are canonical again.  Every action has a normal
    form, which is canonical and makes the same calls. -/

namespace RobotScript
namespace Action

/-! ### Canonical actions -/

mutual

/-- May the action be an element of a canonical sequence? -/
def IsElement : Action → Prop
  | .moveForward => True
  | .turnLeft => True
  | .turnRight => True
  | .sequence _ => False
  | .repeated _ (.sequence as) => AreElements as
  | .repeated _ .moveForward => False
  | .repeated _ .turnLeft => False
  | .repeated _ .turnRight => False
  | .repeated _ (.repeated _ _) => False

/-- May all of the actions be elements of a canonical sequence? -/
def AreElements : List Action → Prop
  | [] => True
  | a :: as => IsElement a ∧ AreElements as

end

/-- Is the action a sequence of leaves and of repetitions with canonical bodies? -/
def IsCanonical : Action → Prop
  | .sequence as => AreElements as
  | _ => False

@[simp] theorem areElements_append (as bs : List Action) :
    AreElements (as ++ bs) ↔ AreElements as ∧ AreElements bs := by
  induction as with
  | nil => simp [AreElements]
  | cons a as ih => simp [AreElements, ih, and_assoc]

/-! ### The tokens of an action -/

mutual

/-- The kinds of the tokens that write the action. -/
def kinds : Action → List TokenKind
  | .moveForward => [.forward]
  | .turnLeft => [.left]
  | .turnRight => [.right]
  | .sequence as => kindsOfList as
  | .repeated n a => .repeatStart (some n) :: (kinds a ++ [.repeatEnd])

/-- The kinds of the tokens that write some actions, one after the other. -/
def kindsOfList : List Action → List TokenKind
  | [] => []
  | a :: as => kinds a ++ kindsOfList as

end

mutual

/-- The greatest number of repetitions inside one another. -/
def nesting : Action → Nat
  | .moveForward => 0
  | .turnLeft => 0
  | .turnRight => 0
  | .sequence as => nestingOfList as
  | .repeated _ a => nesting a + 1

/-- The greatest number of repetitions inside one another in any of the actions. -/
def nestingOfList : List Action → Nat
  | [] => 0
  | a :: as => max (nesting a) (nestingOfList as)

end

@[simp] theorem kindsOfList_append (as bs : List Action) :
    kindsOfList (as ++ bs) = kindsOfList as ++ kindsOfList bs := by
  induction as with
  | nil => rfl
  | cons a as ih => simp [kindsOfList, ih]

@[simp] theorem nestingOfList_append (as bs : List Action) :
    nestingOfList (as ++ bs) = max (nestingOfList as) (nestingOfList bs) := by
  induction as with
  | nil => simp [nestingOfList]
  | cons a as ih => simp [nestingOfList, ih, Nat.max_assoc]

@[simp] theorem callsOfList_append (as bs : List Action) :
    callsOfList (as ++ bs) = callsOfList as ++ callsOfList bs := by
  induction as with
  | nil => rfl
  | cons a as ih => simp [callsOfList, ih]

/-! ### Normal forms -/

mutual

/-- The elements of the action's normal form. -/
def elements : Action → List Action
  | .moveForward => [.moveForward]
  | .turnLeft => [.turnLeft]
  | .turnRight => [.turnRight]
  | .sequence as => elementsOfList as
  | .repeated n a => [.repeated n (.sequence (elements a))]

/-- The elements of the normal form of some actions in a sequence. -/
def elementsOfList : List Action → List Action
  | [] => []
  | a :: as => elements a ++ elementsOfList as

end

/-- The normal form of an action. -/
def normalize (a : Action) : Action := .sequence (elements a)

mutual

theorem areElements_elements : (a : Action) → AreElements (elements a)
  | .moveForward => ⟨trivial, trivial⟩
  | .turnLeft => ⟨trivial, trivial⟩
  | .turnRight => ⟨trivial, trivial⟩
  | .sequence as => areElements_elementsOfList as
  | .repeated _ a => ⟨areElements_elements a, trivial⟩

theorem areElements_elementsOfList : (as : List Action) → AreElements (elementsOfList as)
  | [] => trivial
  | a :: as =>
    (areElements_append _ _).2 ⟨areElements_elements a, areElements_elementsOfList as⟩

end

/-- Normal forms are canonical. -/
theorem isCanonical_normalize (a : Action) : IsCanonical (normalize a) :=
  areElements_elements a

mutual

theorem elements_of_isElement : (a : Action) → IsElement a → elements a = [a]
  | .moveForward, _ => rfl
  | .turnLeft, _ => rfl
  | .turnRight, _ => rfl
  | .repeated _ (.sequence as), h => by
    simp only [elements, elementsOfList_of_areElements as h]

theorem elementsOfList_of_areElements :
    (as : List Action) → AreElements as → elementsOfList as = as
  | [], _ => rfl
  | a :: as, h => by
    simp [elementsOfList, elements_of_isElement a h.1, elementsOfList_of_areElements as h.2]

end

/-- A canonical action is its own normal form. -/
theorem normalize_of_isCanonical {a : Action} (h : IsCanonical a) : normalize a = a := by
  cases a with
  | sequence as => simp [normalize, elements, elementsOfList_of_areElements as h]
  | moveForward => exact h.elim
  | turnLeft => exact h.elim
  | turnRight => exact h.elim
  | repeated n a => exact h.elim

mutual

theorem callsOfList_elements : (a : Action) → callsOfList (elements a) = calls a
  | .moveForward => rfl
  | .turnLeft => rfl
  | .turnRight => rfl
  | .sequence as => callsOfList_elementsOfList as
  | .repeated n a => by simp [elements, callsOfList, calls, callsOfList_elements a]

theorem callsOfList_elementsOfList :
    (as : List Action) → callsOfList (elementsOfList as) = callsOfList as
  | [] => rfl
  | a :: as => by
    simp [elementsOfList, callsOfList, callsOfList_elements a, callsOfList_elementsOfList as]

end

/-- A normal form makes the same calls. -/
theorem calls_normalize (a : Action) : calls (normalize a) = calls a :=
  callsOfList_elements a

mutual

theorem kindsOfList_elements : (a : Action) → kindsOfList (elements a) = kinds a
  | .moveForward => rfl
  | .turnLeft => rfl
  | .turnRight => rfl
  | .sequence as => kindsOfList_elementsOfList as
  | .repeated n a => by simp [elements, kindsOfList, kinds, kindsOfList_elements a]

theorem kindsOfList_elementsOfList :
    (as : List Action) → kindsOfList (elementsOfList as) = kindsOfList as
  | [] => rfl
  | a :: as => by
    simp [elementsOfList, kindsOfList, kindsOfList_elements a, kindsOfList_elementsOfList as]

end

/-- A normal form is written with the same tokens. -/
theorem kinds_normalize (a : Action) : kinds (normalize a) = kinds a :=
  kindsOfList_elements a

mutual

theorem nestingOfList_elements : (a : Action) → nestingOfList (elements a) = nesting a
  | .moveForward => rfl
  | .turnLeft => rfl
  | .turnRight => rfl
  | .sequence as => nestingOfList_elementsOfList as
  | .repeated n a => by simp [elements, nestingOfList, nesting, nestingOfList_elements a]

theorem nestingOfList_elementsOfList :
    (as : List Action) → nestingOfList (elementsOfList as) = nestingOfList as
  | [] => rfl
  | a :: as => by
    simp [elementsOfList, nestingOfList, nestingOfList_elements a, nestingOfList_elementsOfList as]

end

/-- A normal form is nested as deeply. -/
theorem nesting_normalize (a : Action) : nesting (normalize a) = nesting a :=
  nestingOfList_elements a

end Action
end RobotScript
