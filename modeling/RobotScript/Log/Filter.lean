import RobotScript.Pattern.Reader
import RobotScript.Report

/-! # Log filters

    A filter decides which records are shown.  It is written as directives
    separated by commas: a level, a target, or `target=level`.  A directive
    without a level lets every record of its target pass, and a directive
    without a target is about all records.  A target is meant as the beginning
    of a record's target, and of the directives that fit a record the one with
    the longest target decides.

    Behind a slash a filter may give a pattern, which has to occur in the
    messages. -/

namespace RobotScript
namespace Log

/-- A rule of a filter. -/
structure Directive where
  /-- The beginning of the targets the rule is about; `none` for all records. -/
  target : Option String
  /-- The most detailed level that passes; `none` if no level does. -/
  level : Option Level
deriving Repr, DecidableEq

namespace Directive

/-- Is the rule about records with this target? -/
def covers (d : Directive) (target : String) : Bool :=
  match d.target with
  | none => true
  | some t => t.toList.isPrefixOf target.toList

/-- The length of the rule's target, by which the more specific rule is found. -/
def specificity (d : Directive) : Nat :=
  match d.target with
  | none => 0
  | some t => t.utf8ByteSize

/-- Does the rule let records of this level pass? -/
def permits (d : Directive) (level : Level) : Bool :=
  match d.level with
  | none => false
  | some l => level.detail ≤ l.detail

end Directive

/-- The rules of a filter, and the pattern that has to occur in messages. -/
structure Filter where
  directives : List Directive
  pattern : Option Pattern
deriving Repr, DecidableEq

namespace Filter

/-! ### Reading filters -/

/-- An ASCII letter as a small letter. -/
def lower (c : Char) : Char := c.toLower

/-- The level with a name, in letters of any size; the name `off` stands for no level. -/
def level? (cs : List Char) : Option (Option Level) :=
  match String.ofList (cs.map lower) with
  | "off" => some none
  | "error" => some (some .error)
  | "warn" => some (some .warn)
  | "info" => some (some .info)
  | "debug" => some (some .debug)
  | "trace" => some (some .trace)
  | _ => none

/-- The rule written between two commas; blanks around it are dropped already. -/
def directive? (cs : List Char) : Option Directive :=
  match cs.splitOn '=' with
  | [single] =>
    match level? single with
    | some level => some ⟨none, level⟩
    | none => if single = [] then none else some ⟨some (String.ofList single), some .trace⟩
  | [target, level] =>
    if trim level = [] then some ⟨some (String.ofList target), some .trace⟩
    else (level? (trim level)).map fun level => ⟨some (String.ofList target), level⟩
  | _ => none

/-- Replace the rule with the same target, or add the rule behind the others. -/
def insert (directives : List Directive) (d : Directive) : List Directive :=
  if directives.any (·.target == d.target) then
    directives.map fun e => if e.target = d.target then d else e
  else directives ++ [d]

/-- The filter without rules. -/
def empty : Filter := ⟨[], none⟩

/-- Read the rules of a filter text on top of those there are, and its pattern in place of the one
    there is.  Rules and patterns that cannot be read are left out, and so is all of a text with
    more than one slash. -/
def parse (f : Filter) (spec : String) : Filter :=
  let rules (cs : List Char) :=
    ((cs.splitOn ',').filterMap fun rule => directive? (trim rule)).foldl insert f.directives
  match spec.toList.splitOn '/' with
  | [cs] => ⟨rules cs, none⟩
  | [cs, pattern] => ⟨rules cs, Pattern.read? pattern⟩
  | _ => ⟨f.directives, none⟩

/-! ### Applying filters -/

/-- The rule that decides about a target: of the rules that cover it the most specific one, and
    of several such the last. -/
def deciding? (f : Filter) (target : String) : Option Directive :=
  f.directives.foldl
    (fun best d =>
      if d.covers target && best.all (·.specificity ≤ d.specificity) then some d else best)
    none

/-- Does a record pass the rules?  Without rules only errors do. -/
def permits (f : Filter) (r : Record) : Bool :=
  match f.directives with
  | [] => r.level == .error
  | _ => (f.deciding? r.target).any (·.permits r.level)

/-- Is a record shown? -/
def allows (f : Filter) (r : Record) : Bool :=
  f.permits r && f.pattern.all (·.occursIn r.message.toList)

/-- Is a record shown under some filter texts, each read on top of those in front of it? -/
def shows (texts : List String) (r : Record) : Bool :=
  (texts.foldl parse empty).allows r

end Filter
end Log
end RobotScript
