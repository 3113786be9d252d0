/-
**Constraints: conjunctions of predicates over variables.**

A constraint is a tree of conjunctions whose leaves apply a predicate to named variables. Only its
leaves, read depth first, matter for matching (`singles`); the grouping is kept for display.

* `singles`: the leaves in order;
* `and`: adds one more conjunct.
-/

import RuleNet.Callback.Predicate
import RuleNet.Text.Quoted

namespace RuleNet

/-- A predicate applied to variables. -/
structure SingleConstraint where
  predicate : Predicate
  /-- In the order of the arguments. -/
  reads : List Variable

namespace SingleConstraint

/-- It reads no variable. -/
def isConstant (single : SingleConstraint) : Bool :=
  single.reads.isEmpty

def same (a b : SingleConstraint) : Bool :=
  a.predicate.same b.predicate && a.reads.map Variable.id = b.reads.map Variable.id

def text (single : SingleConstraint) : String :=
  Text.record "SingleConstraint"
    [("predicate", single.predicate.text),
      ("variables", Text.bracketed (single.reads.map Variable.text))]

end SingleConstraint

/-- A conjunction of predicates over variables. -/
inductive Constraint where
  | single (single : SingleConstraint)
  | all (parts : List Constraint)

namespace Constraint

/-- The constraint that always holds. -/
def none : Constraint :=
  all []

/-- The conjunction with one more constraint, put last. -/
def and (constraint other : Constraint) : Constraint :=
  match constraint with
  | all parts => all (parts ++ [other])
  | single leaf => all [single leaf, other]

mutual

/-- **The leaves of the tree**, depth first. -/
def singles : Constraint → List SingleConstraint
  | single leaf => [leaf]
  | all parts => singlesOf parts
termination_by structural constraint => constraint

def singlesOf : List Constraint → List SingleConstraint
  | [] => []
  | part :: rest => singles part ++ singlesOf rest
termination_by structural parts => parts

end

mutual

/-- Equal trees, with predicates compared by key and variables by number. -/
def same : Constraint → Constraint → Bool
  | single a, single b => a.same b
  | all a, all b => sameParts a b
  | _, _ => false
termination_by structural constraint => constraint

def sameParts : List Constraint → List Constraint → Bool
  | [], [] => true
  | a :: rest, b :: others => same a b && sameParts rest others
  | _, _ => false
termination_by structural parts => parts

end

mutual

/-- The listing of the tree. -/
def text : Constraint → String
  | single leaf => "Single(" ++ leaf.text ++ ")"
  | all parts => "And(" ++ Text.bracketed (textParts parts) ++ ")"
termination_by structural constraint => constraint

def textParts : List Constraint → List String
  | [] => []
  | part :: rest => text part :: textParts rest
termination_by structural parts => parts

end

end Constraint

end RuleNet
