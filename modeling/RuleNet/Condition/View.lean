/-
**Views and rules.**

The view of a rule is a tree of conditions over patterns. Conjunctions are matched from left to
right; disjunctions and object paths can be written down and are not compiled. A rule adds a name,
a salience and the consequence that is run for every match.

* `Condition.patterns`: the patterns of a view, depth first;
* `Consequence.run`: the action over the values of its bindings.
-/

import RuleNet.Condition.Pattern

namespace RuleNet

/-- Navigation from a bound object through fields. -/
structure ObjectPath where
  root : Variable
  path : List String
  target : Variable

/-- A rule's view. -/
inductive Condition where
  | pattern (pattern : Pattern)
  /-- All parts hold, matched in order. -/
  | and (parts : List Condition)
  | or (parts : List Condition)
  | objectPath (path : ObjectPath)

namespace Condition

/-- The name shown in frames. -/
def text : Condition → String
  | pattern leaf => leaf.use.text
  | and _ => "and"
  | or _ => "or"
  | objectPath _ => "object-path"

mutual

/-- The patterns of a view, depth first. -/
def patterns : Condition → List Pattern
  | pattern leaf => [leaf]
  | and parts | or parts => patternsOf parts
  | objectPath _ => []
termination_by structural condition => condition

def patternsOf : List Condition → List Pattern
  | [] => []
  | part :: rest => patterns part ++ patternsOf rest
termination_by structural parts => parts

end

end Condition

/-- What is done for every match of a rule. -/
structure Consequence where
  /-- The variables whose values the action takes, in order. -/
  bindings : List Variable
  action : List Value → Outcome Unit

namespace Consequence

def run (consequence : Consequence) (args : List Value) : Outcome Unit :=
  consequence.action args

/-- The listing of a consequence. Its action cannot be shown. -/
def text (consequence : Consequence) : String :=
  "Consequence \x7b bindings: " ++ Text.bracketed (consequence.bindings.map Variable.text)
    ++ ", .. \x7d"

end Consequence

/-- A rule. Among matches of different rules, those of larger salience fire first. -/
structure Rule where
  name : String
  salience : Int
  view : Condition
  consequence : Consequence

end RuleNet
