/-
**Patterns: the leaves of a rule's view.**

A pattern reads objects of its variable's type from one source, keeps those that meet its
constraint, and then binds its variable to each of them, or only asks whether there is one, or
folds them, or derives its value by a call instead of reading a source.

* `Source`: where objects come from;
* `PatternUse`: what is done with the objects;
* `Pattern.needsTuple`: all uses but the plain one extend a match that must already exist.
-/

import RuleNet.Condition.Constraint
import RuleNet.Fold.Aggregate

namespace RuleNet

/-- The entry point that is read when nothing else is said. -/
def defaultEntryPoint : String :=
  "DEFAULT"

/-- Where objects come from. An entry point and a stream of one name are different sources. -/
inductive Source where
  /-- Facts are inserted here. -/
  | entryPoint (name : String)
  /-- Values are emitted here. -/
  | stream (name : String)
deriving DecidableEq, Repr

namespace Source

instance : Inhabited Source := ⟨entryPoint defaultEntryPoint⟩

def name : Source → String
  | entryPoint name => name
  | stream name => name

def isStream : Source → Bool
  | entryPoint _ => false
  | stream _ => true

def text : Source → String
  | entryPoint name => "entry-point " ++ name
  | stream name => "stream " ++ name

end Source

/-- Which answer an existential pattern asks for. -/
inductive Quantifier where
  /-- Some object matches. -/
  | present
  /-- No object matches. -/
  | absent
deriving DecidableEq, Repr

def Quantifier.text : Quantifier → String
  | present => "exists"
  | absent => "not"

/-- What a pattern does with the objects it filters. -/
inductive PatternUse where
  /-- Bind the variable to each object. -/
  | plain
  /-- Ask for presence or absence. -/
  | existential (quantifier : Quantifier)
  /-- Bind each result variable to the fold of all objects. -/
  | accumulate (bindings : List Binding)
  /-- Bind the variable to what a function returns. -/
  | invoke (invocation : Invocation)

namespace PatternUse

/-- The name shown in frames. -/
def text : PatternUse → String
  | plain => "pattern"
  | existential quantifier => quantifier.text
  | accumulate _ => "accumulate"
  | invoke _ => "invoke"

end PatternUse

/-- A leaf of a view. -/
structure Pattern where
  subject : Variable
  source : Source
  constraint : Constraint
  use : PatternUse

namespace Pattern

/-- A pattern over the default entry point, without constraints. -/
def of (subject : Variable) (use : PatternUse) : Pattern :=
  ⟨subject, .entryPoint defaultEntryPoint, .none, use⟩

def reading (pattern : Pattern) (source : Source) : Pattern :=
  { pattern with source := source }

/-- Adds a constraint. -/
def constrained (pattern : Pattern) (constraint : Constraint) : Pattern :=
  { pattern with constraint := pattern.constraint.and constraint }

/-- Adds a test of the pattern's own object. -/
def testing (pattern : Pattern) (key : String) (body : List Value → Outcome Bool) : Pattern :=
  pattern.constrained (.single ⟨.fixed key 1 body, [pattern.subject]⟩)

/-- Adds a test of the pattern's own object with the object of another variable. -/
def joining (pattern : Pattern) (key : String) (other : Variable)
    (body : List Value → Outcome Bool) : Pattern :=
  pattern.constrained (.single ⟨.fixed key 2 body, [pattern.subject, other]⟩)

/-- **The pattern extends an existing match** and cannot start one. -/
def needsTuple (pattern : Pattern) : Bool :=
  match pattern.use with
  | .plain => false
  | _ => true

/-- The frame of the pattern in a failure's place. -/
def frame (pattern : Pattern) (index : Nat) : String :=
  pattern.use.text ++ " #" ++ toString index ++ " ?" ++ pattern.subject.name

end Pattern

end RuleNet
