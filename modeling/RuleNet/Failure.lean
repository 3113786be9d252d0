/-
**Failures: what went wrong, and where.**

A `Fault` is a cause. Causes fall into seven kinds (`Fault.kind`), and each has one wording
(`Fault.message`). A `Failure` is a fault with the place it was met: the rule, and the path of
frames from the rule's view to the condition at fault.

* `Unsupported`, `Structural`, `Limit`: the causes of three kinds, one constructor each;
* `Outcome`: the result of everything that can fail;
* `Failure.located`: the later place replaces the earlier one.
-/

import RuleNet.Network.Identity
import RuleNet.Variable

namespace RuleNet

/-- The kinds of faults. -/
inductive FaultKind where
  | unsupported
  | structural
  | evaluator
  | typeMismatch
  | unknownSource
  | limit
  | internal
deriving DecidableEq, Repr

/-- The name of a kind, for those who tell faults apart without reading messages. -/
def FaultKind.name : FaultKind → String
  | unsupported => "UnsupportedConstruct"
  | structural => "StructuralViolation"
  | evaluator => "EvaluatorFailure"
  | typeMismatch => "TypeMismatch"
  | unknownSource => "UnknownEntryPoint"
  | limit => "LimitExceeded"
  | internal => "Internal"

/-- A construct that rules may contain and the compiler does not take. -/
inductive Unsupported where
  | disjunction
  | objectPath (root : Variable)
  /-- A stream that carries one type is read as another. -/
  | streamType (stream : String) (carried read : ObjectType)
  /-- An aggregate function that cannot take a value back. -/
  | reversal (key : String)
  | stated (what : String)
deriving DecidableEq, Repr

/-- A network, build state or tuple that does not have the shape an operation needs. -/
inductive Structural where
  | missingParent (sort : NodeSort) (node parent : NodeId)
  | noObjectCursor (reader : String)
  | noTupleCursor (reader : String)
  | cursorsLeft (object tuple : Option NodeId)
  /-- A reader names a variable that nothing has bound. -/
  | unbound (reader : String) (name : Variable)
  | notStreamRoot (stream : String) (root : NodeId)
  | noObjectTypeAbove (object : NodeId)
  | argumentOutside (key : String) (slot : Slot) (width : Nat)
  | notInNetwork (node : NodeId)
  | noObjects (sort : NodeSort) (node : NodeId)
  | noTuples (sort : NodeSort) (node : NodeId)
  | noObjectParent (sort : NodeSort) (node : NodeId)
  | noTupleParent (sort : NodeSort) (node : NodeId)
  | parameterOutside (key : String) (offset width : Nat)
  | bindingOutside (offset width : Nat)
  | stated (what : String)
deriving DecidableEq, Repr

/-- A bound that was reached. -/
inductive Limit where
  | activations (bound : Nat) (rule : Option String)
  | nodes (bound : Nat)
deriving DecidableEq, Repr

/-- The cause of a failure. -/
inductive Fault where
  | unsupported (what : Unsupported)
  | structural (what : Structural)
  /-- A predicate, function or field access failed. -/
  | evaluator (name message : String)
  | typeMismatch (expected actual : ObjectType)
  | unknownSource (name : String)
  | limit (which : Limit)
  | internal (message : String)
deriving DecidableEq, Repr

/-! ### Wording -/

def Unsupported.text : Unsupported → String
  | disjunction => "disjunction (or)"
  | objectPath root => "object path from " ++ root.text
  | streamType stream carried read =>
    "stream " ++ stream ++ " carries " ++ carried.text ++ ", cannot read it as " ++ read.text
  | reversal key => "reverse of accumulate function " ++ key
  | stated what => what

def Structural.text : Structural → String
  | missingParent sort node parent =>
    sort.text ++ " node " ++ node.text ++ " attached to missing parent " ++ parent.text
  | noObjectCursor reader => reader ++ " needs an object cursor"
  | noTupleCursor reader => reader ++ " needs a tuple cursor"
  | cursorsLeft object tuple =>
    "pattern left object cursor " ++ optionalIdText object ++ " and tuple cursor "
      ++ optionalIdText tuple
  | unbound reader name => reader ++ " reads unbound variable " ++ name.text
  | notStreamRoot stream root =>
    "stream " ++ stream ++ " is registered at " ++ root.text ++ ", which is not a stream root"
  | noObjectTypeAbove object =>
    "object chain from " ++ object.text ++ " never reaches an object-type node"
  | argumentOutside key slot width =>
    "constraint " ++ key ++ " reads " ++ slot.text ++ " outside a tuple of length "
      ++ toString width
  | notInNetwork node => "node " ++ node.text ++ " is not in the network"
  | noObjects sort node => sort.text ++ " node " ++ node.text ++ " does not produce objects"
  | noTuples sort node => sort.text ++ " node " ++ node.text ++ " does not produce tuples"
  | noObjectParent sort node => sort.text ++ " node " ++ node.text ++ " has no object parent"
  | noTupleParent .terminal node => "terminal " ++ node.text ++ " has no tuple parent"
  | noTupleParent sort node => sort.text ++ " node " ++ node.text ++ " has no tuple parent"
  | parameterOutside key offset width =>
    "invocation " ++ key ++ " reads offset " ++ toString offset ++ " of a " ++ toString width
      ++ "-tuple"
  | bindingOutside offset width =>
    "binding offset " ++ toString offset ++ " is outside a " ++ toString width ++ "-tuple"
  | stated what => what

def Limit.text : Limit → String
  | activations bound none => "max activations (" ++ toString bound ++ ") exceeded"
  | activations bound (some rule) =>
    "max activations (" ++ toString bound ++ ") exceeded: " ++ rule
  | nodes bound => "max nodes (" ++ toString bound ++ ") exceeded"

namespace Fault

/-- The kind of a cause. -/
def kind : Fault → FaultKind
  | unsupported _ => .unsupported
  | structural _ => .structural
  | evaluator _ _ => .evaluator
  | typeMismatch _ _ => .typeMismatch
  | unknownSource _ => .unknownSource
  | limit _ => .limit
  | internal _ => .internal

/-- **The wording of a cause.** -/
def message : Fault → String
  | unsupported what => "unsupported construct: " ++ what.text
  | structural what => "structural violation: " ++ what.text
  | evaluator name message => "evaluator " ++ name ++ " failed: " ++ message
  | typeMismatch expected actual =>
    "type mismatch: expected " ++ expected.text ++ ", got " ++ actual.text
  | unknownSource name => "unknown entry point: " ++ name
  | limit which => "limit exceeded: " ++ which.text
  | internal message => "internal error: " ++ message

end Fault

/-! ### Places -/

/-- Where a failure was met. -/
structure Place where
  rule : Option String
  frames : List String
deriving DecidableEq, Repr

namespace Place

/-- Somewhere in a rule. -/
def inRule (name : String) : Place :=
  ⟨some name, []⟩

/-- The text of a place: the rule, then one line for each frame. -/
def text (place : Place) : String :=
  let rule := match place.rule with
    | some name => "in rule " ++ name
    | none => ""
  let frames := place.frames.map fun frame => "  at " ++ frame ++ "\n"
  if place.frames.isEmpty then rule else rule ++ "\n" ++ String.join frames

end Place

/-- A fault and, once it is known, its place. -/
structure Failure where
  fault : Fault
  place : Option Place
deriving DecidableEq, Repr

/-- The result of an operation that can fail. -/
abbrev Outcome (α : Type) := Except Failure α

namespace Failure

/-- The failure with its place. A place given later replaces one given before. -/
def located (failure : Failure) (place : Place) : Failure :=
  { failure with place := some place }

def message (failure : Failure) : String :=
  failure.fault.message

def kind (failure : Failure) : FaultKind :=
  failure.fault.kind

end Failure

/-- A fault whose place is not known yet. -/
def Fault.fail {α : Type} (fault : Fault) : Outcome α :=
  .error ⟨fault, none⟩

def Unsupported.fail {α : Type} (what : Unsupported) : Outcome α :=
  (Fault.unsupported what).fail

def Structural.fail {α : Type} (what : Structural) : Outcome α :=
  (Fault.structural what).fail

end RuleNet
