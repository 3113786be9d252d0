/-
**Nodes: the operators of the network.**

A node has at most two parents. Its object parent feeds it single objects and its tuple parent
feeds it partial matches. What the node does with them is its kind.

* `BoundConstraint.evaluate`: a predicate whose arguments are read from a tuple and an object;
* `NodeKind`: the eleven kinds, with their parameters;
* `Node.equivalent`: two nodes can stand in for each other when they have the same parents and
  kinds that agree in every sharing key (`NodeKind.sharesWith`). Terminals never do.
-/

import RuleNet.Condition.View

namespace RuleNet

/-! ### Bound constraints -/

/-- The value in a slot, if the slot exists. -/
def Slot.read (tuple : List Value) (object : Option Value) : Slot → Option Value
  | .tuple offset => tuple[offset]?
  | .object => object

/-- A predicate whose arguments have known places. -/
structure BoundConstraint where
  predicate : Predicate
  slots : List Slot

namespace BoundConstraint

def same (a b : BoundConstraint) : Bool :=
  a.predicate.same b.predicate && a.slots = b.slots

/-- The arguments, read from left to right. -/
def arguments (constraint : BoundConstraint) (tuple : List Value) (object : Option Value) :
    Outcome (List Value) :=
  constraint.slots.mapM fun slot =>
    match slot.read tuple object with
    | some value => .ok value
    | none => (Structural.argumentOutside constraint.predicate.key slot tuple.length).fail

/-- **Tests the arguments read from a tuple and an object.** -/
def evaluate (constraint : BoundConstraint) (tuple : List Value) (object : Option Value) :
    Traced Bool := do
  let args ← Traced.ofOutcome (constraint.arguments tuple object)
  constraint.predicate.test args

/-- All constraints hold. Nothing is tested after the first that does not. -/
def allHold (constraints : List BoundConstraint) (tuple : List Value) (object : Option Value) :
    Traced Bool :=
  Traced.all (fun constraint => constraint.evaluate tuple object) constraints

/-- Two lists of constraints agree in every key and slot. -/
def sameAll : List BoundConstraint → List BoundConstraint → Bool
  | [], [] => true
  | a :: rest, b :: others => a.same b && sameAll rest others
  | _, _ => false

end BoundConstraint

/-- An aggregate function and the place of its result in the tuple. -/
structure PlacedAggregate where
  function : Aggregate
  offset : Nat

namespace PlacedAggregate

def same (a b : PlacedAggregate) : Bool :=
  a.function.same b.function && a.offset = b.offset

def sameAll : List PlacedAggregate → List PlacedAggregate → Bool
  | [], [] => true
  | a :: rest, b :: others => a.same b && sameAll rest others
  | _, _ => false

end PlacedAggregate

/-! ### Kinds -/

/-- The end of a rule: what fires for every tuple that arrives. -/
structure Terminal where
  rule : String
  salience : Int
  consequence : Consequence
  /-- The places of the consequence's arguments in the tuple. -/
  bindings : List Nat

/-- What a node does. -/
inductive NodeKind where
  /-- All objects of an entry point. -/
  | entryPoint (name : String)
  /-- The objects of a stream that a type accepts. -/
  | stream (name : String) (type : ObjectType)
  /-- The objects that a type accepts. -/
  | objectType (type : ObjectType)
  /-- The objects that pass a test, given to it `arity` times. -/
  | alpha (predicate : Predicate) (arity : Nat)
  /-- Each object as a tuple of its own. -/
  | adapter
  /-- Each tuple with each object that meets the constraints. -/
  | join (constraints : List BoundConstraint)
  /-- Each tuple for which an object meets the constraints, or none does. -/
  | existential (quantifier : Quantifier) (constraints : List BoundConstraint)
  /-- Each tuple with the folds of the objects that meet the source constraints, provided the
  result meets the result constraints. -/
  | accumulate (source results : List BoundConstraint) (functions : List PlacedAggregate)
  /-- Each tuple with each value that a function derives from it and that meets the constraints. -/
  | invoker (invocation : Invocation) (args : List Nat) (constraints : List BoundConstraint)
  | terminal (terminal : Terminal)

namespace NodeKind

def sort : NodeKind → NodeSort
  | entryPoint _ => .entryPoint
  | stream _ _ => .stream
  | objectType _ => .objectType
  | alpha _ _ => .alpha
  | adapter => .leftInputAdapter
  | join _ => .join
  | existential .present _ => .present
  | existential .absent _ => .absent
  | accumulate _ _ _ => .accumulate
  | invoker _ _ _ => .invoker
  | terminal _ => .terminal

/-- A node without parents. -/
def isRoot : NodeKind → Bool
  | entryPoint _ | stream _ _ => true
  | _ => false

/-- A node whose objects have a known type. -/
def isObjectTypeRoot : NodeKind → Bool
  | objectType _ | stream _ _ => true
  | _ => false

/-- A node that extends tuples. -/
def isBeta : NodeKind → Bool
  | join _ | existential _ _ | accumulate _ _ _ | invoker _ _ _ => true
  | _ => false

def isTerminal : NodeKind → Bool
  | terminal _ => true
  | _ => false

/-- **The kinds agree in every sharing key.** -/
def sharesWith : NodeKind → NodeKind → Bool
  | entryPoint a, entryPoint b => a = b
  | stream a s, stream b t => a = b && s = t
  | objectType a, objectType b => a = b
  | alpha p m, alpha q n => p.same q && m = n
  | adapter, adapter => true
  | join a, join b => BoundConstraint.sameAll a b
  | existential q a, existential r b => q = r && BoundConstraint.sameAll a b
  | accumulate s r f, accumulate t u g =>
    BoundConstraint.sameAll s t && BoundConstraint.sameAll r u && PlacedAggregate.sameAll f g
  | invoker i m a, invoker j n b => i.same j && m = n && BoundConstraint.sameAll a b
  | _, _ => false

end NodeKind

/-! ### Nodes -/

/-- An operator of the network and its links. -/
structure Node where
  id : NodeId
  kind : NodeKind
  objectParent : Option NodeId
  tupleParent : Option NodeId
  /-- The nodes that name this one as a parent, oldest first. -/
  children : List NodeId

namespace Node

/-- The parents, the tuple parent first. -/
def parents (node : Node) : List NodeId :=
  node.tupleParent.toList ++ node.objectParent.toList

/-- **The nodes can stand in for each other.** -/
def equivalent (a b : Node) : Bool :=
  a.objectParent = b.objectParent && a.tupleParent = b.tupleParent && a.kind.sharesWith b.kind

/-- The node with a further child. -/
def adopt (node : Node) (child : NodeId) : Node :=
  if child ∈ node.children then node else { node with children := node.children ++ [child] }

/-- The node without a child. -/
def disown (node : Node) (child : NodeId) : Node :=
  { node with children := node.children.filter (· ≠ child) }

@[simp] theorem id_adopt (node : Node) (child : NodeId) : (node.adopt child).id = node.id := by
  unfold adopt; split <;> rfl

@[simp] theorem kind_adopt (node : Node) (child : NodeId) :
    (node.adopt child).kind = node.kind := by
  unfold adopt; split <;> rfl

@[simp] theorem parents_adopt (node : Node) (child : NodeId) :
    (node.adopt child).parents = node.parents := by
  unfold adopt; split <;> rfl

/-- **Losing a child that was just gained restores the node.** -/
theorem disown_adopt {node : Node} {child : NodeId} (fresh : child ∉ node.children) :
    (node.adopt child).disown child = node := by
  obtain ⟨id, kind, objectParent, tupleParent, children⟩ := node
  have absent : ∀ other ∈ children, other ≠ child := fun other member equal =>
    fresh (equal ▸ member)
  simp only at fresh
  simp only [adopt, disown, fresh, if_false, List.filter_append]
  simpa using absent

end Node

end RuleNet
