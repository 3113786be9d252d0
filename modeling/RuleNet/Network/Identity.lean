/-
**Names inside the network: node ids, kinds of nodes, and argument slots.**

* `NodeId`: the number of a node;
* `NodeSort`: the eleven kinds of nodes, by name alone, which `NodeSort.named?` reads back;
* `Slot`: where a constraint's argument is read.
-/

namespace RuleNet

/-- The number of a node. -/
structure NodeId where
  index : Nat
deriving DecidableEq, Repr, Inhabited

def NodeId.text (id : NodeId) : String :=
  "#" ++ toString id.index

/-- The kinds of nodes. -/
inductive NodeSort where
  | entryPoint
  | stream
  | objectType
  | alpha
  | leftInputAdapter
  | join
  /-- Passes a tuple on when an object matches it. -/
  | present
  /-- Passes a tuple on when no object matches it. -/
  | absent
  | accumulate
  | invoker
  | terminal
deriving DecidableEq, Repr

def NodeSort.text : NodeSort → String
  | entryPoint => "entry-point"
  | stream => "stream"
  | objectType => "object-type"
  | alpha => "alpha"
  | leftInputAdapter => "left-input-adapter"
  | join => "join"
  | present => "exists"
  | absent => "not"
  | accumulate => "accumulate"
  | invoker => "invoker"
  | terminal => "terminal"

/-- All kinds. -/
def NodeSort.all : List NodeSort :=
  [entryPoint, stream, objectType, alpha, leftInputAdapter, join, present, absent, accumulate,
    invoker, terminal]

/-- The kind with a name. -/
def NodeSort.named? (name : String) : Option NodeSort :=
  all.find? (·.text = name)

/-- Where an argument is read: a place of the tuple matched so far, or the object under test. -/
inductive Slot where
  | tuple (offset : Nat)
  | object
deriving DecidableEq, Repr

def Slot.text : Slot → String
  | tuple offset => "Tuple(" ++ toString offset ++ ")"
  | object => "Object"

/-- The text of an id that may be missing. -/
def optionalIdText : Option NodeId → String
  | some id => "Some(" ++ id.text ++ ")"
  | none => "None"

end RuleNet
