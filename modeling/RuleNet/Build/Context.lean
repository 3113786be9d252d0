/-
**The build context: what is known half way through a rule.**

While a rule's view is compiled from left to right, the context holds where the next node goes and
which place of the tuple each variable has. Between patterns at most one of the two cursors is
set, and after a pattern exactly the tuple cursor.

* `bind`, `reserve`: a variable, or nothing, takes the next place of the tuple;
* `offset?`: the first place that a variable took;
* `place`: where in the rule the context stands, for failures.
-/

import RuleNet.Failure

namespace RuleNet

/-- The state of a rule's compilation. -/
structure BuildContext where
  rule : String
  /-- The node whose objects the next node reads. -/
  objectCursor : Option NodeId
  /-- The node whose tokens the next node reads. -/
  tupleCursor : Option NodeId
  /-- The entry point that was read last. -/
  entryPoint : Option NodeId
  /-- The node whose object type the last adapter inherits. -/
  rootObjectType : Option NodeId
  /-- The number of places taken in the tuple. -/
  width : Nat
  /-- The variables with their places, in the order they were bound. -/
  bound : List (Variable × Nat)
  /-- The number of patterns met. -/
  patterns : Nat
  /-- The path from the rule's view to the condition at hand. -/
  frames : List String
deriving DecidableEq, Repr

namespace BuildContext

def new (rule : String) : BuildContext :=
  ⟨rule, none, none, none, none, 0, [], 0, []⟩

/-! ### Cursors -/

def setObjectCursor (context : BuildContext) (node : NodeId) : BuildContext :=
  { context with objectCursor := some node }

/-- The tuple cursor moves onto a node, and the object cursor is used up. -/
def absorb (context : BuildContext) (node : NodeId) : BuildContext :=
  { context with objectCursor := none, tupleCursor := some node }

def requireObjectCursor (context : BuildContext) (reader : String) : Outcome NodeId :=
  match context.objectCursor with
  | some node => .ok node
  | none => (Structural.noObjectCursor reader).fail

def requireTupleCursor (context : BuildContext) (reader : String) : Outcome NodeId :=
  match context.tupleCursor with
  | some node => .ok node
  | none => (Structural.noTupleCursor reader).fail

/-- **A pattern is complete** when its tuple cursor is set and its objects are used up. -/
def checkComplete (context : BuildContext) : Outcome Unit :=
  match context.objectCursor, context.tupleCursor with
  | none, some _ => .ok ()
  | object, tuple => (Structural.cursorsLeft object tuple).fail

/-! ### Places of the tuple -/

/-- The next place is taken by nothing that has a name. -/
def reserve (context : BuildContext) : BuildContext :=
  { context with width := context.width + 1 }

/-- The next place is taken by a variable. -/
def bind (context : BuildContext) (v : Variable) : BuildContext :=
  { context with width := context.width + 1, bound := context.bound ++ [(v, context.width)] }

/-- The first place that a variable took. -/
def offset? (context : BuildContext) (v : Variable) : Option Nat :=
  (context.bound.find? fun entry => entry.1.same v).map Prod.snd

/-- The place of a variable that something reads. -/
def requireOffset (context : BuildContext) (v : Variable) (reader : String) : Outcome Nat :=
  match context.offset? v with
  | some offset => .ok offset
  | none => (Structural.unbound reader v).fail

/-- The place that was taken last. -/
def lastOffset? (context : BuildContext) : Option Nat :=
  if context.width = 0 then none else some (context.width - 1)

/-! ### Place in the rule -/

def pushFrame (context : BuildContext) (frame : String) : BuildContext :=
  { context with frames := context.frames ++ [frame] }

def popFrame (context : BuildContext) : BuildContext :=
  { context with frames := context.frames.dropLast }

/-- Counts one more pattern. -/
def nextPattern (context : BuildContext) : BuildContext :=
  { context with patterns := context.patterns + 1 }

def place (context : BuildContext) : Place :=
  ⟨some context.rule, context.frames⟩

end BuildContext

end RuleNet
