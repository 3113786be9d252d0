/-
**Aggregate functions: folding the objects of a match into one value.**

A function has a starting state, a step that takes an object in, possibly a step that takes an
object back, and a result. The state is an ordinary value, and a step that fails leaves it as it
was.

* `accumulate`, `reverse`, `result`: the three uses, traced as calls;
* `ofSteps`: a function given by its steps;
* `run`: the result over a list of objects.
-/

import RuleNet.Callback.Traced
import RuleNet.Text.Quoted

namespace RuleNet

/-- A function that folds objects. -/
structure Aggregate where
  key : String
  init : Value
  /-- The state after an object was taken in. -/
  step : Value → Value → Outcome Value
  /-- The state after an object was taken back, for functions that can. -/
  undo : Option (Value → Value → Outcome Value)
  finish : Value → Outcome Value

namespace Aggregate

/-- The two are one function for sharing. -/
def same (a b : Aggregate) : Bool :=
  a.key = b.key

def supportsReverse (function : Aggregate) : Bool :=
  function.undo.isSome

/-- Takes an object in. -/
def accumulate (function : Aggregate) (state input : Value) : Traced Value :=
  Traced.ofCall ⟨.aggregate, function.key, [state, input]⟩ (function.step state input)

/-- Takes an object back, if the function can. -/
def reverse (function : Aggregate) (state input : Value) : Traced Value :=
  match function.undo with
  | some undo => Traced.ofCall ⟨.aggregate, function.key, [state, input]⟩ (undo state input)
  | none => Traced.ofOutcome (Unsupported.reversal function.key).fail

def result (function : Aggregate) (state : Value) : Traced Value :=
  Traced.ofCall ⟨.aggregate, function.key, [state]⟩ (function.finish state)

/-- **The result over a list of objects**, taken in one after the other. -/
def run (function : Aggregate) (inputs : List Value) : Traced Value := do
  let state ← Traced.fold function.accumulate function.init inputs
  function.result state

def text (function : Aggregate) : String :=
  "<accumulate " ++ function.key ++ ">"

end Aggregate

/-- An aggregate function together with the variable that its result is bound to. -/
structure Binding where
  function : Aggregate
  result : Variable

namespace Binding

def same (a b : Binding) : Bool :=
  a.function.same b.function && a.result.same b.result

def text (binding : Binding) : String :=
  Text.record "AccumulateBinding"
    [("function", binding.function.text), ("result", binding.result.text)]

end Binding

end RuleNet
