/-
**What each kind of node does with its input.**

Object nodes turn objects into objects, and tuple nodes turn the tokens of their tuple parent,
with the objects of their object parent where they have one, into tokens. Every operator goes
through the tokens in order, and for each token through the objects in order.

* `narrow`, `alphaObjects`: object nodes;
* `joinTokens`, `existentialTokens`, `accumulateTokens`, `invokerTokens`: tuple nodes.
-/

import RuleNet.Match.Token
import RuleNet.Network.Node

namespace RuleNet

namespace Operator

/-- The objects that a type accepts. -/
def narrow (type : ObjectType) (objects : List Held) : List Held :=
  objects.filter fun held => type.accepts held.value.objectType

/-- The objects that pass a test of `arity` times their value. -/
def alphaObjects (predicate : Predicate) (arity : Nat) (objects : List Held) :
    Traced (List Held) :=
  Traced.select (fun held => predicate.test (List.replicate arity held.value)) objects

/-- The object meets the constraints together with the token. -/
def meets (constraints : List BoundConstraint) (token : Token) (value : Value) : Traced Bool :=
  BoundConstraint.allHold constraints token.values (some value)

/-- **Each token with each object that meets the constraints.** -/
def joinTokens (constraints : List BoundConstraint) (tokens : List Token) (objects : List Held) :
    Traced (List Token) :=
  Traced.expand (fun token => do
    let matching ← Traced.select (fun held => meets constraints token held.value) objects
    pure (matching.map fun held => token.extend held.value (some held.handle))) tokens

/-- **Each token for which some object meets the constraints, or none does.** It is widened by nil,
so that later conditions keep their places. -/
def existentialTokens (quantifier : Quantifier) (constraints : List BoundConstraint)
    (tokens : List Token) (objects : List Held) : Traced (List Token) :=
  Traced.expand (fun token => do
    let found ← Traced.any (fun held => meets constraints token held.value) objects
    let passes := match quantifier with
      | .present => found
      | .absent => !found
    pure (if passes then [token.extend .nil none] else [])) tokens

/-- **Each token with the results of the functions over the objects that meet the source
constraints**, provided the widened token meets the result constraints. -/
def accumulateTokens (source results : List BoundConstraint) (functions : List PlacedAggregate)
    (tokens : List Token) (objects : List Held) : Traced (List Token) :=
  Traced.expand (fun token => do
    let matching ← Traced.select (fun held => meets source token held.value) objects
    let folded ← Traced.each (fun placed => placed.function.run (matching.map Held.value)) functions
    let widened : Token := { token with values := token.values ++ folded }
    let passes ← BoundConstraint.allHold results widened.values none
    pure (if passes then [widened] else [])) tokens

/-- The arguments of an invocation, read from a token. -/
def invocationArguments (invocation : Invocation) (args : List Nat) (token : Token) :
    Outcome (List Value) :=
  args.mapM fun offset =>
    match token.values[offset]? with
    | some value => .ok value
    | none => (Structural.parameterOutside invocation.key offset token.width).fail

/-- The values that an invocation's result stands for. -/
def candidates (invocation : Invocation) (result : Value) : Outcome (List Value) :=
  if invocation.iterable then
    match result with
    | .vec items => .ok items
    | .nil => .ok []
    | other => (Fault.typeMismatch .vec other.objectType).fail
  else .ok [result]

/-- **Each token with each value that the function derives from it and that meets the
constraints.** -/
def invokerTokens (invocation : Invocation) (args : List Nat) (constraints : List BoundConstraint)
    (tokens : List Token) : Traced (List Token) :=
  Traced.expand (fun token => do
    let params ← Traced.ofOutcome (invocationArguments invocation args token)
    let result ← invocation.call params
    let values ← Traced.ofOutcome (candidates invocation result)
    let matching ← Traced.select (fun value => meets constraints token value) values
    pure (matching.map fun value => token.extend value none)) tokens

end Operator

end RuleNet
