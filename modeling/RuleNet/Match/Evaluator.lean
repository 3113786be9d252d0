/-
**The evaluator: what a node of the network produces from working memory.**

To evaluate a node, its parents are evaluated first, and the node's operator is applied to what
they produce. The parents of a node stand behind it in the arena, so evaluation follows the list of
nodes and always ends. What a node produced is remembered, and the node is not evaluated again;
what was remembered is kept when a later evaluation fails.

* `Evaluation`: a computation that remembers and that lists the callbacks it ran, by node;
* `objectsAt`, `tokensAt`: the objects or tokens of a node.
-/

import RuleNet.Match.Operator
import RuleNet.Network.Arena

namespace RuleNet

/-- What an evaluator knows, and what it has done. -/
structure EvaluatorState where
  objects : List (NodeId × List Held)
  tokens : List (NodeId × List Token)
  /-- The callbacks that were run, each with the node it was run for, oldest first. -/
  calls : List (NodeId × Call)

namespace EvaluatorState

def fresh : EvaluatorState :=
  ⟨[], [], []⟩

end EvaluatorState

/-- A computation of an evaluator. -/
abbrev Evaluation (α : Type) := ExceptT Failure (StateM EvaluatorState) α

namespace Evaluation

/-- A failure of the network's shape. -/
def malformed {α : Type} (what : Structural) : Evaluation α :=
  throw ⟨.structural what, none⟩

/-- Runs an operator for a node. -/
def operate {α : Type} (node : NodeId) (traced : Traced α) : Evaluation α := do
  modify fun state => { state with calls := state.calls ++ traced.calls.map (node, ·) }
  match traced.outcome with
  | .ok value => pure value
  | .error failure => throw failure

/-- The remembered objects of a node, or those that are computed now. -/
def objectsOnce (node : NodeId) (compute : Evaluation (List Held)) : Evaluation (List Held) := do
  match (← get).objects.lookup node with
  | some known => pure known
  | none =>
    let result ← compute
    modify fun state => { state with objects := (node, result) :: state.objects }
    pure result

/-- The remembered tokens of a node, or those that are computed now. -/
def tokensOnce (node : NodeId) (compute : Evaluation (List Token)) : Evaluation (List Token) := do
  match (← get).tokens.lookup node with
  | some known => pure known
  | none =>
    let result ← compute
    modify fun state => { state with tokens := (node, result) :: state.tokens }
    pure result

/-- The object parent that a node must have. -/
def objectParent (node : Node) : Evaluation NodeId :=
  match node.objectParent with
  | some parent => pure parent
  | none => malformed (.noObjectParent node.kind.sort node.id)

/-- The tuple parent that a node must have. -/
def tupleParent (node : Node) : Evaluation NodeId :=
  match node.tupleParent with
  | some parent => pure parent
  | none => malformed (.noTupleParent node.kind.sort node.id)

/-- **The objects of a node**, given the nodes from the newest that may be it. -/
def objectsAt (memory : WorkingMemory) : List Node → NodeId → Evaluation (List Held)
  | [], id => malformed (.notInNetwork id)
  | node :: older, id =>
    if node.id = id then
      objectsOnce id (match node.kind with
        | .entryPoint name => pure (memory.objects (.entryPoint name))
        | .stream name type => pure (Operator.narrow type (memory.objects (.stream name)))
        | .objectType type => do
          let input ← objectsAt memory older (← objectParent node)
          pure (Operator.narrow type input)
        | .alpha predicate arity => do
          let input ← objectsAt memory older (← objectParent node)
          operate id (Operator.alphaObjects predicate arity input)
        | kind => malformed (.noObjects kind.sort id))
    else objectsAt memory older id

/-- **The tokens of a node**, given the nodes from the newest that may be it. -/
def tokensAt (memory : WorkingMemory) : List Node → NodeId → Evaluation (List Token)
  | [], id => malformed (.notInNetwork id)
  | node :: older, id =>
    if node.id = id then
      tokensOnce id (match node.kind with
        | .adapter => do
          let objects ← objectsAt memory older (← objectParent node)
          pure (objects.map Token.ofHeld)
        | .join constraints => do
          let tokens ← tokensAt memory older (← tupleParent node)
          let objects ← objectsAt memory older (← objectParent node)
          operate id (Operator.joinTokens constraints tokens objects)
        | .existential quantifier constraints => do
          let tokens ← tokensAt memory older (← tupleParent node)
          let objects ← objectsAt memory older (← objectParent node)
          operate id (Operator.existentialTokens quantifier constraints tokens objects)
        | .accumulate source results functions => do
          let tokens ← tokensAt memory older (← tupleParent node)
          let objects ← objectsAt memory older (← objectParent node)
          operate id (Operator.accumulateTokens source results functions tokens objects)
        | .invoker invocation args constraints => do
          let tokens ← tokensAt memory older (← tupleParent node)
          operate id (Operator.invokerTokens invocation args constraints tokens)
        | kind => malformed (.noTuples kind.sort id))
    else tokensAt memory older id

end Evaluation

namespace Network

/-- The objects that a node produces from working memory. -/
def objects (network : Network) (memory : WorkingMemory) (id : NodeId) :
    Evaluation (List Held) :=
  Evaluation.objectsAt memory network.nodes id

/-- The tokens that a node produces from working memory. -/
def tokens (network : Network) (memory : WorkingMemory) (id : NodeId) :
    Evaluation (List Token) :=
  Evaluation.tokensAt memory network.nodes id

end Network

end RuleNet
