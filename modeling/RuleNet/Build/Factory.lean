/-
**The node factory: who makes the nodes.**

The compiler says what node it needs, and under which id; a factory makes it, or refuses. What
comes back goes into the arena as it is. A factory may answer by what it was asked before.

* `NodeRequest`: the node that is wanted;
* `NodeFactory.standard`: makes exactly that.
-/

import RuleNet.Network.Node

namespace RuleNet

/-- A node that the compiler wants. -/
structure NodeRequest where
  id : NodeId
  kind : NodeKind
  objectParent : Option NodeId
  tupleParent : Option NodeId

/-- The node exactly as wanted, without children. -/
def NodeRequest.toNode (request : NodeRequest) : Node :=
  ⟨request.id, request.kind, request.objectParent, request.tupleParent, []⟩

/-- A maker of nodes. -/
structure NodeFactory where
  /-- Answers a request, given the earlier ones, newest first. -/
  make : (earlier : List NodeRequest) → NodeRequest → Outcome Node

namespace NodeFactory

/-- **Makes every node as wanted.** -/
def standard : NodeFactory where
  make _ request := .ok request.toNode

end NodeFactory

end RuleNet
