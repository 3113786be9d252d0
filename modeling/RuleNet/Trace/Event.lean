/-
**Build events: what the compiler did to the network.**

* `BuildEvent`: the nine events;
* `BuildEvent.type`: the name under which events are filtered and counted;
* `TraceRecord`: an event with its number, the number of its rule, and its time.
-/

import RuleNet.Network.Identity

namespace RuleNet

/-- One thing that happened while rules were compiled. -/
inductive BuildEvent where
  | ruleStart (rule : String)
  | nodeCreated (node : NodeId) (kind : String)
  | nodeShared (node : NodeId) (kind : String)
  | adapterInserted (node root : NodeId)
  | initialFactInserted (node : NodeId)
  | constraintSkipped (key : String)
  | ruleComplete (rule : String) (terminal : NodeId)
  | ruleFailed (rule message : String)
  | rolledBack (rule : String) (removed : Nat)
deriving DecidableEq, Repr

namespace BuildEvent

/-- The name of an event's type. -/
def type : BuildEvent → String
  | ruleStart _ => "rule-start"
  | nodeCreated _ _ => "node-created"
  | nodeShared _ _ => "node-shared"
  | adapterInserted _ _ => "adapter-inserted"
  | initialFactInserted _ => "initial-fact-inserted"
  | constraintSkipped _ => "constraint-skipped"
  | ruleComplete _ _ => "rule-complete"
  | ruleFailed _ _ => "rule-failed"
  | rolledBack _ _ => "rolled-back"

/-- All event types. -/
def types : List String :=
  ["rule-start", "node-created", "node-shared", "adapter-inserted", "initial-fact-inserted",
    "constraint-skipped", "rule-complete", "rule-failed", "rolled-back"]

theorem type_mem_types (event : BuildEvent) : event.type ∈ types := by
  cases event <;> simp [type, types]

/-- The event opens or closes a rule. -/
def isRuleBoundary : BuildEvent → Bool
  | ruleStart _ | ruleComplete _ _ | ruleFailed _ _ => true
  | _ => false

/-- The event is about one node. -/
def isNodeEvent : BuildEvent → Bool
  | nodeCreated _ _ | nodeShared _ _ | adapterInserted _ _ | initialFactInserted _ => true
  | _ => false

/-- The event of ending at a node, which was there before or not. -/
def ofNode (node : NodeId) (kind : String) (shared : Bool) : BuildEvent :=
  if shared then nodeShared node kind else nodeCreated node kind

end BuildEvent

/-- A recorded event. -/
structure TraceRecord where
  id : Nat
  /-- The number of the rule that was being compiled. -/
  rule : Nat
  /-- Nanoseconds since tracing began. -/
  time : Nat
  event : BuildEvent
deriving DecidableEq, Repr

end RuleNet
