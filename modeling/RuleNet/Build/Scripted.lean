/-
**Factories that depart from the standard at chosen requests.**

A script lists, for kinds of nodes, which of the requests of the kind is answered otherwise: with a
failure, with the wanted node under another id, or with another node under the wanted id. The first
entry that applies decides.

* `ScriptEntry.applies`: which requests an entry is about;
* `NodeFactory.scripted`: the factory of a script.
-/

import RuleNet.Build.Factory

namespace RuleNet

/-- A departure from the standard answer. -/
inductive ScriptAnswer where
  | fail (fault : Fault)
  | renamed (id : NodeId)
  | replaced (kind : NodeKind) (objectParent tupleParent : Option NodeId)

/-- One line of a script. -/
structure ScriptEntry where
  sort : NodeSort
  /-- The request of the kind that it is about, counted from one, or all of them. -/
  nth : Option Nat
  answer : ScriptAnswer

/-- The entry is about a request, the `count`-th of its kind. -/
def ScriptEntry.applies (entry : ScriptEntry) (sort : NodeSort) (count : Nat) : Bool :=
  entry.sort = sort && (entry.nth.isNone || entry.nth = some count)

/-- The answer to a request. -/
def ScriptAnswer.make (answer : ScriptAnswer) (request : NodeRequest) : Outcome Node :=
  match answer with
  | fail fault => fault.fail
  | renamed id => .ok { request.toNode with id := id }
  | replaced kind objectParent tupleParent =>
    .ok ⟨request.id, kind, objectParent, tupleParent, []⟩

/-- **The factory of a script.** -/
def NodeFactory.scripted (script : List ScriptEntry) : NodeFactory where
  make earlier request :=
    let sort := request.kind.sort
    let count := earlier.countP (fun other => other.kind.sort = sort) + 1
    match script.find? fun entry => entry.applies sort count with
    | some entry => entry.answer.make request
    | none => .ok request.toNode

end RuleNet
