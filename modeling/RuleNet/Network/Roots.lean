/-
**Roots by name, and the supply of node ids.**

* `Roots`: the root node of every source that rules read, by the source's name;
* `IdSupply.next`: ids are handed out in order and never twice, until they run out.
-/

import RuleNet.Failure
import RuleNet.NameMap
import RuleNet.Value.Text

namespace RuleNet

/-- The root nodes of sources, by name. -/
structure Roots where
  byName : NameMap NodeId
deriving DecidableEq, Repr

namespace Roots

def empty : Roots :=
  ⟨[]⟩

def get? (roots : Roots) (name : String) : Option NodeId :=
  NameMap.get? roots.byName name

def insert (roots : Roots) (name : String) (root : NodeId) : Roots :=
  ⟨NameMap.set roots.byName name root⟩

/-- The roots that are not among the removed nodes. -/
def prune (roots : Roots) (removed : List NodeId) : Roots :=
  ⟨roots.byName.filter fun entry => entry.2 ∉ removed⟩

def size (roots : Roots) : Nat :=
  roots.byName.length

def isEmpty (roots : Roots) : Bool :=
  roots.byName.isEmpty

def text (roots : Roots) : String :=
  Text.record "RootRegistry" [("roots", NameMap.text NodeId.text roots.byName)]

end Roots

/-- The ids that are left: all from the next one on. -/
structure IdSupply where
  nextIndex : Nat
deriving DecidableEq, Repr

namespace IdSupply

/-- No id is as large as this. -/
def bound : Nat :=
  UInt32.size - 1

def full : IdSupply :=
  ⟨0⟩

/-- **Hands out the next id.** -/
def next (supply : IdSupply) : Outcome (NodeId × IdSupply) :=
  if supply.nextIndex < bound then .ok (⟨supply.nextIndex⟩, ⟨supply.nextIndex + 1⟩)
  else (Fault.limit (.nodes bound)).fail

/-- The answers to several requests for an id. -/
def handOut (supply : IdSupply) : (count : Nat) → List (Outcome NodeId) × IdSupply
  | 0 => ([], supply)
  | count + 1 =>
    match supply.next with
    | .ok (id, left) =>
      let (answers, last) := handOut left count
      (.ok id :: answers, last)
    | .error failure =>
      let (answers, last) := handOut supply count
      (.error failure :: answers, last)

def text (supply : IdSupply) : String :=
  Text.record "IdGenerator" [("next", toString supply.nextIndex)]

theorem next_increases {supply after : IdSupply} {id : NodeId}
    (handed : supply.next = .ok (id, after)) :
    id.index = supply.nextIndex ∧ after.nextIndex = supply.nextIndex + 1 := by
  unfold next at handed
  split at handed
  · cases handed; exact ⟨rfl, rfl⟩
  · cases handed

end IdSupply

end RuleNet
