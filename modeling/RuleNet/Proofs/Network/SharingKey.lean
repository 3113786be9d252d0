/-
**What nodes are compared by.**

Two nodes can stand in for each other if they have the same parents and their kinds agree in every
sharing key. Callbacks count by their keys alone.

* `SharingKey`, `NodeKind.sharingKey?`: all that the comparison looks at. A terminal has no key;
* `NodeKind.sharesWith_iff`: kinds agree if they have keys, and equal ones;
* `Node.equivalent_symm`, `Node.equivalent_trans`: **standing in for each other** is symmetric and
  transitive, so it does not matter which of two nodes was there first.
-/

import RuleNet.Network.Node

namespace RuleNet

/-- What a constraint is compared by: the key of its predicate and the places it reads. -/
def BoundConstraint.sharingKey (constraint : BoundConstraint) : String × List Slot :=
  (constraint.predicate.key, constraint.slots)

/-- What a fold is compared by: the key of its function and the place of its result. -/
def PlacedAggregate.sharingKey (aggregate : PlacedAggregate) : String × Nat :=
  (aggregate.function.key, aggregate.offset)

/-- **What kinds are compared by.** -/
inductive SharingKey where
  | entryPoint (name : String)
  | stream (name : String) (type : ObjectType)
  | objectType (type : ObjectType)
  | alpha (key : String) (arity : Nat)
  | adapter
  | join (constraints : List (String × List Slot))
  | existential (quantifier : Quantifier) (constraints : List (String × List Slot))
  | accumulate (source results : List (String × List Slot)) (functions : List (String × Nat))
  | invoker (key : String) (iterable : Bool) (args : List Nat)
    (constraints : List (String × List Slot))

/-- The key of a kind. Terminals are not shared and have none. -/
def NodeKind.sharingKey? : NodeKind → Option SharingKey
  | entryPoint name => some (.entryPoint name)
  | stream name type => some (.stream name type)
  | objectType type => some (.objectType type)
  | alpha predicate arity => some (.alpha predicate.key arity)
  | adapter => some .adapter
  | join constraints => some (.join (constraints.map BoundConstraint.sharingKey))
  | existential quantifier constraints =>
    some (.existential quantifier (constraints.map BoundConstraint.sharingKey))
  | accumulate source results functions =>
    some (.accumulate (source.map BoundConstraint.sharingKey)
      (results.map BoundConstraint.sharingKey) (functions.map PlacedAggregate.sharingKey))
  | invoker invocation args constraints =>
    some (.invoker invocation.key invocation.iterable args
      (constraints.map BoundConstraint.sharingKey))
  | terminal _ => none

theorem BoundConstraint.sameAll_iff (first second : List BoundConstraint) :
    sameAll first second = true ↔ first.map sharingKey = second.map sharingKey := by
  induction first generalizing second with
  | nil => cases second <;> simp [sameAll]
  | cons a rest hypothesis =>
    cases second with
    | nil => simp [sameAll]
    | cons b others => simp [sameAll, same, Predicate.same, sharingKey, hypothesis]

theorem PlacedAggregate.sameAll_iff (first second : List PlacedAggregate) :
    sameAll first second = true ↔ first.map sharingKey = second.map sharingKey := by
  induction first generalizing second with
  | nil => cases second <;> simp [sameAll]
  | cons a rest hypothesis =>
    cases second with
    | nil => simp [sameAll]
    | cons b others => simp [sameAll, same, Aggregate.same, sharingKey, hypothesis]

namespace NodeKind

/-- **Kinds agree if they have one key.** -/
theorem sharesWith_iff (a b : NodeKind) :
    a.sharesWith b = true ↔ a.sharingKey?.isSome = true ∧ a.sharingKey? = b.sharingKey? := by
  cases a <;> cases b <;>
    simp [sharesWith, sharingKey?, Predicate.same, Invocation.same, BoundConstraint.sameAll_iff,
      PlacedAggregate.sameAll_iff, and_assoc]

theorem sharesWith_symm {a b : NodeKind} (same : a.sharesWith b = true) :
    b.sharesWith a = true := by
  obtain ⟨keyed, equal⟩ := (sharesWith_iff a b).mp same
  exact (sharesWith_iff b a).mpr ⟨equal ▸ keyed, equal.symm⟩

theorem sharesWith_trans {a b c : NodeKind} (first : a.sharesWith b = true)
    (second : b.sharesWith c = true) : a.sharesWith c = true := by
  obtain ⟨keyed, left⟩ := (sharesWith_iff a b).mp first
  obtain ⟨_, right⟩ := (sharesWith_iff b c).mp second
  exact (sharesWith_iff a c).mpr ⟨keyed, left.trans right⟩

end NodeKind

namespace Node

variable {a b c : Node}

theorem equivalent_iff (a b : Node) :
    a.equivalent b = true ↔ (a.objectParent = b.objectParent ∧ a.tupleParent = b.tupleParent) ∧
      a.kind.sharesWith b.kind = true := by
  simp [equivalent]

theorem equivalent_symm (same : a.equivalent b = true) : b.equivalent a = true := by
  obtain ⟨⟨object, tuple⟩, kinds⟩ := (equivalent_iff a b).mp same
  exact (equivalent_iff b a).mpr ⟨⟨object.symm, tuple.symm⟩, NodeKind.sharesWith_symm kinds⟩

theorem equivalent_comm (a b : Node) : a.equivalent b = b.equivalent a :=
  Bool.eq_iff_iff.mpr ⟨equivalent_symm, equivalent_symm⟩

theorem equivalent_trans (first : a.equivalent b = true) (second : b.equivalent c = true) :
    a.equivalent c = true := by
  obtain ⟨⟨object, tuple⟩, kinds⟩ := (equivalent_iff a b).mp first
  obtain ⟨⟨later, last⟩, more⟩ := (equivalent_iff b c).mp second
  exact (equivalent_iff a c).mpr
    ⟨⟨object.trans later, tuple.trans last⟩, NodeKind.sharesWith_trans kinds more⟩

end Node

end RuleNet
