/-
**Classification of constraints.**

A constraint of a pattern is constant if it reads no variable, alpha if it reads only the
pattern's own variable, and beta if it reads a variable that was bound before. The class depends
on the set of variables alone. A variable that is neither is an error.

* `classify`: the class of one constraint;
* `partition`: the constraints of a pattern by class, each class in the order of declaration;
* `bindAll`: the slots that beta constraints read.
-/

import RuleNet.Build.Context
import RuleNet.Network.Node

namespace RuleNet

/-- The classes of constraints. -/
inductive ConstraintClass where
  | constant
  | alpha
  | beta
deriving DecidableEq, Repr

/-- The constraints of a pattern by class. -/
structure Classified where
  constant : List SingleConstraint
  alpha : List SingleConstraint
  beta : List SingleConstraint

namespace SingleConstraint

/-- The class of a constraint that reads the variables on top of those seen before. -/
def classOf (key : String) (own : Variable) (context : BuildContext) :
    ConstraintClass → List Variable → Outcome ConstraintClass
  | seen, [] => .ok seen
  | seen, v :: rest =>
    if v.same own then classOf key own context seen rest
    else
      match context.offset? v with
      | none => (Structural.unbound ("constraint " ++ key) v).fail
      | some _ => classOf key own context .beta rest

/-- **The class of a constraint.** -/
def classify (single : SingleConstraint) (own : Variable) (context : BuildContext) :
    Outcome ConstraintClass :=
  if single.isConstant then .ok .constant
  else classOf single.predicate.key own context .alpha single.reads

/-- The slots of a constraint: the object for the pattern's own variable, and for any other
variable its place in the tuple. -/
def bind (single : SingleConstraint) (own : Variable) (context : BuildContext) :
    Outcome BoundConstraint := do
  let slots ← single.reads.mapM fun v =>
    if v.same own then .ok Slot.object
    else do
      let offset ← context.requireOffset v single.predicate.key
      .ok (Slot.tuple offset)
  .ok ⟨single.predicate, slots⟩

/-- The slots of several constraints. -/
def bindAll (singles : List SingleConstraint) (own : Variable) (context : BuildContext) :
    Outcome (List BoundConstraint) :=
  singles.mapM fun single => single.bind own context

end SingleConstraint

namespace Classified

def empty : Classified :=
  ⟨[], [], []⟩

/-- One more constraint, before the others. -/
def add (single : SingleConstraint) (kind : ConstraintClass) (others : Classified) : Classified :=
  match kind with
  | .constant => { others with constant := single :: others.constant }
  | .alpha => { others with alpha := single :: others.alpha }
  | .beta => { others with beta := single :: others.beta }

/-- **The constraints by class.** The first constraint that has none is the error. -/
def partition (own : Variable) (context : BuildContext) :
    List SingleConstraint → Outcome Classified
  | [] => .ok empty
  | single :: rest => do
    let kind ← single.classify own context
    let others ← partition own context rest
    .ok (add single kind others)

/-- The number of constraints. -/
def size (classified : Classified) : Nat :=
  classified.constant.length + classified.alpha.length + classified.beta.length

@[simp] theorem size_add (single : SingleConstraint) (kind : ConstraintClass)
    (others : Classified) : (add single kind others).size = others.size + 1 := by
  cases kind <;> simp [add, size] <;> omega

/-- **No constraint is lost.** -/
theorem size_partition {own : Variable} {context : BuildContext}
    {singles : List SingleConstraint} {classified : Classified}
    (sorted : partition own context singles = .ok classified) :
    classified.size = singles.length := by
  induction singles generalizing classified with
  | nil =>
    simp only [partition, Except.ok.injEq] at sorted
    subst sorted
    rfl
  | cons single rest hypothesis =>
    simp only [partition] at sorted
    cases kind : single.classify own context with
    | error failure => simp [kind, bind, Except.bind] at sorted
    | ok found =>
      cases others : partition own context rest with
      | error failure => simp [kind, others, bind, Except.bind] at sorted
      | ok known =>
        simp only [kind, others, bind, Except.bind, Except.ok.injEq] at sorted
        subst sorted
        simp [hypothesis others]

end Classified

end RuleNet
