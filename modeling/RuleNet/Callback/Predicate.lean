/-
**Predicates and invocations: outside functions known by a key.**

The network cannot look inside a callback. Two callbacks with equal keys count as one when nodes
are shared, and it is up to the author of the rules that they behave alike.

* `Predicate.test`: a predicate that names its arity refuses any other number of arguments before
  its body runs;
* `Invocation.call`: the value a function derives from bound variables.
-/

import RuleNet.Callback.Traced

namespace RuleNet

/-- A test of values. -/
structure Predicate where
  key : String
  /-- The only number of arguments that the body takes, if it is particular about it. -/
  arity : Option Nat
  body : List Value → Outcome Bool

namespace Predicate

/-- A predicate that takes any number of arguments. -/
def variadic (key : String) (body : List Value → Outcome Bool) : Predicate :=
  ⟨key, none, body⟩

/-- A predicate of a fixed number of arguments. -/
def fixed (key : String) (arity : Nat) (body : List Value → Outcome Bool) : Predicate :=
  ⟨key, some arity, body⟩

/-- The two are one predicate for sharing. -/
def same (a b : Predicate) : Bool :=
  a.key = b.key

/-- **Tests values**, if the predicate takes that many. -/
def test (predicate : Predicate) (args : List Value) : Traced Bool :=
  let run := Traced.ofCall ⟨.predicate, predicate.key, args⟩ (predicate.body args)
  match predicate.arity with
  | none => run
  | some arity =>
    if args.length = arity then run
    else Traced.ofOutcome (Fault.evaluator predicate.key
      ("expected " ++ toString arity ++ " argument(s), got " ++ toString args.length)).fail

def text (predicate : Predicate) : String :=
  "<predicate " ++ predicate.key ++ ">"

end Predicate

/-- A function of bound variables whose result is bound to a further variable. -/
structure Invocation where
  key : String
  params : List Variable
  /-- The result is a vector, and the further variable is bound to each of its items in turn. -/
  iterable : Bool
  body : List Value → Outcome Value

namespace Invocation

/-- The two are one invocation for sharing. -/
def same (a b : Invocation) : Bool :=
  a.key = b.key && a.iterable = b.iterable

def call (invocation : Invocation) (args : List Value) : Traced Value :=
  Traced.ofCall ⟨.invocation, invocation.key, args⟩ (invocation.body args)

def text (invocation : Invocation) : String :=
  "<invoke " ++ invocation.key ++ (if invocation.iterable then " *" else "") ++ ">"

end Invocation

end RuleNet
