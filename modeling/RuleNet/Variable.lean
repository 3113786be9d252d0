/-
**Pattern variables.**

A variable is known by its number: two variables with the same display name are different
variables unless their numbers agree. Its type is what a pattern over it asks for.

* `same`: identity of variables;
* `same_iff`: only the numbers count.
-/

import RuleNet.ObjectType

namespace RuleNet

/-- A variable of a rule. -/
structure Variable where
  id : Nat
  name : String
  type : ObjectType
deriving DecidableEq, Repr, Inhabited

namespace Variable

/-- **The two are one variable.** -/
def same (a b : Variable) : Bool :=
  a.id = b.id

@[simp] theorem same_iff (a b : Variable) : a.same b = true ↔ a.id = b.id := by
  simp [same]

/-- The text of a variable: name, number and type. -/
def text (v : Variable) : String :=
  "?" ++ v.name ++ "#" ++ toString v.id ++ ": " ++ v.type.text

end Variable

end RuleNet
