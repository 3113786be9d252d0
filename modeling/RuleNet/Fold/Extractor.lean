/-
**Extractors: what an aggregate function reads of each object.**

* `identity`: the object itself;
* `field`: one field of a fact, which must have it.
-/

import RuleNet.Failure
import RuleNet.Value

namespace RuleNet

/-- The value of a field that the fact must have. -/
def Fact.field (fact : Fact) (name : String) : Outcome Value :=
  match fact.get? name with
  | some value => .ok value
  | none => (Fault.evaluator (fact.objectType.text ++ "." ++ name) "no such field").fail

/-- A function of one object, known by a key. -/
structure Extractor where
  key : String
  body : Value → Outcome Value

namespace Extractor

/-- The object itself. -/
def identity : Extractor :=
  ⟨"it", fun value => .ok value⟩

/-- The named field of a fact. -/
def field (name : String) : Extractor :=
  ⟨name, fun value =>
    match value.asFact? with
    | some fact => fact.field name
    | none => (Fault.typeMismatch .any value.objectType).fail⟩

def extract (extractor : Extractor) (value : Value) : Outcome Value :=
  extractor.body value

def text (extractor : Extractor) : String :=
  "<extract " ++ extractor.key ++ ">"

@[simp] theorem extract_identity (value : Value) : identity.extract value = .ok value := rfl

end Extractor

end RuleNet
