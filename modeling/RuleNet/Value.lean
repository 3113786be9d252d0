/-
**Values: everything that flows through the network.**

A value is nil, a truth value, a 64-bit integer, a double, a string, a vector or a typed fact. A
fact keeps its fields as a name map, so facts with the same fields are the same value however
they were put together.

* `beq_eq_true`: the decision procedure of equality. Doubles are equal when their bits are, and an
  integer never equals a double;
* `objectType`: the one type of a value;
* `Fact`: a fact apart from the other values, with `put`, `get?` and `initial`.
-/

import RuleNet.NameMap
import RuleNet.Number.Double
import RuleNet.ObjectType

namespace RuleNet

/-- What kind of fact a fact is. -/
inductive FactTag where
  /-- The fact that every session starts with. -/
  | initial
  | named (name : String)
deriving DecidableEq, Repr, Inhabited

/-- The type of the facts with a tag. -/
def FactTag.objectType : FactTag → ObjectType
  | initial => .initialFact
  | named name => .fact name

/-- A value held by working memory or by a partial match. -/
inductive Value where
  | nil
  | bool (b : Bool)
  | int (n : Int64)
  | float (x : Double)
  | string (s : String)
  | vec (items : List Value)
  | fact (tag : FactTag) (fields : List (String × Value))
deriving Repr, Inhabited

namespace Value

/-! ### Equality -/

mutual

/-- The decision procedure of equality. -/
def beq : Value → Value → Bool
  | nil, nil => true
  | bool a, bool b => a = b
  | int a, int b => a = b
  | float a, float b => a = b
  | string a, string b => a = b
  | vec a, vec b => beqItems a b
  | fact tag a, fact other b => tag = other && beqFields a b
  | _, _ => false
termination_by structural value => value

def beqItems : List Value → List Value → Bool
  | [], [] => true
  | a :: rest, b :: others => beq a b && beqItems rest others
  | _, _ => false
termination_by structural items => items

def beqFields : List (String × Value) → List (String × Value) → Bool
  | [], [] => true
  | a :: rest, b :: others => beqField a b && beqFields rest others
  | _, _ => false
termination_by structural fields => fields

def beqField : String × Value → String × Value → Bool
  | (name, a), (other, b) => name = other && beq a b
termination_by structural field => field

end

mutual

theorem beq_eq_true : (a b : Value) → (beq a b = true ↔ a = b)
  | nil, b | bool _, b | int _, b | float _, b | string _, b => by
    cases b <;> simp [beq]
  | vec items, b => by
    cases b <;> simp [beq, beqItems_eq_true items]
  | fact tag fields, b => by
    cases b <;> simp [beq, beqFields_eq_true fields]

theorem beqItems_eq_true : (a b : List Value) → (beqItems a b = true ↔ a = b)
  | [], b => by cases b <;> simp [beqItems]
  | item :: rest, b => by
    cases b <;> simp [beqItems, beq_eq_true item, beqItems_eq_true rest]

theorem beqFields_eq_true : (a b : List (String × Value)) → (beqFields a b = true ↔ a = b)
  | [], b => by cases b <;> simp [beqFields]
  | field :: rest, b => by
    cases b <;> simp [beqFields, beqField_eq_true field, beqFields_eq_true rest]

theorem beqField_eq_true : (a b : String × Value) → (beqField a b = true ↔ a = b)
  | (name, value), (other, b) => by simp [beqField, beq_eq_true value]

end

instance : DecidableEq Value := fun a b => decidable_of_iff _ (beq_eq_true a b)

/-! ### Types and parts -/

/-- The one type of a value. -/
def objectType : Value → ObjectType
  | nil => .nil
  | bool _ => .bool
  | int _ => .int
  | float _ => .float
  | string _ => .string
  | vec _ => .vec
  | fact tag _ => tag.objectType

def isNil : Value → Bool
  | nil => true
  | _ => false

def asBool? : Value → Option Bool
  | bool b => some b
  | _ => none

def asInt? : Value → Option Int64
  | int n => some n
  | _ => none

def asFloat? : Value → Option Double
  | float x => some x
  | _ => none

/-- A number as a double. A large integer is rounded. -/
def asNumber? : Value → Option Double
  | int n => some (Double.ofInt n.toInt)
  | float x => some x
  | _ => none

def asString? : Value → Option String
  | string s => some s
  | _ => none

def asVec? : Value → Option (List Value)
  | vec items => some items
  | _ => none

end Value

/-- A typed record of named fields. -/
structure Fact where
  tag : FactTag
  fields : NameMap Value
deriving DecidableEq, Repr, Inhabited

namespace Fact

/-- A fact of a named type, without fields. -/
def named (name : String) : Fact :=
  ⟨.named name, []⟩

/-- The fact that every session starts with. -/
def initial : Fact :=
  ⟨.initial, []⟩

/-- The fact with one field written. -/
def put (fact : Fact) (name : String) (value : Value) : Fact :=
  { fact with fields := NameMap.set fact.fields name value }

/-- A field's value, if the fact has the field. -/
def get? (fact : Fact) (name : String) : Option Value :=
  NameMap.get? fact.fields name

def objectType (fact : Fact) : ObjectType :=
  fact.tag.objectType

/-- The fact as a value. -/
def toValue (fact : Fact) : Value :=
  .fact fact.tag fact.fields

end Fact

/-- The fact that a value is, if it is one. -/
def Value.asFact? : Value → Option Fact
  | .fact tag fields => some ⟨tag, fields⟩
  | _ => none

end RuleNet
