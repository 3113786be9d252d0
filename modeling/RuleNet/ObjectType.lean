/-
**Object types: what a value is, and what a pattern asks for.**

Every value has exactly one type. A pattern names the type of the objects it reads; `accepts`
says which values pass. There is no numeric promotion, and `any` accepts everything but the
initial fact, so that a catch-all pattern never sees it.

* `accepts_iff`: the rule in one line.
-/

namespace RuleNet

/-- The type of a value, or the type that a pattern narrows to. -/
inductive ObjectType where
  /-- The type of the initial fact that every session starts with. -/
  | initialFact
  | nil
  | bool
  | int
  | float
  | string
  | vec
  /-- Facts of a named type. -/
  | fact (name : String)
  /-- Every type but that of the initial fact. -/
  | any
deriving DecidableEq, Repr, Inhabited

namespace ObjectType

/-- **A value of type `actual` passes a pattern that asks for `expected`.** -/
def accepts (expected actual : ObjectType) : Bool :=
  match expected, actual with
  | any, initialFact => false
  | any, _ => true
  | expected, actual => expected = actual

def isAny (type : ObjectType) : Bool :=
  type = any

def isInitialFact (type : ObjectType) : Bool :=
  type = initialFact

/-- The name of a fact type. -/
def factName? : ObjectType → Option String
  | fact name => some name
  | _ => none

/-- The text of a type. A fact type shows its name alone. -/
def text : ObjectType → String
  | initialFact => "initial-fact"
  | nil => "nil"
  | bool => "bool"
  | int => "int"
  | float => "float"
  | string => "string"
  | vec => "vec"
  | fact name => name
  | any => "any"

/-- The types that are not fact types. -/
def unnamed : List ObjectType :=
  [initialFact, nil, bool, int, float, string, vec, any]

/-- The type with a text that is not a fact type. -/
def unnamed? (text : String) : Option ObjectType :=
  unnamed.find? (·.text = text)

/-- **The rule of acceptance**: equal types, or `any` and not the initial fact. -/
theorem accepts_iff (expected actual : ObjectType) :
    expected.accepts actual = true ↔
      expected = actual ∨ (expected = any ∧ actual ≠ initialFact) := by
  cases expected <;> cases actual <;> simp [accepts]

end ObjectType

end RuleNet
