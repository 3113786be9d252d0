/-
**Expressions: callbacks written down as data.**

An expression is a function of a list of arguments. Its parts are evaluated from left to right,
and the first failure is the failure of the whole. Predicates, invocations, extractors, aggregate
steps and actions can all be given by expressions.

* `Expression.eval`: the value of an expression;
* `Expression.predicateBody`, `Expression.actionBody`: an expression as a test or as an action;
* `Aggregate.ofExpressions`: an aggregate function whose steps are expressions.
-/

import RuleNet.Fold.Standard
import RuleNet.Value.Text

namespace RuleNet

/-- The six comparisons. -/
inductive Comparison where
  | equal
  | different
  | less
  | lessOrEqual
  | greater
  | greaterOrEqual
deriving DecidableEq, Repr

/-- Compares two values. Values that are not comparable are equal or different, and nothing else. -/
def Comparison.holds (comparison : Comparison) (a b : Value) : Bool :=
  match comparison, a.compare? b with
  | .equal, _ => a = b
  | .different, _ => a ≠ b
  | .less, some order => order = .lt
  | .lessOrEqual, some order => order ≠ .gt
  | .greater, some order => order = .gt
  | .greaterOrEqual, some order => order ≠ .lt
  | _, none => false

/-- A function of arguments. -/
inductive Expression where
  | const (value : Value)
  | arg (index : Nat)
  /-- The number of arguments. -/
  | argCount
  /-- A field that the fact must have. -/
  | field (fact : Expression) (name : String)
  /-- A field, or nil if there is none. -/
  | get (fact : Expression) (name : String)
  | vec (items : List Expression)
  | push (vector item : Expression)
  /-- An item of a vector, or nil if there is none. -/
  | nth (vector : Expression) (index : Nat)
  | length (vector : Expression)
  | text (value : Expression)
  | sum (items : List Expression)
  | compare (comparison : Comparison) (a b : Expression)
  | not (condition : Expression)
  | and (conditions : List Expression)
  | or (conditions : List Expression)
  | accepts (type : ObjectType) (value : Expression)
  | fail (fault : Fault)

namespace Expression

/-- The vector that a value must be. -/
def requireVec (value : Value) : Outcome (List Value) :=
  match value.asVec? with
  | some items => .ok items
  | none => (Fault.typeMismatch .vec value.objectType).fail

/-- The truth value that a value must be. -/
def requireBool (value : Value) : Outcome Bool :=
  match value.asBool? with
  | some b => .ok b
  | none => (Fault.typeMismatch .bool value.objectType).fail

mutual

/-- **The value of an expression.** -/
def eval (args : List Value) : Expression → Outcome Value
  | const value => .ok value
  | arg index =>
    match args[index]? with
    | some value => .ok value
    | none => (Fault.evaluator "arg" ("no argument " ++ toString index)).fail
  | argCount => .ok (.int (Int64.ofNat args.length))
  | field fact name => do
    let value ← eval args fact
    (Extractor.field name).extract value
  | get fact name => do
    let value ← eval args fact
    .ok (((value.asFact?.bind fun fact => fact.get? name)).getD .nil)
  | vec items => do
    let values ← evalAll args items
    .ok (.vec values)
  | push vector item => do
    let value ← eval args vector
    let last ← eval args item
    let items ← requireVec value
    .ok (.vec (items ++ [last]))
  | nth vector index => do
    let value ← eval args vector
    .ok ((value.asVec?.bind fun items => items[index]?).getD .nil)
  | length vector => do
    let value ← eval args vector
    let items ← requireVec value
    .ok (.int (Int64.ofNat items.length))
  | text value => do
    let value ← eval args value
    .ok (.string value.text)
  | sum items => evalSum args (Aggregate.sum .identity).init items
  | compare comparison a b => do
    let a ← eval args a
    let b ← eval args b
    .ok (.bool (comparison.holds a b))
  | not condition => do
    let value ← eval args condition
    let holds ← requireBool value
    .ok (.bool !holds)
  | and conditions => do
    let holds ← evalUntil args false conditions
    .ok (.bool !holds)
  | or conditions => do
    let holds ← evalUntil args true conditions
    .ok (.bool holds)
  | accepts type value => do
    let value ← eval args value
    .ok (.bool (type.accepts value.objectType))
  | fail fault => fault.fail
termination_by structural expression => expression

/-- The values of expressions. -/
def evalAll (args : List Value) : List Expression → Outcome (List Value)
  | [] => .ok []
  | item :: rest => do
    let value ← eval args item
    let others ← evalAll args rest
    .ok (value :: others)
termination_by structural items => items

/-- The sum of expressions on top of a state. Each is added before the next is evaluated. -/
def evalSum (args : List Value) (state : Value) : List Expression → Outcome Value
  | [] => .ok state
  | item :: rest => do
    let value ← eval args item
    let state ← (Aggregate.sum .identity).step state value
    evalSum args state rest
termination_by structural items => items

/-- Whether some condition has the wanted answer. None is evaluated after the first that has. -/
def evalUntil (args : List Value) (wanted : Bool) : List Expression → Outcome Bool
  | [] => .ok false
  | condition :: rest => do
    let value ← eval args condition
    let holds ← requireBool value
    if holds = wanted then .ok true else evalUntil args wanted rest
termination_by structural conditions => conditions

end

/-- An expression as the body of a predicate. -/
def predicateBody (expression : Expression) (args : List Value) : Outcome Bool := do
  let value ← expression.eval args
  requireBool value

/-- An expression as the body of an invocation. -/
def invocationBody (expression : Expression) (args : List Value) : Outcome Value :=
  expression.eval args

/-- An expression as an action. Its value is of no interest. -/
def actionBody (expression : Expression) (args : List Value) : Outcome Unit := do
  let _ ← expression.eval args
  .ok ()

end Expression

/-- An extractor given by an expression of the object. -/
def Extractor.ofExpression (key : String) (expression : Expression) : Extractor :=
  ⟨key, fun value => expression.eval [value]⟩

/-- **An aggregate function given by expressions**: the steps are functions of the state and the
object, and the result is a function of the state. -/
def Aggregate.ofExpressions (key : String) (init : Value) (step : Expression)
    (undo : Option Expression) (finish : Expression) : Aggregate where
  key := key
  init := init
  step state input := step.eval [state, input]
  undo := undo.map fun undo state input => undo.eval [state, input]
  finish state := finish.eval [state]

end RuleNet
