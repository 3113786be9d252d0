/-
**The standard aggregate functions: count, sum, average, least and greatest.**

Sums stay integers as long as all inputs are integers, and fail rather than wrap; with a double
among the operands they are doubles. Count, sum and average can take objects back; the least and
the greatest cannot, since the state forgets the runners-up.

* `combine`: one addition or subtraction;
* `count`, `sum`, `average`, `least`, `greatest`: the functions.
-/

import RuleNet.Fold.Aggregate
import RuleNet.Fold.Extractor
import RuleNet.Number.Checked
import RuleNet.Value.Order

namespace RuleNet

namespace Aggregate

/-- Whether objects are taken in or taken back. -/
inductive Direction where
  | take
  | giveBack
deriving DecidableEq, Repr

/-- The operand of an arithmetic step as a double. -/
def number (value : Value) : Outcome Double :=
  match value.asNumber? with
  | some x => .ok x
  | none => (Fault.typeMismatch .float value.objectType).fail

/-- **Adds or subtracts two numbers.** Integers give an exact integer or fail; any other pair of
numbers gives a double. -/
def combine (key : String) (direction : Direction) : Value → Value → Outcome Value
  | .int a, .int b =>
    let total := match direction with
      | .take => Checked.add? a b
      | .giveBack => Checked.sub? a b
    match total with
    | some n => .ok (.int n)
    | none => (Fault.evaluator key "integer overflow").fail
  | a, b => do
    let x ← number a
    let y ← number b
    match direction with
    | .take => .ok (.float (x.add y))
    | .giveBack => .ok (.float (x.sub y))

/-! ### Sum -/

def sumStep (key : String) (extractor : Extractor) (direction : Direction)
    (state input : Value) : Outcome Value := do
  let value ← extractor.extract input
  combine key direction state value

/-- The sum of what the extractor reads. -/
def sum (extractor : Extractor) : Aggregate :=
  let key := "sum(" ++ extractor.key ++ ")"
  { key := key
    init := .int 0
    step := sumStep key extractor .take
    undo := some (sumStep key extractor .giveBack)
    finish := .ok }

/-! ### Average -/

/-- The running total and count of an average. -/
def averageParts (key : String) (state : Value) : Outcome (Value × Int64) :=
  match state with
  | .vec (total :: .int count :: _) => .ok (total, count)
  | _ => (Fault.evaluator key "malformed running state").fail

/-- The count after one more or one less object. -/
def averageCount (key : String) (direction : Direction) (count : Int64) : Outcome Int64 :=
  let next := match direction with
    | .take => Checked.add? count 1
    | .giveBack => Checked.sub? count 1
  match next with
  | some n => .ok n
  | none => (Fault.evaluator key "count overflow").fail

def averageStep (key : String) (extractor : Extractor) (direction : Direction)
    (state input : Value) : Outcome Value := do
  let value ← extractor.extract input
  let (total, count) ← averageParts key state
  let total ← combine key direction total value
  let count ← averageCount key direction count
  .ok (.vec [total, .int count])

/-- The quotient of total and count, and nil when nothing was counted. -/
def averageFinish (key : String) (state : Value) : Outcome Value := do
  let (total, count) ← averageParts key state
  if count = 0 then .ok .nil
  else
    let total ← number total
    .ok (.float (total.div (Double.ofInt count.toInt)))

/-- The average of what the extractor reads. -/
def average (extractor : Extractor) : Aggregate :=
  let key := "average(" ++ extractor.key ++ ")"
  { key := key
    init := .vec [.int 0, .int 0]
    step := averageStep key extractor .take
    undo := some (averageStep key extractor .giveBack)
    finish := averageFinish key }

/-! ### Count -/

def countStep (direction : Direction) (state _input : Value) : Outcome Value :=
  match state.asInt? with
  | some n =>
    let next := match direction with
      | .take => Checked.add? n 1
      | .giveBack => Checked.add? n (-1)
    match next with
    | some n => .ok (.int n)
    | none => (Fault.evaluator "count" "integer overflow").fail
  | none => (Fault.typeMismatch .int state.objectType).fail

/-- The number of objects. -/
def count : Aggregate where
  key := "count"
  init := .int 0
  step := countStep .take
  undo := some (countStep .giveBack)
  finish := .ok

/-! ### Least and greatest -/

/-- Keeps the new value if it stands in the wanted order to the state. A state of nil is replaced
by any value; values that cannot be compared are refused. -/
def extremeStep (extractor : Extractor) (wanted : Ordering) (state input : Value) :
    Outcome Value := do
  let value ← extractor.extract input
  if state.isNil then .ok value
  else
    match value.compare? state with
    | some order => .ok (if order = wanted then value else state)
    | none => (Fault.typeMismatch state.objectType value.objectType).fail

/-- The least value that the extractor reads. -/
def least (extractor : Extractor) : Aggregate where
  key := "min(" ++ extractor.key ++ ")"
  init := .nil
  step := extremeStep extractor .lt
  undo := none
  finish := .ok

/-- The greatest value that the extractor reads. -/
def greatest (extractor : Extractor) : Aggregate where
  key := "max(" ++ extractor.key ++ ")"
  init := .nil
  step := extremeStep extractor .gt
  undo := none
  finish := .ok

end Aggregate

end RuleNet
