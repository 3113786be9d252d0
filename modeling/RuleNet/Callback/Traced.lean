/-
**Traced computations: an outcome together with the callbacks it ran.**

Predicates, invocations and aggregate functions are given from outside. A traced computation
returns its outcome and, in order, every callback evaluation that led to it. The calls are an
output only: no computation can read them, so leaving them away (`outcome`) turns each step into
the same step on outcomes.

* `outcome_pure`, `outcome_bind`: the outcome of a sequence is the sequence of the outcomes;
* `bind_of_ok`, `bind_of_error`: a sequence stops calling where it first fails;
* `loop`: the one loop, which runs in constant stack and in time linear in the calls;
* `select`, `any`, `each`, `expand`, `fold`: the loops of the evaluator, each with its equation.
-/

import RuleNet.Failure
import RuleNet.Value

namespace RuleNet

/-- What a callback is used for. -/
inductive CallUse where
  | predicate
  | invocation
  | aggregate
deriving DecidableEq, Repr

/-- One evaluation of a callback's body. -/
structure Call where
  use : CallUse
  key : String
  args : List Value
deriving DecidableEq, Repr

/-- An outcome, and the callback evaluations made on the way to it. -/
@[ext]
structure Traced (α : Type) where
  calls : List Call
  outcome : Outcome α

namespace Traced

variable {α β : Type}

/-- An outcome that needed no callback. -/
def ofOutcome (outcome : Outcome α) : Traced α :=
  ⟨[], outcome⟩

/-- The evaluation of one callback. -/
def ofCall (call : Call) (outcome : Outcome α) : Traced α :=
  ⟨[call], outcome⟩

/-- Runs the second computation on the first one's value, if it has one. -/
def andThen (first : Traced α) (next : α → Traced β) : Traced β :=
  match first.outcome with
  | .ok value =>
    let second := next value
    ⟨first.calls ++ second.calls, second.outcome⟩
  | .error failure => ⟨first.calls, .error failure⟩

instance : Monad Traced where
  pure value := ofOutcome (.ok value)
  bind := andThen
  map change traced := ⟨traced.calls, traced.outcome.map change⟩

/-! ### Sequences -/

@[simp] theorem outcome_pure (value : α) : (pure value : Traced α).outcome = .ok value := rfl

@[simp] theorem calls_pure (value : α) : (pure value : Traced α).calls = [] := rfl

@[simp] theorem outcome_ofOutcome (outcome : Outcome α) : (ofOutcome outcome).outcome = outcome :=
  rfl

@[simp] theorem outcome_ofCall (call : Call) (outcome : Outcome α) :
    (ofCall call outcome).outcome = outcome := rfl

@[simp] theorem outcome_map (change : α → β) (traced : Traced α) :
    (change <$> traced).outcome = traced.outcome.map change := rfl

@[simp] theorem calls_map (change : α → β) (traced : Traced α) :
    (change <$> traced).calls = traced.calls := rfl

/-- **The outcome of a sequence is the sequence of the outcomes.** -/
@[simp] theorem outcome_bind (first : Traced α) (next : α → Traced β) :
    (first >>= next).outcome = first.outcome >>= fun value => (next value).outcome := by
  show (andThen first next).outcome = _
  unfold andThen
  cases first.outcome <;> rfl

theorem bind_of_ok {first : Traced α} {value : α} (succeeds : first.outcome = .ok value)
    (next : α → Traced β) :
    first >>= next = ⟨first.calls ++ (next value).calls, (next value).outcome⟩ := by
  show andThen first next = _
  simp [andThen, succeeds]

theorem bind_of_error {first : Traced α} {failure : Failure}
    (fails : first.outcome = .error failure) (next : α → Traced β) :
    first >>= next = ⟨first.calls, .error failure⟩ := by
  show andThen first next = _
  simp [andThen, fails]

protected theorem map_eq_bind (change : α → β) (traced : Traced α) :
    traced >>= (fun value => pure (change value)) = change <$> traced := by
  cases ended : traced.outcome with
  | error failure => rw [bind_of_error ended]; ext1 <;> simp [ended, Except.map]
  | ok value => rw [bind_of_ok ended]; ext1 <;> simp [ended, Except.map]

protected theorem bind_assoc {γ : Type} (traced : Traced α) (first : α → Traced β)
    (second : β → Traced γ) :
    traced >>= first >>= second = traced >>= fun value => first value >>= second := by
  cases started : traced.outcome with
  | error failure => rw [bind_of_error started, bind_of_error rfl, bind_of_error started]
  | ok value =>
    rw [bind_of_ok started, bind_of_ok started]
    cases continued : (first value).outcome with
    | error failure => rw [bind_of_error rfl, bind_of_error continued]
    | ok other => rw [bind_of_ok rfl, bind_of_ok continued, List.append_assoc]

protected theorem pure_bind (value : α) (next : α → Traced β) :
    pure value >>= next = next value := by
  rw [bind_of_ok (outcome_pure value)]
  rfl

protected theorem id_map (traced : Traced α) : id <$> traced = traced := by
  ext1
  · rfl
  · show traced.outcome.map id = traced.outcome
    cases traced.outcome <;> rfl

instance : LawfulMonad Traced :=
  LawfulMonad.mk' Traced Traced.id_map Traced.pure_bind Traced.bind_assoc (fun _ _ => rfl)
    (fun _ _ => rfl) (fun _ _ => rfl) Traced.map_eq_bind (fun _ _ => rfl)

/-! ### The loop -/

/-- The loop after some items: `done` holds the calls made so far, newest first. -/
def loopFrom (step : β → α → Traced (ForInStep β)) : List Call → β → List α → Traced β
  | done, state, [] => ⟨done.reverse, .ok state⟩
  | done, state, item :: rest =>
    match step state item with
    | ⟨calls, .ok (.yield next)⟩ => loopFrom step (calls.reverseAux done) next rest
    | ⟨calls, .ok (.done last)⟩ => ⟨(calls.reverseAux done).reverse, .ok last⟩
    | ⟨calls, .error failure⟩ => ⟨(calls.reverseAux done).reverse, .error failure⟩

/-- Takes a state through the items in order. A step may end the loop early. -/
def loop (step : β → α → Traced (ForInStep β)) (state : β) (items : List α) : Traced β :=
  loopFrom step [] state items

/-- What was called before a part of the loop stands before what the part calls. -/
theorem loopFrom_eq (step : β → α → Traced (ForInStep β)) (done : List Call) (state : β)
    (items : List α) :
    loopFrom step done state items =
      ⟨done.reverse ++ (loop step state items).calls, (loop step state items).outcome⟩ := by
  unfold loop
  induction items generalizing done state with
  | nil => simp [loopFrom]
  | cons item rest hypothesis =>
    simp only [loopFrom]
    split
    · rw [hypothesis, hypothesis (List.reverseAux _ [])]
      simp [List.reverseAux_eq]
    · simp [List.reverseAux_eq]
    · simp [List.reverseAux_eq]

@[simp] theorem loop_nil (step : β → α → Traced (ForInStep β)) (state : β) :
    loop step state [] = pure state := rfl

/-- **A loop takes one step, and goes on unless the step ended it.** -/
theorem loop_cons (step : β → α → Traced (ForInStep β)) (state : β) (item : α) (rest : List α) :
    loop step state (item :: rest) = step state item >>= fun
      | .yield next => loop step next rest
      | .done last => pure last := by
  unfold loop
  simp only [loopFrom]
  split
  · rename_i stepped
    rw [loopFrom_eq, stepped, bind_of_ok rfl]
    simp [List.reverseAux_eq, loop]
  · rename_i stepped
    rw [stepped, bind_of_ok rfl]
    simp [List.reverseAux_eq]
  · rename_i stepped
    rw [stepped, bind_of_error rfl]
    simp [List.reverseAux_eq]

/-! ### Loops of the evaluator -/

/-- Folds the items into a state, in order. -/
def fold (step : β → α → Traced β) (state : β) (items : List α) : Traced β :=
  loop (fun state item => .yield <$> step state item) state items

/-- Some item passes a test. Nothing is tested after the first that does. -/
def any (test : α → Traced Bool) (items : List α) : Traced Bool :=
  loop (fun _ item => (fun found => if found then .done true else .yield false) <$> test item)
    false items

/-- Every item passes a test. Nothing is tested after the first that does not. -/
def all (test : α → Traced Bool) (items : List α) : Traced Bool :=
  loop (fun _ item => (fun passed => if passed then .yield true else .done false) <$> test item)
    true items

/-- The results of all items, in order. -/
def each (step : α → Traced β) (items : List α) : Traced (List β) :=
  List.reverse <$>
    loop (fun found item => (fun result => .yield (result :: found)) <$> step item) [] items

/-- The results of all items, joined in order. -/
def expand (step : α → Traced (List β)) (items : List α) : Traced (List β) :=
  List.flatten <$> each step items

/-- The items that pass a test, tested in order. -/
def select (test : α → Traced Bool) (items : List α) : Traced (List α) :=
  expand (fun item => (fun kept => if kept then [item] else []) <$> test item) items

@[simp] theorem fold_nil (step : β → α → Traced β) (state : β) :
    fold step state [] = pure state := rfl

theorem fold_cons (step : β → α → Traced β) (state : β) (item : α) (rest : List α) :
    fold step state (item :: rest) = step state item >>= fun next => fold step next rest := by
  simp only [fold, loop_cons, bind_map_left]

@[simp] theorem any_nil (test : α → Traced Bool) : any test [] = pure false := rfl

theorem any_cons (test : α → Traced Bool) (item : α) (rest : List α) :
    any test (item :: rest) =
      test item >>= fun found => if found then pure true else any test rest := by
  simp only [any, loop_cons, bind_map_left]
  congr 1
  funext found
  cases found <;> rfl

@[simp] theorem all_nil (test : α → Traced Bool) : all test [] = pure true := rfl

theorem all_cons (test : α → Traced Bool) (item : α) (rest : List α) :
    all test (item :: rest) =
      test item >>= fun passed => if passed then all test rest else pure false := by
  simp only [all, loop_cons, bind_map_left]
  congr 1
  funext passed
  cases passed <;> rfl

/-- What was collected before a part of the loop stands before what the part collects. -/
theorem reverse_loop_collect (step : α → Traced β) (found : List β) (items : List α) :
    List.reverse <$>
        loop (fun found item => (fun result => .yield (result :: found)) <$> step item) found
          items =
      (found.reverse ++ ·) <$> each step items := by
  unfold each
  induction items generalizing found with
  | nil => simp
  | cons item rest hypothesis =>
    simp only [loop_cons, bind_map_left, map_bind, Functor.map_map]
    congr 1
    funext result
    have earlier := hypothesis (result :: found)
    have alone := hypothesis [result]
    simp only [Functor.map_map] at earlier alone ⊢
    rw [earlier]
    have widened := congrArg ((found.reverse ++ ·) <$> ·) alone
    simp only [Functor.map_map] at widened
    rw [widened]
    simp

@[simp] theorem each_nil (step : α → Traced β) : each step [] = pure [] := rfl

theorem each_cons (step : α → Traced β) (item : α) (rest : List α) :
    each step (item :: rest) =
      step item >>= fun result => (result :: ·) <$> each step rest := by
  rw [each, loop_cons]
  simp only [bind_map_left, map_bind]
  congr 1
  funext result
  exact reverse_loop_collect step [result] rest

@[simp] theorem expand_nil (step : α → Traced (List β)) : expand step [] = pure [] := rfl

theorem expand_cons (step : α → Traced (List β)) (item : α) (rest : List α) :
    expand step (item :: rest) =
      step item >>= fun results => (results ++ ·) <$> expand step rest := by
  simp only [expand, each_cons, map_bind, Functor.map_map, List.flatten_cons]

@[simp] theorem select_nil (test : α → Traced Bool) : select test [] = pure [] := rfl

theorem select_cons (test : α → Traced Bool) (item : α) (rest : List α) :
    select test (item :: rest) =
      test item >>= fun kept =>
        (fun others => if kept then item :: others else others) <$> select test rest := by
  simp only [select, expand_cons, bind_map_left]
  congr 1
  funext kept
  cases kept <;> simp

/-- **A test that never fails selects what a plain filter keeps.** -/
theorem outcome_select_of_ok (test : α → Traced Bool) (decision : α → Bool) (items : List α)
    (decides : ∀ item ∈ items, (test item).outcome = .ok (decision item)) :
    (select test items).outcome = .ok (items.filter decision) := by
  induction items with
  | nil => rfl
  | cons item rest hypothesis =>
    have tail := hypothesis fun later member => decides later (List.mem_cons_of_mem _ member)
    have head := decides item List.mem_cons_self
    simp only [select_cons, outcome_bind, head, outcome_map, tail]
    cases kept : decision item <;> simp [kept, bind, Except.bind, Except.map]

/-- **A test that never fails finds what a plain search finds.** -/
theorem outcome_any_of_ok (test : α → Traced Bool) (decision : α → Bool) (items : List α)
    (decides : ∀ item ∈ items, (test item).outcome = .ok (decision item)) :
    (any test items).outcome = .ok (items.any decision) := by
  induction items with
  | nil => rfl
  | cons item rest hypothesis =>
    have tail := hypothesis fun later member => decides later (List.mem_cons_of_mem _ member)
    have head := decides item List.mem_cons_self
    simp only [any_cons, outcome_bind, head]
    cases found : decision item <;> simp [found, bind, Except.bind, tail]

end Traced

end RuleNet
