/-
**Steps that keep their state when they fail.**

The builder and the evaluator are written in one style: a step can fail, and what it did to its
state before it failed stays done. Statements about such a step therefore speak of two ends.

* `result`: the outcome of a step and the state it leaves;
* `Ensures`: what holds of the value and the state after a success, and what holds of the failure
  and the state after a failure;
* `ensures_bind`: the two ends of a sequence are the ends of its parts, so that a step is taken
  apart by `simp` and the statements about its parts are put in by `Ensures.mono`.
-/

import RuleNet.Failure

namespace RuleNet

/-- A step that can fail and keeps its state when it does. -/
abbrev Stateful (σ α : Type) := ExceptT Failure (StateM σ) α

namespace Stateful

variable {σ α β : Type}

/-- The outcome of a step, and the state it leaves. -/
def result (step : Stateful σ α) (start : σ) : Outcome α × σ :=
  step.run.run start

/-- **The two ends of a step**: `good` of a success, `bad` of a failure. -/
def Ensures (step : Stateful σ α) (start : σ) (good : α → σ → Prop)
    (bad : Failure → σ → Prop) : Prop :=
  match result step start with
  | (.ok value, after) => good value after
  | (.error failure, after) => bad failure after

/-- The step leaves a property of the state as it is, however it ends. -/
def Keeps (property : σ → Prop) (step : Stateful σ α) : Prop :=
  ∀ start, property start →
    Ensures step start (fun _ after => property after) fun _ after => property after

variable {start : σ} {good : α → σ → Prop} {bad : Failure → σ → Prop}

/-! ### Single steps -/

theorem result_bind (step : Stateful σ α) (next : α → Stateful σ β) (start : σ) :
    result (step >>= next) start =
      match result step start with
      | (.ok value, after) => result (next value) after
      | (.error failure, after) => (.error failure, after) := by
  show (ExceptT.run (ExceptT.bind step next)).run start = _
  simp only [ExceptT.run, ExceptT.bind, ExceptT.mk, result, StateT.run, bind, StateT.bind]
  cases ended : step start with
  | mk outcome after => cases outcome <;> rfl

@[simp] theorem result_pure (value : α) (start : σ) :
    result (pure value : Stateful σ α) start = (.ok value, start) := rfl

@[simp] theorem result_throw (failure : Failure) (start : σ) :
    result (throw failure : Stateful σ α) start = (.error failure, start) := rfl

/-- **A failure that is caught** goes on from the state that the failing step left. -/
theorem result_tryCatch (step : Stateful σ α) (handle : Failure → Stateful σ α) (start : σ) :
    result (tryCatch step handle) start =
      match result step start with
      | (.ok value, after) => (.ok value, after)
      | (.error failure, after) => result (handle failure) after := by
  show (ExceptT.run (ExceptT.tryCatch step handle)).run start = _
  simp only [ExceptT.run, ExceptT.tryCatch, ExceptT.mk, result, StateT.run, bind, StateT.bind]
  cases ended : step start with
  | mk outcome after => cases outcome <;> rfl

@[simp] theorem result_get (start : σ) :
    result (get : Stateful σ σ) start = (.ok start, start) := rfl

@[simp] theorem result_modify (change : σ → σ) (start : σ) :
    result (modify change : Stateful σ Unit) start = (.ok (), change start) := rfl

@[simp] theorem ensures_pure (value : α) :
    Ensures (pure value : Stateful σ α) start good bad ↔ good value start := Iff.rfl

@[simp] theorem ensures_throw (failure : Failure) :
    Ensures (throw failure : Stateful σ α) start good bad ↔ bad failure start := Iff.rfl

/-- **The ends of a sequence.** -/
@[simp] theorem ensures_bind (step : Stateful σ β) (next : β → Stateful σ α) :
    Ensures (step >>= next) start good bad ↔
      Ensures step start (fun value after => Ensures (next value) after good bad) bad := by
  simp only [Ensures, result_bind]
  cases result step start with
  | mk outcome after => cases outcome <;> rfl

@[simp] theorem ensures_get {good : σ → σ → Prop} :
    Ensures (get : Stateful σ σ) start good bad ↔ good start start := Iff.rfl

@[simp] theorem ensures_modify {good : Unit → σ → Prop} (change : σ → σ) :
    Ensures (modify change : Stateful σ Unit) start good bad ↔ good () (change start) := Iff.rfl

@[simp] theorem ensures_tryCatch (step : Stateful σ α) (handle : Failure → Stateful σ α) :
    Ensures (tryCatch step handle) start good bad ↔
      Ensures step start good fun failure after => Ensures (handle failure) after good bad := by
  simp only [Ensures, result_tryCatch]
  cases result step start with
  | mk outcome after => cases outcome <;> rfl

/-! ### Weaker ends -/

theorem Ensures.mono {step : Stateful σ α} {wide : α → σ → Prop} {worse : Failure → σ → Prop}
    (ensured : Ensures step start good bad)
    (onGood : ∀ value after, good value after → wide value after)
    (onBad : ∀ failure after, bad failure after → worse failure after) :
    Ensures step start wide worse := by
  unfold Ensures at ensured ⊢
  cases ended : result step start with
  | mk outcome after =>
    rw [ended] at ensured
    cases outcome with
    | ok value => exact onGood value after ensured
    | error failure => exact onBad failure after ensured

/-- Two statements about one step. -/
theorem Ensures.both {step : Stateful σ α} {better : α → σ → Prop} {worse : Failure → σ → Prop}
    (first : Ensures step start good bad) (second : Ensures step start better worse) :
    Ensures step start (fun value after => good value after ∧ better value after)
      fun failure after => bad failure after ∧ worse failure after := by
  unfold Ensures at first second ⊢
  cases ended : result step start with
  | mk outcome after =>
    rw [ended] at first second
    cases outcome <;> exact ⟨first, second⟩

/-! ### Properties that a step keeps -/

section

variable {property : σ → Prop}

theorem keeps_pure (value : α) : Keeps property (pure value : Stateful σ α) :=
  fun _ held => held

theorem keeps_throw (failure : Failure) : Keeps property (throw failure : Stateful σ α) :=
  fun _ held => held

/-- **A sequence keeps what its parts keep.** -/
theorem keeps_bind {step : Stateful σ β} {next : β → Stateful σ α} (first : Keeps property step)
    (others : ∀ value, Keeps property (next value)) : Keeps property (step >>= next) :=
  fun start held => (ensures_bind step next).mpr
    ((first start held).mono (fun value after kept => others value after kept)
      fun _ _ kept => kept)

theorem keeps_forM {step : β → Stateful σ PUnit} {items : List β}
    (each : ∀ item ∈ items, Keeps property (step item)) : Keeps property (items.forM step) := by
  induction items with
  | nil => exact keeps_pure _
  | cons item rest hypothesis =>
    show Keeps property (step item >>= fun _ => rest.forM step)
    exact keeps_bind (each item List.mem_cons_self) fun _ =>
      hypothesis fun other later => each other (List.mem_cons_of_mem _ later)

end

/-! ### Reading the ends off a result -/

/-- A success, read off the result. -/
theorem Ensures.of_ok {step : Stateful σ α} {value : α} (ensured : Ensures step start good bad)
    (succeeds : (result step start).1 = .ok value) : good value (result step start).2 := by
  unfold Ensures at ensured
  cases ended : result step start with
  | mk outcome after =>
    rw [ended] at ensured succeeds
    cases succeeds
    exact ensured

/-- A failure, read off the result. -/
theorem Ensures.of_error {step : Stateful σ α} {failure : Failure}
    (ensured : Ensures step start good bad)
    (fails : (result step start).1 = .error failure) : bad failure (result step start).2 := by
  unfold Ensures at ensured
  cases ended : result step start with
  | mk outcome after =>
    rw [ended] at ensured fails
    cases fails
    exact ensured

/-- What holds of the state at both ends. -/
theorem Ensures.either {step : Stateful σ α} {property : σ → Prop}
    (ensured : Ensures step start (fun _ after => property after) fun _ after => property after) :
    property (result step start).2 := by
  unfold Ensures at ensured
  cases ended : result step start with
  | mk outcome after =>
    rw [ended] at ensured
    cases outcome <;> exact ensured

end Stateful

end RuleNet
