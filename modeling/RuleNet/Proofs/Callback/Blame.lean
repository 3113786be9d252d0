/-
**Whose fault a failure is.**

Once a network is well formed, evaluating it can fail only because of a callback: its body failed,
or it was given arguments that it does not take, or it promised a vector and returned something
else.

* `Callback`: a predicate, an invocation or an aggregate function;
* `Blame`: a failure is that of one of some callbacks, and if a body failed, the call is on record;
* `Traced.Blames`: a computation fails only through some callbacks. Sequences and loops of such
  computations are such computations.
-/

import RuleNet.Match.Operator
import RuleNet.Proofs.Callback.Loops

namespace RuleNet

/-- A function given from outside. -/
inductive Callback where
  | predicate (predicate : Predicate)
  | invocation (invocation : Invocation)
  | aggregate (function : Aggregate)

namespace Callback

/-- The call runs the body of the callback, which fails. -/
def Fails (callback : Callback) (call : Call) (failure : Failure) : Prop :=
  match callback with
  | .predicate test =>
    call.use = .predicate ∧ call.key = test.key ∧ test.body call.args = .error failure
  | .invocation function =>
    call.use = .invocation ∧ call.key = function.key ∧ function.body call.args = .error failure
  | .aggregate function =>
    call.use = .aggregate ∧ call.key = function.key ∧
      ((∃ state input, call.args = [state, input] ∧ function.step state input = .error failure) ∨
        ∃ state, call.args = [state] ∧ function.finish state = .error failure)

/-- The callback is given a number of arguments that it does not take, or does not return the
vector that it promised. -/
def Refuses (callback : Callback) (failure : Failure) : Prop :=
  match callback with
  | .predicate test =>
    ∃ arity, test.arity = some arity ∧ ∃ given ≠ arity,
      failure = ⟨.evaluator test.key
        ("expected " ++ toString arity ++ " argument(s), got " ++ toString given), none⟩
  | .invocation function =>
    ∃ args result, function.body args = .ok result ∧
      Operator.candidates function result = .error failure
  | .aggregate _ => False

/-- Nothing that a callback refuses is a flaw of the network. -/
theorem Refuses.kind_ne {callback : Callback} {failure : Failure}
    (refused : callback.Refuses failure) : failure.kind ≠ .structural := by
  cases callback with
  | predicate test =>
    obtain ⟨arity, _, given, _, rfl⟩ := refused
    simp [Failure.kind, Fault.kind]
  | invocation function =>
    obtain ⟨args, result, _, failed⟩ := refused
    unfold Operator.candidates at failed
    split at failed
    · split at failed
      · cases failed
      · cases failed
      · cases failed
        simp [Failure.kind, Fault.kind]
    · cases failed
  | aggregate function => exact refused.elim

end Callback

/-- **The failure is that of one of the callbacks**, and a call that failed is on record. -/
def Blame (callbacks : List Callback) (calls : List Call) (failure : Failure) : Prop :=
  ∃ callback ∈ callbacks,
    (∃ call ∈ calls, callback.Fails call failure) ∨ callback.Refuses failure

theorem Blame.mono {callbacks more : List Callback} {calls others : List Call} {failure : Failure}
    (blame : Blame callbacks calls failure) (known : ∀ callback ∈ callbacks, callback ∈ more)
    (recorded : ∀ call ∈ calls, call ∈ others) : Blame more others failure := by
  obtain ⟨callback, member, ⟨call, made, fails⟩ | refuses⟩ := blame
  · exact ⟨callback, known callback member, Or.inl ⟨call, recorded call made, fails⟩⟩
  · exact ⟨callback, known callback member, Or.inr refuses⟩

namespace Traced

variable {α β : Type} {callbacks : List Callback}

/-- **The computation fails only through some callbacks.** -/
def Blames (callbacks : List Callback) (traced : Traced α) : Prop :=
  ∀ failure, traced.outcome = .error failure → Blame callbacks traced.calls failure

theorem Blames.mono {more : List Callback} {traced : Traced α} (blames : traced.Blames callbacks)
    (known : ∀ callback ∈ callbacks, callback ∈ more) : traced.Blames more :=
  fun failure fails => (blames failure fails).mono known fun _ made => made

theorem blames_of_ok {traced : Traced α} {value : α} (succeeds : traced.outcome = .ok value) :
    traced.Blames callbacks := by
  intro failure fails
  rw [succeeds] at fails
  cases fails

theorem blames_pure (value : α) : (pure value : Traced α).Blames callbacks :=
  blames_of_ok (outcome_pure value)

/-- **A sequence fails through what its parts fail through.** -/
theorem blames_bind {first : Traced α} {next : α → Traced β} (head : first.Blames callbacks)
    (tail : ∀ value, first.outcome = .ok value → (next value).Blames callbacks) :
    (first >>= next).Blames callbacks := by
  intro failure fails
  cases ended : first.outcome with
  | error other =>
    rw [bind_of_error ended] at fails ⊢
    cases fails
    exact head failure ended
  | ok value =>
    rw [bind_of_ok ended] at fails ⊢
    exact (tail value ended failure fails).mono (fun _ known => known)
      fun _ made => List.mem_append_right _ made

theorem blames_map {traced : Traced α} (change : α → β) (blames : traced.Blames callbacks) :
    (change <$> traced).Blames callbacks := by
  intro failure fails
  exact blames failure (Outcome.map_eq_error.mp fails)

/-- **A loop fails through what its steps fail through.** -/
theorem blames_loop {step : β → α → Traced (ForInStep β)} {state : β} {items : List α}
    (each : ∀ state, ∀ item ∈ items, (step state item).Blames callbacks) :
    (loop step state items).Blames callbacks := by
  induction items generalizing state with
  | nil => exact blames_pure state
  | cons item rest hypothesis =>
    rw [loop_cons]
    refine blames_bind (each state item List.mem_cons_self) fun stepped _ => ?_
    cases stepped with
    | done last => exact blames_pure last
    | yield next =>
      exact hypothesis fun state later member => each state later (List.mem_cons_of_mem _ member)

section

variable {items : List α}

theorem blames_fold {step : β → α → Traced β} {state : β}
    (each : ∀ state, ∀ item ∈ items, (step state item).Blames callbacks) :
    (fold step state items).Blames callbacks :=
  blames_loop fun state item member => blames_map _ (each state item member)

theorem blames_any {test : α → Traced Bool}
    (each : ∀ item ∈ items, (test item).Blames callbacks) : (any test items).Blames callbacks :=
  blames_loop fun _ item member => blames_map _ (each item member)

theorem blames_all {test : α → Traced Bool}
    (each : ∀ item ∈ items, (test item).Blames callbacks) : (all test items).Blames callbacks :=
  blames_loop fun _ item member => blames_map _ (each item member)

theorem blames_each {step : α → Traced β}
    (each : ∀ item ∈ items, (step item).Blames callbacks) :
    (Traced.each step items).Blames callbacks :=
  blames_map _ (blames_loop fun _ item member => blames_map _ (each item member))

theorem blames_expand {step : α → Traced (List β)}
    (each : ∀ item ∈ items, (step item).Blames callbacks) : (expand step items).Blames callbacks :=
  blames_map _ (blames_each each)

theorem blames_select {test : α → Traced Bool}
    (each : ∀ item ∈ items, (test item).Blames callbacks) : (select test items).Blames callbacks :=
  blames_expand fun item member => blames_map _ (each item member)

end

end Traced

/-! ### Single callbacks -/

theorem Predicate.blames_test (predicate : Predicate) (args : List Value) :
    (predicate.test args).Blames [.predicate predicate] := by
  have run : (Traced.ofCall ⟨.predicate, predicate.key, args⟩ (predicate.body args)).Blames
      [.predicate predicate] := fun failure fails =>
    ⟨_, List.mem_singleton.mpr rfl, Or.inl ⟨_, List.mem_singleton.mpr rfl, rfl, rfl, fails⟩⟩
  unfold test
  split
  · exact run
  · rename_i arity named
    by_cases same : args.length = arity
    · rw [if_pos same]
      exact run
    · rw [if_neg same]
      intro failure fails
      cases fails
      exact ⟨_, List.mem_singleton.mpr rfl, Or.inr ⟨arity, named, args.length, same, rfl⟩⟩

theorem Aggregate.blames_run (function : Aggregate) (inputs : List Value) :
    (function.run inputs).Blames [.aggregate function] := by
  unfold run
  refine Traced.blames_bind (Traced.blames_fold fun state input _ => ?_) fun state _ => ?_
  · intro failure fails
    exact ⟨_, List.mem_singleton.mpr rfl, Or.inl ⟨_, List.mem_singleton.mpr rfl, rfl, rfl,
      Or.inl ⟨state, input, rfl, fails⟩⟩⟩
  · intro failure fails
    exact ⟨_, List.mem_singleton.mpr rfl, Or.inl ⟨_, List.mem_singleton.mpr rfl, rfl, rfl,
      Or.inr ⟨state, rfl, fails⟩⟩⟩

theorem Invocation.blames_call (invocation : Invocation) (args : List Value) :
    (invocation.call args).Blames [.invocation invocation] :=
  fun _ fails =>
    ⟨_, List.mem_singleton.mpr rfl, Or.inl ⟨_, List.mem_singleton.mpr rfl, rfl, rfl, fails⟩⟩

/-- A result that stands for no values was not promised. -/
theorem Invocation.blames_candidates {invocation : Invocation} {args : List Value} {result : Value}
    (returned : (invocation.call args).outcome = .ok result) :
    (Traced.ofOutcome (Operator.candidates invocation result)).Blames [.invocation invocation] :=
  fun _ fails => ⟨_, List.mem_singleton.mpr rfl, Or.inr ⟨args, result, returned, fails⟩⟩

end RuleNet
