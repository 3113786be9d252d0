/-
**What a compile error can say.**

The compiler checks its own cursors and the network at every step, and has a fault for each check
that could fail. No rule gets that far: what a compilation fails with is about the rule, or the ids
ran out.

* `Fault.OfRule`: what can be wrong with a rule;
* `Fault.Internal`: what the compiler says about its own state;
* `Outline.Fair`: a step that fails only with faults of the rule;
* `Outline.condition_fair`, `Outline.rule_fair`: **views and rules**;
* `addRule_ofRule`: **so are the errors of a knowledge base**.
-/

import RuleNet.Proofs.Build.Frames

namespace RuleNet

open Stateful

/-! ### Faults -/

namespace Fault

/-- **What can be wrong with a rule**: it is of a shape that is not supported, something reads a
variable that nothing has bound, or there are too many nodes. -/
inductive OfRule : Fault → Prop
  | unsupported (what : Unsupported) : OfRule (.unsupported what)
  | unbound (reader : String) (v : Variable) : OfRule (.structural (.unbound reader v))
  | exhausted (bound : Nat) : OfRule (.limit (.nodes bound))

/-- **What the compiler says about its own state**: a cursor is missing or left over, a chain of
objects never reaches a node of a known type, or the root of a stream is none. -/
inductive Internal : Fault → Prop
  | noObjectCursor (reader : String) : Internal (.structural (.noObjectCursor reader))
  | noTupleCursor (reader : String) : Internal (.structural (.noTupleCursor reader))
  | cursorsLeft (object tuple : Option NodeId) : Internal (.structural (.cursorsLeft object tuple))
  | noObjectTypeAbove (object : NodeId) : Internal (.structural (.noObjectTypeAbove object))
  | notStreamRoot (stream : String) (root : NodeId) :
    Internal (.structural (.notStreamRoot stream root))

theorem OfRule.not_internal {fault : Fault} (ofRule : fault.OfRule) : ¬ fault.Internal := by
  intro internal
  cases ofRule <;> cases internal

end Fault

/-! ### Checks -/

/-- **An outcome that fails only with faults of the rule.** -/
def Outcome.Fair {α : Type} (outcome : Outcome α) : Prop :=
  ∀ failure, outcome = .error failure → failure.fault.OfRule

namespace Outcome

variable {α β : Type}

theorem fair_ok (value : α) : Fair (.ok value) :=
  fun _ fails => nomatch fails

theorem Fair.bind {outcome : Outcome α} {next : α → Outcome β} (first : outcome.Fair)
    (rest : ∀ value, (next value).Fair) : (outcome >>= next).Fair := by
  cases outcome with
  | ok value => exact rest value
  | error failure =>
    intro other fails
    cases fails
    exact first failure rfl

theorem fair_mapM {step : α → Outcome β} (each : ∀ item, (step item).Fair) (items : List α) :
    Fair (items.mapM step) := by
  induction items with
  | nil => exact fair_ok _
  | cons item rest hypothesis =>
    rw [List.mapM_cons]
    exact (each item).bind fun _ => hypothesis.bind fun _ => fair_ok _

end Outcome

section

variable {context : BuildContext} {own : Variable}

theorem BuildContext.fair_requireOffset (v : Variable) (reader : String) :
    (context.requireOffset v reader).Fair := by
  unfold requireOffset
  split
  · exact Outcome.fair_ok _
  · intro failure fails
    cases fails
    exact .unbound reader v

namespace SingleConstraint

theorem fair_classOf (key : String) (seen : ConstraintClass) (reads : List Variable) :
    (classOf key own context seen reads).Fair := by
  induction reads generalizing seen with
  | nil => exact Outcome.fair_ok _
  | cons v rest hypothesis =>
    rw [classOf]
    split
    · exact hypothesis seen
    · split
      · intro failure fails
        cases fails
        exact .unbound _ v
      · exact hypothesis .beta

theorem fair_classify (single : SingleConstraint) : (single.classify own context).Fair := by
  unfold classify
  split
  · exact Outcome.fair_ok _
  · exact fair_classOf _ _ _

theorem fair_bindAll (singles : List SingleConstraint) : (bindAll singles own context).Fair := by
  refine Outcome.fair_mapM (fun single => ?_) singles
  refine Outcome.Fair.bind (Outcome.fair_mapM (fun v => ?_) _) fun _ => Outcome.fair_ok _
  split
  · exact Outcome.fair_ok _
  · exact (BuildContext.fair_requireOffset v _).bind fun _ => Outcome.fair_ok _

end SingleConstraint

theorem Classified.fair_partition (singles : List SingleConstraint) :
    (partition own context singles).Fair := by
  induction singles with
  | nil => exact Outcome.fair_ok _
  | cons single rest hypothesis =>
    rw [partition]
    exact (SingleConstraint.fair_classify single).bind fun _ =>
      hypothesis.bind fun _ => Outcome.fair_ok _

end

/-- Ids run out at a number of nodes. -/
theorem IdSupply.fair_next (supply : IdSupply) : supply.next.Fair := by
  unfold next
  split
  · exact Outcome.fair_ok _
  · intro failure fails
    cases fails
    exact .exhausted bound

/-! ### Steps -/

namespace Outline

variable {α β : Type}

/-- **A step that fails only with faults of the rule.** -/
def Fair (step : Stateful Outline α) : Prop :=
  ∀ outline, Ensures step outline (fun _ _ => True) fun failure _ => failure.fault.OfRule

theorem fair_pure (value : α) : Fair (pure value : Stateful Outline α) :=
  fun _ => trivial

theorem fair_get : Fair (get : Stateful Outline Outline) :=
  fun _ => trivial

theorem fair_scope : Fair scope :=
  fun _ => trivial

theorem fair_modify (change : Outline → Outline) : Fair (modify change : Stateful Outline Unit) :=
  fun _ => trivial

theorem fair_modifyContext (change : BuildContext → BuildContext) : Fair (modifyContext change) :=
  fun _ => trivial

theorem fair_throw {fault : Fault} (ofRule : fault.OfRule) (place : Option Place) :
    Fair (throw ⟨fault, place⟩ : Stateful Outline α) :=
  fun _ => ofRule

theorem fair_ofOutcome {outcome : Outcome α} (fair : outcome.Fair) : Fair (ofOutcome outcome) := by
  intro outline
  cases outcome with
  | ok value => trivial
  | error failure => exact fair failure rfl

/-- **A sequence of fair steps is fair.** -/
theorem Fair.bind {step : Stateful Outline α} {next : α → Stateful Outline β} (first : Fair step)
    (rest : ∀ value, Fair (next value)) : Fair (step >>= next) :=
  fun outline => (ensures_bind step next).mpr
    ((first outline).mono (fun value after _ => rest value after) fun _ _ failed => failed)

theorem fair_forM {step : α → Stateful Outline PUnit} (items : List α)
    (each : ∀ item, Fair (step item)) : Fair (items.forM step) := by
  induction items with
  | nil => exact fair_pure _
  | cons item rest hypothesis =>
    show Fair (step item >>= fun _ => rest.forM step)
    exact (each item).bind fun _ => hypothesis

theorem spend_fair : Fair spend :=
  fair_get.bind fun known => (fair_ofOutcome known.ledger.ids.fair_next).bind fun _ =>
    (fair_modify _).bind fun _ => fair_pure _

theorem entryPointRoot_fair (name : String) : Fair (entryPointRoot name) := by
  refine fair_get.bind fun known => ?_
  split
  · exact fair_pure _
  · exact spend_fair.bind fun _ => fair_modify _

theorem streamRoot_fair (name : String) (type : ObjectType) : Fair (streamRoot name type) := by
  refine fair_get.bind fun known => ?_
  split
  · exact fair_pure _
  · exact spend_fair.bind fun _ => (fair_modify _).bind fun _ => fair_pure _

theorem narrow_fair (source : Source) (type : ObjectType) : Fair (narrow source type) := by
  refine fair_get.bind fun known => ?_
  split
  · exact fair_pure _
  · exact spend_fair.bind fun _ => fair_modify _

theorem extend_fair : Fair extend :=
  spend_fair.bind fun _ => fair_modify _

theorem start_fair (needed : Bool) : Fair (start needed) := by
  refine fair_get.bind fun known => ?_
  split
  · exact (entryPointRoot_fair _).bind fun _ => (narrow_fair _ _).bind fun _ =>
      extend_fair.bind fun _ => fair_modifyContext _
  · exact fair_pure _

theorem readSource_fair (source : Source) (type : ObjectType) : Fair (readSource source type) := by
  cases source with
  | entryPoint name => exact (entryPointRoot_fair name).bind fun _ => narrow_fair _ _
  | stream name =>
    refine (streamRoot_fair name type).bind fun carried => ?_
    split
    · exact fair_pure _
    · split
      · exact narrow_fair _ _
      · exact fair_throw (.unsupported _) _

theorem objects_fair (leaf : Pattern) : Fair (objects leaf) :=
  (readSource_fair _ _).bind fun _ => fair_scope.bind fun _ =>
    (fair_ofOutcome (Classified.fair_partition _)).bind fun _ =>
      fair_forM _ fun _ => spend_fair.bind fun _ => fair_pure _

theorem use_fair (leaf : Pattern) : Fair (use leaf) := by
  unfold use
  cases leaf.use with
  | plain | existential =>
    exact (objects_fair leaf).bind fun _ => extend_fair.bind fun _ => fair_modifyContext _
  | accumulate bindings =>
    exact (objects_fair leaf).bind fun _ => (fair_modifyContext _).bind fun _ => extend_fair
  | invoke invocation =>
    refine fair_scope.bind fun known => ?_
    refine (fair_ofOutcome (Outcome.fair_mapM (fun param => ?_) _)).bind fun _ => ?_
    · exact BuildContext.fair_requireOffset param _
    exact (fair_ofOutcome (SingleConstraint.fair_bindAll _)).bind fun _ =>
      extend_fair.bind fun _ => fair_modifyContext _

theorem framed_fair (frame : String) {step : Stateful Outline Unit} (inside : Fair step) :
    Fair (framed frame step) :=
  (fair_modifyContext _).bind fun _ => inside.bind fun _ => fair_modifyContext _

/-! ### Views and rules -/

mutual

/-- **A view fails only with faults of the rule.** -/
theorem condition_fair (view : Condition) : Fair (condition view) := by
  cases view with
  | pattern leaf =>
    exact (fair_modifyContext _).bind fun _ => fair_scope.bind fun _ =>
      framed_fair _ ((start_fair _).bind fun _ => use_fair leaf)
  | and parts => exact framed_fair _ (conditions_fair parts)
  | or _ => exact framed_fair _ (fair_throw (.unsupported _) _)
  | objectPath path => exact framed_fair _ (fair_throw (.unsupported _) _)
termination_by structural view

theorem conditions_fair (parts : List Condition) : Fair (conditions parts) := by
  cases parts with
  | nil => exact fair_pure _
  | cons part rest => exact (condition_fair part).bind fun _ => conditions_fair rest
termination_by structural parts

end

theorem terminal_fair (whole : Rule) : Fair (terminal whole) :=
  (fair_modifyContext _).bind fun _ => fair_scope.bind fun _ =>
    (fair_ofOutcome (Outcome.fair_mapM (fun v => BuildContext.fair_requireOffset v _) _)).bind
      fun _ => spend_fair.bind fun _ => (fair_modify _).bind fun _ =>
        (fair_modifyContext _).bind fun _ => fair_pure _

/-- **So does a rule.** -/
theorem rule_fair (whole : Rule) : Fair (rule whole) :=
  (condition_fair whole.view).bind fun _ => (start_fair true).bind fun _ => terminal_fair whole

end Outline

/-! ### The compiler -/

/-- **A view that does not compile is at fault itself**, wherever the compiler stands between
patterns. -/
theorem Build.condition_ofRule {bench : Workbench} (between : Build.Between bench)
    (view : Condition) :
    Ensures (Build.condition view) bench (fun _ _ => True) fun failure _ =>
      failure.fault.OfRule :=
  Ensures.mono (Build.condition_outlined view bench between) (fun _ _ _ => trivial)
    fun _ _ failed =>
      (Outline.condition_fair view bench.outline).of_error (congrArg Prod.fst failed)

/-- **The errors of a knowledge base are faults of the rules.** -/
theorem KnowledgeBase.Grown.addRule_ofRule {config : BuildConfig}
    {attempts : List (Rule × Outcome RuleHandle)} {kb : KnowledgeBase}
    (grown : Grown config .standard attempts kb) {rule : Rule} {failure : Failure}
    (fails : (kb.addRule rule).outcome = .error failure) : failure.fault.OfRule := by
  obtain ⟨cause, after, ended, rfl, _⟩ := grown.addRule_failure fails
  show cause.fault.OfRule
  exact (Outline.rule_fair rule _).of_error (congrArg Prod.fst ended)

end RuleNet
