/-
**How adding a rule ends, to the last event.**

A rule is compiled on an opened bench. What it was compiled to is then kept or taken out again, and
the tracer is told which.

* `KnowledgeBase.opening`: the bench on which a rule is compiled;
* `KnowledgeBase.compiled`: the builder at the end of the compilation, before the transaction is
  closed. It holds everything that the rule added, also if it failed;
* `addRule_ok`, `addRule_error`: **what an added rule leaves**, exactly.
-/

import RuleNet.Proofs.Build.History

namespace RuleNet

open Stateful

namespace KnowledgeBase

variable {kb : KnowledgeBase} {rule : Rule} {handle : RuleHandle} {failure : Failure}

/-- The bench on which a knowledge base compiles a rule. -/
def opening (kb : KnowledgeBase) (rule : Rule) : Workbench :=
  Builder.opening ⟨kb.builder, .new rule.name, []⟩ rule

/-- **The builder at the end of a compilation**, with everything that the rule added. -/
def compiled (kb : KnowledgeBase) (rule : Rule) : Builder :=
  (result (Build.rule rule) (kb.opening rule)).2.builder

/-- **The ends of adding a rule**, told by the end of its compilation. -/
theorem addRule_leaves (kb : KnowledgeBase) (rule : Rule) :
    Ensures (Builder.addRule rule) ⟨kb.builder, .new rule.name, []⟩
      (fun handle after =>
        handle = ⟨rule.name, rule.salience, handle.terminal, (kb.compiled rule).compiled⟩ ∧
          (result (Build.rule rule) (kb.opening rule)).1 = .ok handle.terminal ∧
          after.builder = (kb.compiled rule).committed.traced
            ((kb.compiled rule).tracer.recordAll [.ruleComplete rule.name handle.terminal]))
      fun failure after => after.builder = (kb.compiled rule).abandoned.traced
        ((kb.compiled rule).tracer.recordAll
          ((kb.compiled rule).failureEvents rule.name failure.message)) := by
  apply Builder.addRule_tells
  show Ensures _ (kb.opening rule) _ _
  unfold Ensures compiled
  cases result (Build.rule rule) (kb.opening rule) with
  | mk outcome after =>
    cases outcome with
    | ok terminal => exact fun _ => ⟨rfl, rfl, rfl⟩
    | error failure => exact fun _ => rfl

/-- **What an accepted rule leaves.** -/
theorem addRule_ok (added : (kb.addRule rule).outcome = .ok handle) :
    handle = ⟨rule.name, rule.salience, handle.terminal, (kb.compiled rule).compiled⟩ ∧
      (result (Build.rule rule) (kb.opening rule)).1 = .ok handle.terminal ∧
      (kb.addRule rule).after.builder = (kb.compiled rule).committed.traced
        ((kb.compiled rule).tracer.recordAll [.ruleComplete rule.name handle.terminal]) := by
  obtain ⟨outcome, builder⟩ := addRule_result kb rule
  rw [builder]
  exact (addRule_leaves kb rule).of_ok (outcome.symm.trans added)

/-- **What a rule that failed leaves.** -/
theorem addRule_error (fails : (kb.addRule rule).outcome = .error failure) :
    (kb.addRule rule).after.builder = (kb.compiled rule).abandoned.traced
      ((kb.compiled rule).tracer.recordAll
        ((kb.compiled rule).failureEvents rule.name failure.message)) := by
  obtain ⟨outcome, builder⟩ := addRule_result kb rule
  rw [builder]
  exact (addRule_leaves kb rule).of_error (outcome.symm.trans fails)

end KnowledgeBase

end RuleNet
