/-
**The histories of a knowledge base.**

A knowledge base changes when a rule is added to it, whether or not the rule compiles, and its
tracer can be set in between.

* `KnowledgeBase.Grown`: what was asked of a knowledge base so far, rule by rule, with the answers;
* `Grown.settled`: between rules the links are in order and no transaction is open;
* `addRule_error_unchanged`: **failed compilation is transactional**. With rollback, a rule that
  fails leaves the network, the registries and the list of rules exactly as they were.
-/

import RuleNet.Proofs.Build.Rollback

namespace RuleNet

namespace KnowledgeBase

/-- **The knowledge bases that can be reached**, with the rules they were asked to add and the
answers they gave, oldest first. -/
inductive Grown (config : BuildConfig) (factory : NodeFactory) :
    List (Rule × Outcome RuleHandle) → KnowledgeBase → Prop
  | new : Grown config factory [] (.new config factory)
  | addRule {attempts : List (Rule × Outcome RuleHandle)} {kb : KnowledgeBase}
      (grown : Grown config factory attempts kb) (rule : Rule) :
      Grown config factory (attempts ++ [(rule, (kb.addRule rule).outcome)]) (kb.addRule rule).after
  | trace {attempts : List (Rule × Outcome RuleHandle)} {kb : KnowledgeBase}
      (grown : Grown config factory attempts kb) (step : Tracer → Tracer × List LogLine) :
      Grown config factory attempts (kb.trace step).after

/-- The step of the builder behind an added rule, and what it starts from. -/
theorem addRule_result (kb : KnowledgeBase) (rule : Rule) :
    (kb.addRule rule).outcome =
        (Stateful.result (Builder.addRule rule) ⟨kb.builder, .new rule.name, []⟩).1 ∧
      (kb.addRule rule).after.builder =
        (Stateful.result (Builder.addRule rule) ⟨kb.builder, .new rule.name, []⟩).2.builder :=
  ⟨rfl, rfl⟩

/-- A rule that is accepted joins the rules. -/
theorem rules_of_ok {kb : KnowledgeBase} {rule : Rule} {handle : RuleHandle}
    (added : (kb.addRule rule).outcome = .ok handle) :
    (kb.addRule rule).after.rules = kb.rules ++ [handle] := by
  have answer := (addRule_result kb rule).1.symm.trans added
  show (match (Stateful.result (Builder.addRule rule) ⟨kb.builder, .new rule.name, []⟩).1 with
    | .ok handle => kb.rules ++ [handle]
    | .error _ => kb.rules) = _
  rw [answer]

/-- A rule that fails does not join the rules. -/
theorem rules_of_error {kb : KnowledgeBase} {rule : Rule} {failure : Failure}
    (fails : (kb.addRule rule).outcome = .error failure) :
    (kb.addRule rule).after.rules = kb.rules := by
  have answer := (addRule_result kb rule).1.symm.trans fails
  show (match (Stateful.result (Builder.addRule rule) ⟨kb.builder, .new rule.name, []⟩).1 with
    | .ok handle => kb.rules ++ [handle]
    | .error _ => kb.rules) = kb.rules
  rw [answer]

variable {config : BuildConfig} {factory : NodeFactory}
  {attempts : List (Rule × Outcome RuleHandle)} {kb : KnowledgeBase}

/-- What holds of a builder between rules, as long as the factory is orderly. -/
theorem Grown.settled (grown : Grown config factory attempts kb) (orderly : factory.Orderly) :
    kb.builder.Settled ∧ kb.builder.config = config ∧ kb.builder.factory = factory := by
  induction grown with
  | new => exact ⟨Builder.settled_new config factory, rfl, rfl⟩
  | @addRule attempts kb _ rule hypothesis =>
    obtain ⟨settled, sameConfig, sameFactory⟩ := hypothesis
    have ends := @Builder.addRule_ends ⟨kb.builder, .new rule.name, []⟩ settled
      (sameFactory ▸ orderly) rule
    obtain ⟨outcome, builder⟩ := addRule_result kb rule
    rw [builder]
    cases ended : (kb.addRule rule).outcome with
    | ok handle =>
      obtain ⟨after, config, factory⟩ := ends.of_ok (outcome.symm.trans ended)
      exact ⟨after, config.trans sameConfig, factory.trans sameFactory⟩
    | error failure =>
      obtain ⟨after, config, factory, _⟩ := ends.of_error (outcome.symm.trans ended)
      exact ⟨after, config.trans sameConfig, factory.trans sameFactory⟩
  | trace _ step hypothesis =>
    obtain ⟨settled, sameConfig, sameFactory⟩ := hypothesis
    exact ⟨{ settled with tidy := { settled.tidy with } }, sameConfig, sameFactory⟩

/-- **Failed compilation is transactional.** With rollback, a rule that fails leaves every node, the
roots, both registries and the list of rules as they were, and closes its transaction. Only the ids
and the requests to the factory that it used up, the number of compilations and the tracer differ.
-/
theorem addRule_error_unchanged (grown : Grown config factory attempts kb)
    (orderly : factory.Orderly) (rollback : config.rollback = true) {rule : Rule}
    {failure : Failure} (fails : (kb.addRule rule).outcome = .error failure) :
    ((kb.addRule rule).after.network = kb.network ∧
      (kb.addRule rule).after.builder.entryPoints = kb.builder.entryPoints ∧
      (kb.addRule rule).after.builder.streams = kb.builder.streams ∧
      (kb.addRule rule).after.rules = kb.rules ∧
      (kb.addRule rule).after.network.journal = none) ∧
      kb.builder.SameButUsed (kb.addRule rule).after.builder := by
  obtain ⟨settled, sameConfig, sameFactory⟩ := grown.settled orderly
  obtain ⟨outcome, builder⟩ := addRule_result kb rule
  have ends := @Builder.addRule_ends ⟨kb.builder, .new rule.name, []⟩ settled
    (sameFactory ▸ orderly) rule
  obtain ⟨_, _, _, back⟩ := ends.of_error (outcome.symm.trans fails)
  have same := back (sameConfig ▸ rollback)
  rw [← builder] at same
  refine ⟨?_, same⟩
  obtain ⟨ids, requests, compiled, tracer, equal⟩ := same
  have network : (kb.addRule rule).after.network = kb.network := by
    show (kb.addRule rule).after.builder.network = _
    rw [equal]
    rfl
  refine ⟨network, ?_, ?_, rules_of_error fails, ?_⟩
  · rw [equal]
  · rw [equal]
  · rw [network]
    exact settled.closed

/-! ### A rule that fails late -/

/-- A rule that matches every person, and one that fails after it shared a root and a type with it
and added a join of its own. -/
def everyPerson : Rule where
  name := "every person"
  salience := 0
  view := .pattern (.of ⟨0, "p", .fact "Person"⟩ .plain)
  consequence := ⟨[⟨0, "p", .fact "Person"⟩], fun _ => .ok ()⟩

def twoPersonsOr : Rule where
  name := "two persons, or"
  salience := 0
  view := .and [.pattern (.of ⟨0, "p", .fact "Person"⟩ .plain),
    .pattern (.of ⟨1, "q", .fact "Person"⟩ .plain), .or []]
  consequence := ⟨[], fun _ => .ok ()⟩

/-- The second rule fails, and the network is that of the first one again. -/
theorem twoPersonsOr_unchanged :
    let kb := ((KnowledgeBase.new default .standard).addRule everyPerson).after
    ∃ failure, (kb.addRule twoPersonsOr).outcome = .error failure ∧
      ((kb.addRule twoPersonsOr).after.network = kb.network ∧
        (kb.addRule twoPersonsOr).after.builder.entryPoints = kb.builder.entryPoints ∧
        (kb.addRule twoPersonsOr).after.builder.streams = kb.builder.streams ∧
        (kb.addRule twoPersonsOr).after.rules = kb.rules ∧
        (kb.addRule twoPersonsOr).after.network.journal = none) ∧
        kb.builder.SameButUsed (kb.addRule twoPersonsOr).after.builder := by
  intro kb
  have fails : (kb.addRule twoPersonsOr).outcome.isOk = false := by decide +kernel
  have grown : Grown default .standard _ kb := Grown.new.addRule everyPerson
  cases ended : (kb.addRule twoPersonsOr).outcome with
  | ok handle =>
    rw [ended] at fails
    cases fails
  | error failure =>
    exact ⟨failure, rfl,
      addRule_error_unchanged grown NodeFactory.standard_orderly rfl ended⟩

end KnowledgeBase

end RuleNet
