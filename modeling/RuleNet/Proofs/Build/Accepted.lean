/-
**The terminals of a network are those of its rules.**

A rule gets its terminal last, when nothing can fail any more. So a rule that fails leaves no
terminal, whether or not it is taken out again, and the terminals of a network stand in the order
in which its rules were accepted.

* `accepted`: the rules that were accepted, with their handles;
* `condition_lists`, `rule_lists`: what a view and a rule add to the terminals;
* `Grown.terminals`: **in every history the terminals are those of the accepted rules**.
-/

import RuleNet.Proofs.Build.Answers

namespace RuleNet

open Stateful

/-! ### Outlines -/

namespace Outline

/-- The terminals made so far. -/
def Lists (terminals : List NodeId) (outline : Outline) : Prop :=
  outline.ledger.terminals = terminals

variable {terminals : List NodeId}

theorem modifyContext_lists (change : BuildContext → BuildContext) :
    Keeps (Lists terminals) (modifyContext change) :=
  fun _ held => held

theorem start_lists (needed : Bool) : Keeps (Lists terminals) (start needed) :=
  keeps_of_undisturbed (fun _ => start_undisturbed needed) fun _ _ same held => same.1.trans held

theorem use_lists (leaf : Pattern) : Keeps (Lists terminals) (use leaf) :=
  keeps_of_undisturbed (fun _ => use_undisturbed leaf) fun _ _ same held => same.1.trans held

theorem framed_lists {frame : String} {step : Stateful Outline Unit}
    (kept : Keeps (Lists terminals) step) : Keeps (Lists terminals) (framed frame step) :=
  keeps_bind (modifyContext_lists _) fun _ => keeps_bind kept fun _ => modifyContext_lists _

mutual

/-- **A view makes no terminal.** -/
theorem condition_lists : (view : Condition) → Keeps (Lists terminals) (condition view)
  | .pattern leaf =>
    keeps_bind (modifyContext_lists _) fun _ => keeps_bind scope_keeps fun _ =>
      framed_lists (keeps_bind (start_lists _) fun _ => use_lists leaf)
  | .and parts => framed_lists (conditions_lists parts)
  | .or _ => framed_lists (keeps_throw _)
  | .objectPath _ => framed_lists (keeps_throw _)

theorem conditions_lists :
    (parts : List Condition) → Keeps (Lists terminals) (conditions parts)
  | [] => keeps_pure _
  | part :: rest => keeps_bind (condition_lists part) fun _ => conditions_lists rest

end

/-- **A rule that succeeds adds its terminal**, and one that fails adds none. -/
theorem rule_lists (whole : Rule) {outline : Outline} (start : Lists terminals outline) :
    Ensures (rule whole) outline (fun id after => Lists (terminals ++ [id]) after)
      fun _ after => Lists terminals after := by
  unfold rule terminal
  simp only [ensures_bind]
  refine (condition_lists whole.view outline start).mono (fun _ mid held => ?_) fun _ _ held => held
  refine (start_lists true mid held).mono (fun _ begun held => ?_) fun _ _ held => held
  refine (modifyContext_lists _ begun held).mono (fun _ framed held => ?_) fun _ _ held => held
  refine (scope_keeps framed held).mono (fun known _ held => ?_) fun _ _ held => held
  refine (ofOutcome_keeps _ _ held).mono (fun _ bound held => ?_) fun _ _ held => held
  refine (keeps_of_undisturbed (fun _ => spend_undisturbed)
    (fun _ _ same held => same.1.trans held) bound held).mono (fun id after held => ?_)
    fun _ _ held => held
  show after.ledger.terminals ++ [id] = terminals ++ [id]
  rw [show after.ledger.terminals = terminals from held]

end Outline

/-! ### Histories -/

/-- The rule with its handle, if it was accepted. -/
def accepted? : Rule × Outcome RuleHandle → Option (Rule × RuleHandle)
  | (rule, .ok handle) => some (rule, handle)
  | (_, .error _) => none

/-- **The rules that were accepted**, with their handles, oldest first. -/
def accepted (attempts : List (Rule × Outcome RuleHandle)) : List (Rule × RuleHandle) :=
  attempts.filterMap accepted?

theorem accepted_ok (attempts : List (Rule × Outcome RuleHandle)) (rule : Rule)
    (handle : RuleHandle) :
    accepted (attempts ++ [(rule, .ok handle)]) = accepted attempts ++ [(rule, handle)] := by
  rw [accepted, List.filterMap_append]
  rfl

theorem accepted_error (attempts : List (Rule × Outcome RuleHandle)) (rule : Rule)
    (failure : Failure) : accepted (attempts ++ [(rule, .error failure)]) = accepted attempts := by
  rw [accepted, List.filterMap_append]
  exact List.append_nil _

theorem mem_accepted {attempts : List (Rule × Outcome RuleHandle)} {rule : Rule}
    {handle : RuleHandle} (listed : (rule, handle) ∈ accepted attempts) :
    (rule, .ok handle) ∈ attempts := by
  obtain ⟨⟨other, outcome⟩, member, found⟩ := List.mem_filterMap.mp listed
  cases outcome with
  | error failure => cases found
  | ok own =>
    obtain ⟨rfl, rfl⟩ := Prod.mk.inj (Option.some.inj found)
    exact member

/-- **Only a rule that is accepted adds a terminal**, which is that of its handle. -/
theorem Ledger.terminals_addRule (ledger : Ledger) (rollback : Bool) (rule : Rule) :
    (ledger.addRule rollback rule).2.terminals =
      ledger.terminals ++
        (accepted [(rule, (ledger.addRule rollback rule).1)]).map fun entry => entry.2.terminal := by
  have ends := @Outline.rule_lists ledger.terminals rule (ledger.opened rule) rfl
  unfold addRule
  unfold Ensures at ends
  cases ended : result (Outline.rule rule) (ledger.opened rule) with
  | mk outcome after =>
    rw [ended] at ends
    cases outcome with
    | ok terminal => exact ends
    | error failure =>
      have none : (accepted [(rule, .error (failure.located after.context.place))]).map
          (fun entry => entry.2.terminal) = [] := rfl
      simp only [none, List.append_nil]
      split
      · rfl
      · exact ends

namespace KnowledgeBase

variable {config : BuildConfig} {attempts : List (Rule × Outcome RuleHandle)} {kb : KnowledgeBase}

theorem Grown.ledger_terminals (grown : Grown config .standard attempts kb) :
    kb.builder.ledger.terminals = (accepted attempts).map fun entry => entry.2.terminal := by
  induction grown with
  | new => rfl
  | @addRule attempts kb grown rule hypothesis =>
    have one := kb.builder.ledger.terminals_addRule config.rollback rule
    rw [grown.addRule_ledger rule] at one
    rw [one, hypothesis, accepted, accepted, accepted, List.filterMap_append, List.map_append]
  | trace _ _ hypothesis => exact hypothesis

/-- **In every history the terminals are those of the accepted rules**, in the order in which they
were accepted. -/
theorem Grown.terminals (grown : Grown config .standard attempts kb) :
    kb.network.terminals = (accepted attempts).map fun entry => entry.2.terminal :=
  have stacked := (grown.realizes fun _ attempted => attempted).1.layered.stacked
  (Network.terminals_eq stacked).trans grown.ledger_terminals

/-- The rules of a knowledge base are those that it accepted. -/
theorem Grown.rules_eq {factory : NodeFactory} (grown : Grown config factory attempts kb) :
    kb.rules = (accepted attempts).map Prod.snd := by
  induction grown with
  | new => rfl
  | @addRule attempts kb _ rule hypothesis =>
    cases ended : (kb.addRule rule).outcome with
    | ok handle => rw [rules_of_ok ended, accepted_ok, List.map_append, hypothesis]; rfl
    | error failure => rw [rules_of_error ended, accepted_error, hypothesis]
  | trace _ _ hypothesis => exact hypothesis

/-- A rule that was accepted is listed. -/
theorem Grown.mem_rules {factory : NodeFactory} (grown : Grown config factory attempts kb)
    {rule : Rule} {handle : RuleHandle} (added : (rule, .ok handle) ∈ attempts) :
    handle ∈ kb.rules := by
  have listed : (rule, handle) ∈ accepted attempts :=
    List.mem_filterMap.mpr ⟨(rule, .ok handle), added, rfl⟩
  rw [grown.rules_eq]
  exact List.mem_map_of_mem listed

/-- The terminal of every rule is there. -/
theorem Grown.contains_terminal (grown : Grown config .standard attempts kb) {handle : RuleHandle}
    (listed : handle ∈ kb.rules) : kb.network.contains handle.terminal = true := by
  have there : handle.terminal ∈ kb.network.terminals := by
    rw [grown.terminals]
    rw [grown.rules_eq] at listed
    obtain ⟨entry, member, rfl⟩ := List.mem_map.mp listed
    exact List.mem_map_of_mem member
  obtain ⟨node, inside, same⟩ := List.mem_map.mp there
  have member := (List.mergeSort_perm _ _).mem_iff.mp (List.mem_filter.mp inside).1
  exact Network.contains_iff.mpr ⟨node, member, same⟩

end KnowledgeBase

end RuleNet
