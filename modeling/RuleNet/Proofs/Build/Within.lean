/-
**What was compiled stays where it is.**

A knowledge base only grows. Nodes are never taken out of it once their rule was accepted, and a
source keeps its root.

* `Builder.Within`: the nodes of an earlier builder are there, and so are its roots;
* `within_stepwise`: no change of the compiler leaves the builder it grows from;
* `Grown.within_addRule`: nor does a rule that is added, however it ends;
* `Grown.compiled`: **every accepted rule was compiled once**, on a complete builder, and what it
  compiled to is within the knowledge base as it is now.
-/

import RuleNet.Proofs.Build.Stepwise

namespace RuleNet

open Stateful

namespace Builder

/-- **The nodes of the earlier builder are there**, with their kinds and parents, and its sources
have the roots they had. -/
structure Within (base now : Builder) : Prop where
  network : base.network.Extends now.network
  roots : ∀ source root, base.root? source = some root → now.root? source = some root

namespace Within

variable {first second third : Builder}

theorem refl (builder : Builder) : builder.Within builder :=
  ⟨.refl _, fun _ _ registered => registered⟩

theorem trans (left : first.Within second) (right : second.Within third) : first.Within third :=
  ⟨left.network.trans right.network, fun source root registered =>
    right.roots source root (left.roots source root registered)⟩

/-- What nobody looks at may change. -/
theorem of_same (nodes : second.network.nodes = first.network.nodes)
    (roots : second.root? = first.root?) : first.Within second := by
  refine ⟨⟨fun id node found => ⟨node.children, ?_⟩, fun id _ => by rw [nodes]⟩, ?_⟩
  · simp only [Network.node?, nodes] at found ⊢
    exact found
  · rw [roots]
    exact fun _ _ registered => registered

theorem of_used (same : first.SameButUsed second) : first.Within second := by
  obtain ⟨ids, requests, compiled, tracer, rfl⟩ := same
  exact of_same rfl rfl

/-- A builder in which a source without a root gets one. -/
theorem register (within : first.Within second) {source : Source} {root : NodeId}
    (free : second.root? source = none) : first.Within (second.register source root) := by
  refine ⟨network_register second source root ▸ within.network, fun other known registered => ?_⟩
  have kept := within.roots other known registered
  rw [root?_register, if_neg (fun equal => by rw [equal, free] at kept; cases kept)]
  exact kept

end Within

/-- **No change of the compiler leaves the builder it grows from.** -/
theorem within_stepwise (base : Builder) : Stepwise base.Within where
  asked _ _ _ within := ⟨within.network, within.roots⟩
  made _ _ _ new within := ⟨within.network.trans (Network.extends_insert new), within.roots⟩
  shared _ _ within := ⟨within.network, within.roots⟩
  registered _ _ free within := within.register free
  aside _ within := ⟨within.network, within.roots⟩

end Builder

/-! ### Histories -/

namespace Builder

/-- **A rule was compiled to a terminal**, on a complete builder and with a new context, and what it
was compiled to is still there. -/
def Compiled (now : Builder) (rule : Rule) (terminal : NodeId) : Prop :=
  ∃ bench after, bench.builder.Complete ∧ bench.context = .new rule.name ∧
    result (Build.rule rule) bench = (.ok terminal, after) ∧ after.builder.Within now

variable {first second : Builder} {rule : Rule} {terminal : NodeId}

theorem Compiled.mono (compiled : first.Compiled rule terminal) (within : first.Within second) :
    second.Compiled rule terminal := by
  obtain ⟨bench, after, complete, new, ended, inside⟩ := compiled
  exact ⟨bench, after, complete, new, ended, inside.trans within⟩

theorem within_traced (builder : Builder) (tracer : Tracer) :
    builder.Within (builder.traced tracer) :=
  Within.of_same rfl rfl

theorem within_opened (builder : Builder) : builder.Within builder.opened := by
  refine Within.of_same ?_ rfl
  unfold opened
  split <;> rfl

theorem within_committed (builder : Builder) : builder.Within builder.committed :=
  Within.of_same rfl rfl

/-- **Adding a rule stays within the builder**, however it ends, and a rule that is accepted was
compiled. -/
theorem addRule_within {bench : Workbench} (settled : bench.builder.Settled)
    (complete : bench.builder.Complete) (rule : Rule) :
    Ensures (addRule rule) bench
      (fun handle after => bench.builder.Within after.builder ∧
        after.builder.Compiled rule handle.terminal)
      fun _ after => bench.builder.Within after.builder := by
  refine ensures_addRule fun tracer log => ?_
  have ready := settled.traced tracer
  have opened := Undoable.opened ready
  have begun : (bench.builder.traced tracer).opened.Complete :=
    (complete.traced tracer).opened opened.tidy
  have start : bench.builder.Within (bench.builder.traced tracer).opened :=
    (within_traced _ tracer).trans (within_opened _)
  have undone := rule_undoable settled (complete.standard ▸ NodeFactory.standard_orderly) rule
    tracer log
  have kept := Build.rule_keeps (within_stepwise bench.builder).upheld rule
    ⟨(bench.builder.traced tracer).opened, .new rule.name, log⟩ ⟨begun, start⟩
  have both := undone.both kept
  unfold Ensures at both ⊢
  cases ended : result (Build.rule rule)
      ⟨(bench.builder.traced tracer).opened, .new rule.name, log⟩ with
  | mk outcome after =>
    rw [ended] at both
    cases outcome with
    | ok terminal =>
      intro last _
      have later : after.builder.Within (after.builder.committed.traced last) :=
        (within_committed _).trans (within_traced _ last)
      exact ⟨both.2.2.trans later, _, after, begun, rfl, ended, later⟩
    | error failure =>
      intro last _
      suffices bench.builder.Within after.builder.abandoned from this.trans (within_traced _ last)
      cases rollback : bench.builder.config.rollback with
      | true => exact Within.of_used ((Undoable.abandoned_ends ready both.1).2 rollback)
      | false =>
        have config : after.builder.config.rollback = false := by
          rw [both.1.config]
          exact rollback
        simp only [abandoned, config, Bool.false_eq_true, if_false]
        exact both.2.2

end Builder

namespace KnowledgeBase

variable {config : BuildConfig} {attempts : List (Rule × Outcome RuleHandle)} {kb : KnowledgeBase}

/-- A knowledge base stays within the one after the next rule. -/
theorem Grown.within_addRule (grown : Grown config .standard attempts kb) (rule : Rule) :
    kb.builder.Within (kb.addRule rule).after.builder := by
  have settled := (grown.settled NodeFactory.standard_orderly).1
  have ends := @Builder.addRule_within ⟨kb.builder, .new rule.name, []⟩ settled grown.complete rule
  rw [(addRule_result kb rule).2]
  exact (ends.mono (fun _ _ ended => ended.1) fun _ _ kept => kept).either

/-- **Every accepted rule was compiled**, and what it was compiled to is still there. -/
theorem Grown.compiled (grown : Grown config .standard attempts kb) {rule : Rule}
    {handle : RuleHandle} (added : (rule, .ok handle) ∈ attempts) :
    kb.builder.Compiled rule handle.terminal := by
  induction grown with
  | new => cases added
  | @addRule attempts kb grown last hypothesis =>
    have settled := (grown.settled NodeFactory.standard_orderly).1
    have ends := @Builder.addRule_within ⟨kb.builder, .new last.name, []⟩ settled grown.complete last
    obtain ⟨outcome, builder⟩ := addRule_result kb last
    rcases List.mem_append.mp added with earlier | now
    · exact (hypothesis earlier).mono (grown.within_addRule last)
    · obtain ⟨rfl, answer⟩ := Prod.mk.inj (List.mem_singleton.mp now)
      rw [builder]
      exact (ends.of_ok (outcome.symm.trans answer.symm)).2
  | trace _ step hypothesis => exact (hypothesis added).mono (.of_same rfl rfl)

end KnowledgeBase

end RuleNet
