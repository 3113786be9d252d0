/-
**The network is maximally shared.**

Whatever rules a knowledge base was asked to add, and whether or not they compiled and were rolled
back, no two of its nodes could have been one.

* `Builder.SameButUsed.complete`: a builder that was taken back is as complete as it was before;
* `Builder.addRule_complete`: adding a rule keeps the lookups complete, however it ends;
* `Grown.complete`: so they are **complete in every history**;
* `maximally_shared`: no two nodes of a kind that is shared can stand in for each other. There is
  one root for each source, and one node for each type below a root.
-/

import RuleNet.Proofs.Build.Answers
import RuleNet.Proofs.Build.Complete

namespace RuleNet

open Stateful

namespace Builder

variable {builder after : Builder}

theorem Complete.opened (complete : builder.Complete) (tidy : builder.opened.Tidy) :
    builder.opened.Complete := by
  refine complete.same (complete.toLinked.opened tidy) ?_ ?_ rfl rfl
  · unfold Builder.opened
    split <;> rfl
  · unfold Builder.opened
    split <;> rfl

theorem Complete.committed (complete : builder.Complete) (settled : builder.committed.Settled) :
    builder.committed.Complete :=
  complete.same ⟨complete.standard, settled.tidy, complete.stacked, complete.toLinked.roots⟩
    rfl rfl rfl rfl

/-- **A builder that was taken back** has lost no node that could be shared. -/
theorem SameButUsed.complete (same : builder.SameButUsed after) (complete : builder.Complete)
    (tidy : after.Tidy) : after.Complete := by
  obtain ⟨ids, requests, compiled, tracer, rfl⟩ := same
  exact complete.same ⟨complete.standard, tidy, complete.stacked, complete.toLinked.roots⟩
    rfl rfl rfl rfl

/-- **Adding a rule keeps the lookups complete**, however it ends. -/
theorem addRule_complete {bench : Workbench} (settled : bench.builder.Settled)
    (complete : bench.builder.Complete) (rule : Rule) :
    Ensures (addRule rule) bench (fun _ after => after.builder.Complete)
      fun _ after => after.builder.Complete := by
  refine ensures_addRule fun tracer log => ?_
  have ready := settled.traced tracer
  have opened := Undoable.opened ready
  have undone := rule_undoable settled (complete.standard ▸ NodeFactory.standard_orderly) rule
    tracer log
  have kept := Build.rule_keeps Build.complete_steady.upheld rule
    ⟨(bench.builder.traced tracer).opened, .new rule.name, log⟩
    ((complete.traced tracer).opened opened.tidy)
  refine (undone.both kept).mono (fun terminal after ended => ?_) fun failure after ended => ?_
  · exact fun last _ => (Complete.committed ended.2 ended.1.committed_settled).traced last
  · intro last _
    obtain ⟨left, back⟩ := Undoable.abandoned_ends ready ended.1
    refine Complete.traced ?_ last
    cases rollback : bench.builder.config.rollback with
    | true => exact (back rollback).complete (complete.traced tracer) left.tidy
    | false =>
      -- nothing is taken back, and everything up to the failure was complete
      have config : after.builder.config.rollback = false := by
        rw [ended.1.config]
        exact rollback
      simp only [abandoned, config, Bool.false_eq_true, if_false]
      exact ended.2

theorem complete_new (config : BuildConfig) : (Builder.new config .standard).Complete where
  standard := rfl
  tidy := (settled_new config .standard).tidy
  stacked := trivial
  roots source root registered := by cases source <;> cases registered
  listed _ member := nomatch member
  alone _ member := nomatch member
  tupleless _ member := nomatch member
  registered _ member := nomatch member
  once := List.nodup_nil
  rooted id := by
    constructor
    · intro listed
      cases listed
    · rintro ⟨source, registered⟩
      cases source <;> cases registered

end Builder

namespace KnowledgeBase

variable {config : BuildConfig} {attempts : List (Rule × Outcome RuleHandle)} {kb : KnowledgeBase}

/-- **In every history the lookups are complete.** -/
theorem Grown.complete (grown : Grown config .standard attempts kb) : kb.builder.Complete := by
  induction grown with
  | new => exact Builder.complete_new config
  | @addRule attempts kb grown rule hypothesis =>
    have settled := (grown.settled NodeFactory.standard_orderly).1
    rw [(addRule_result kb rule).2]
    exact (@Builder.addRule_complete ⟨kb.builder, .new rule.name, []⟩ settled hypothesis rule).either
  | trace _ step hypothesis => exact hypothesis.traced _

/-- **The network is maximally shared**, after any rules with any answers and with or without
rollback. Two nodes that could be one are of a kind that the configuration does not share. In
particular every entry point and every stream has one root, and every type has one node below a
root. -/
theorem maximally_shared (grown : Grown config .standard attempts kb) :
    ∀ a ∈ kb.network.nodes, ∀ b ∈ kb.network.nodes, a ≠ b →
      (a.kind.shareable config = true → a.equivalent b = false) ∧
      (∀ name, a.kind = .entryPoint name → b.kind ≠ .entryPoint name) ∧
      (∀ name carried other, a.kind = .stream name carried → b.kind ≠ .stream name other) ∧
      ∀ type, a.kind = .objectType type → a.objectParent = b.objectParent →
        b.kind ≠ .objectType type := by
  intro a here b there different
  have complete := grown.complete
  have same := (grown.settled NodeFactory.standard_orderly).2.1
  have alone : a.kind.shareable config = true → a.equivalent b = false := by
    rw [← same]
    exact complete.alone a here b there different
  -- the root of a source is the one under its name
  have single : ∀ source, a.kind.source? = some source → b.kind.source? ≠ some source := by
    intro source first second
    have left := complete.registered a here source first
    have right := complete.registered b there source second
    have ids : a.id = b.id := Option.some.inj (left.symm.trans right)
    have found := complete.tidy.network.node?_of_mem here
    rw [ids, complete.tidy.network.node?_of_mem there] at found
    exact different (Option.some.inj found).symm
  refine ⟨alone, fun name first second => ?_, fun name carried other first second => ?_,
    fun type first above second => ?_⟩
  · exact single (.entryPoint name) (by rw [first]; rfl) (by rw [second]; rfl)
  · exact single (.stream name) (by rw [first]; rfl) (by rw [second]; rfl)
  · have left := complete.tupleless a here (by simp [first, NodeKind.narrows?])
    have right := complete.tupleless b there (by simp [second, NodeKind.narrows?])
    have equivalent : a.equivalent b = true := by
      simp [Node.equivalent, first, second, above, left, right, NodeKind.sharesWith]
    exact absurd (equivalent.symm.trans (alone (by simp [first, NodeKind.shareable])))
      Bool.noConfusion

/-- The same rule twice, and in between a rule that fails: an entry point, a type, an adapter and
two terminals, of which none could be another. -/
theorem everyPerson_twice_shared :
    let kb := ((((KnowledgeBase.new default .standard).addRule everyPerson).after.addRule
      twoPersonsOr).after.addRule everyPerson).after
    kb.network.size = 5 ∧ ∀ a ∈ kb.network.nodes, ∀ b ∈ kb.network.nodes, a ≠ b →
      (a.kind.shareable default = true → a.equivalent b = false) ∧
      (∀ name, a.kind = .entryPoint name → b.kind ≠ .entryPoint name) ∧
      (∀ name carried other, a.kind = .stream name carried → b.kind ≠ .stream name other) ∧
      ∀ type, a.kind = .objectType type → a.objectParent = b.objectParent →
        b.kind ≠ .objectType type :=
  ⟨by decide +kernel,
    maximally_shared (((Grown.new.addRule everyPerson).addRule twoPersonsOr).addRule everyPerson)⟩

end KnowledgeBase

end RuleNet
