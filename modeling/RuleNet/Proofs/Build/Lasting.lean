/-
**A node id never changes its meaning.**

Ids are handed out in order. A rule uses up some of them, also for nodes that another node stands in
for and for nodes that are taken out again, and none of them is used a second time.

* `Builder.Window`: all nodes that were added came under ids that were new;
* `Grown.window`: that is so when a rule was compiled, also if it failed;
* `Grown.nodes_left`: a rule leaves the nodes it was compiled to, or those there were before;
* `KnowledgeBase.Leads`: the knowledge bases that come later;
* `Leads.absent`: **an id that was used up and is not there never comes back**;
* `Grown.ids_keep_meaning`: what holds of ids whenever a rule is added.
-/

import RuleNet.Proofs.Build.Within

namespace RuleNet

open Stateful

namespace Builder

/-- **All nodes that were added came under new ids**, and no node was taken out. -/
structure Window (base now : Builder) : Prop where
  supplied : base.highWaterMark ≤ now.highWaterMark
  kept : ∀ id, base.network.contains id = true → now.network.contains id = true
  fresh : ∀ id, now.network.contains id = true →
    base.network.contains id = true ∨ base.highWaterMark ≤ id.index

theorem Window.refl (builder : Builder) : builder.Window builder :=
  ⟨Nat.le_refl _, fun _ known => known, fun _ known => Or.inl known⟩

/-- **No change of the compiler leaves the window.** -/
theorem window_stepwise (base : Builder) : Stepwise base.Window where
  asked _ _ handed window := by
    have supplied := window.supplied
    have next := (IdSupply.next_increases handed).2
    refine ⟨?_, window.kept, window.fresh⟩
    simp only [highWaterMark, asked] at supplied ⊢
    omega
  made {builder ids wanted} _ _ handed _ window := by
    have supplied := window.supplied
    obtain ⟨own, next⟩ := IdSupply.next_increases handed
    refine ⟨?_, fun id known => ?_, fun id known => ?_⟩
    · simp only [highWaterMark] at supplied
      show base.ids.nextIndex ≤ ids.nextIndex
      omega
    · exact Network.contains_insert.mpr (Or.inr (window.kept id known))
    · rcases Network.contains_insert.mp known with rfl | before
      · right
        show base.highWaterMark ≤ wanted.id.index
        rw [own]
        exact supplied
      · exact window.fresh id before
  shared _ _ window := ⟨window.supplied, window.kept, window.fresh⟩
  registered source _ _ window := by
    cases source <;> exact ⟨window.supplied, window.kept, window.fresh⟩
  aside _ window := ⟨window.supplied, window.kept, window.fresh⟩

end Builder

namespace KnowledgeBase

variable {config : BuildConfig} {attempts : List (Rule × Outcome RuleHandle)}
  {kb later : KnowledgeBase} {id : NodeId}

/-- The nodes that were there before a rule is compiled. -/
theorem opening_nodes (kb : KnowledgeBase) (rule : Rule) :
    (kb.opening rule).builder.network.nodes = kb.network.nodes := by
  show (kb.builder.traced _).opened.network.nodes = _
  unfold Builder.opened
  split <;> rfl

theorem contains_opening (kb : KnowledgeBase) (rule : Rule) (id : NodeId) :
    (kb.opening rule).builder.network.contains id = kb.network.contains id :=
  Network.contains_of_nodes (opening_nodes kb rule) id

/-- **Compiling a rule stays in the window**, also if it fails. -/
theorem Grown.window (grown : Grown config .standard attempts kb) (rule : Rule) :
    kb.builder.Window (kb.compiled rule) := by
  have window := (grown.compiled_of (Builder.window_stepwise _)
    (Builder.Window.refl (kb.opening rule).builder)).2
  refine ⟨window.supplied, fun id known => ?_, fun id known => ?_⟩
  · exact window.kept id ((contains_opening kb rule id).trans known)
  · rw [← show (kb.opening rule).builder.network.contains id = kb.builder.network.contains id from
      contains_opening kb rule id]
    exact window.fresh id known

/-- Ids that were used up stay used up, however the rule ended. -/
theorem highWaterMark_addRule (kb : KnowledgeBase) (rule : Rule) :
    (kb.addRule rule).after.builder.highWaterMark = (kb.compiled rule).highWaterMark := by
  cases ended : (kb.addRule rule).outcome with
  | ok handle =>
    rw [(addRule_ok ended).2.2]
    rfl
  | error failure =>
    rw [addRule_error ended]
    exact congrArg IdSupply.nextIndex (Builder.abandoned_ids _)

/-- **A rule leaves the nodes it was compiled to, or those there were before.** -/
theorem Grown.nodes_left (grown : Grown config .standard attempts kb) (rule : Rule) :
    (kb.addRule rule).after.network.nodes = (kb.compiled rule).network.nodes ∨
      (kb.addRule rule).after.network.nodes = kb.network.nodes := by
  cases ended : (kb.addRule rule).outcome with
  | ok handle =>
    left
    show (kb.addRule rule).after.builder.network.nodes = _
    rw [(addRule_ok ended).2.2]
    rfl
  | error failure =>
    by_cases rollback : config.rollback = true
    · right
      rw [(addRule_error_unchanged grown NodeFactory.standard_orderly rollback ended).1.1]
    · left
      have off : (kb.compiled rule).config.rollback = false := by
        rw [(grown.compiled_undoable rule).config]
        show kb.builder.config.rollback = false
        rw [(grown.settled NodeFactory.standard_orderly).2.1]
        exact Bool.eq_false_iff.mpr rollback
      show (kb.addRule rule).after.builder.network.nodes = _
      rw [addRule_error ended, Builder.abandoned, off]
      rfl

/-- **What a rule leaves was there before or was compiled**, and what was there before is left. -/
theorem Grown.contains_addRule (grown : Grown config .standard attempts kb) (rule : Rule) :
    (∀ id, kb.network.contains id = true → (kb.addRule rule).after.network.contains id = true) ∧
      ∀ id, (kb.addRule rule).after.network.contains id = true →
        (kb.compiled rule).network.contains id = true := by
  have window := grown.window rule
  rcases grown.nodes_left rule with nodes | nodes <;>
    have same := Network.contains_of_nodes nodes
  · exact ⟨fun id known => (same id).trans (window.kept id known),
      fun id known => (same id).symm.trans known⟩
  · exact ⟨fun id known => (same id).trans known,
      fun id known => window.kept id ((same id).symm.trans known)⟩

/-! ### Later -/

/-- **The knowledge bases that come later**, after more rules and settings of the tracer. -/
inductive Leads (first : KnowledgeBase) : KnowledgeBase → Prop
  | refl : Leads first first
  | addRule {kb : KnowledgeBase} (leads : Leads first kb) (rule : Rule) :
      Leads first (kb.addRule rule).after
  | trace {kb : KnowledgeBase} (leads : Leads first kb) (step : Tracer → Tracer × List LogLine) :
      Leads first (kb.trace step).after

theorem Leads.grown (leads : kb.Leads later) (grown : Grown config .standard attempts kb) :
    ∃ others, Grown config .standard others later := by
  induction leads with
  | refl => exact ⟨attempts, grown⟩
  | addRule _ rule hypothesis =>
    obtain ⟨others, before⟩ := hypothesis
    exact ⟨_, before.addRule rule⟩
  | trace _ step hypothesis =>
    obtain ⟨others, before⟩ := hypothesis
    exact ⟨others, before.trace step⟩

/-- **An id that was used up and is not there never comes back.** -/
theorem Leads.absent (leads : kb.Leads later) (grown : Grown config .standard attempts kb)
    (used : id.index < kb.builder.highWaterMark) (absent : kb.network.contains id = false) :
    id.index < later.builder.highWaterMark ∧ later.network.contains id = false := by
  induction leads with
  | refl => exact ⟨used, absent⟩
  | @addRule later leads rule hypothesis =>
    obtain ⟨used, absent⟩ := hypothesis
    obtain ⟨others, before⟩ := leads.grown grown
    have window := before.window rule
    refine ⟨?_, ?_⟩
    · rw [highWaterMark_addRule]
      exact Nat.lt_of_lt_of_le used window.supplied
    · by_contra present
      have compiled := (before.contains_addRule rule).2 id (by simpa using present)
      rcases window.fresh id compiled with known | high
      · exact Bool.false_ne_true (absent.symm.trans known)
      · omega
  | trace _ step hypothesis => exact hypothesis

/-! ### Whenever a rule is added -/

/-- **A node id never changes its meaning.** Parents have smaller ids than their children, and all
ids were handed out. A rule adds nodes only under ids that are handed out while it is compiled, also
those that are taken out again. A node that is there before and after a rule keeps its kind and its
parents, and the id of one that was taken out never comes back. -/
theorem Grown.ids_keep_meaning (grown : Grown config .standard attempts kb) (rule : Rule) :
    (∀ node ∈ kb.network.nodes, node.id.index < kb.builder.highWaterMark ∧
      ∀ parent ∈ node.parents, parent.index < node.id.index) ∧
    (∀ id, (kb.compiled rule).network.contains id = true ∨
        (kb.addRule rule).after.network.contains id = true →
      kb.network.contains id = true ∨ kb.builder.highWaterMark ≤ id.index ∧
        id.index < (kb.addRule rule).after.builder.highWaterMark) ∧
    (∀ id before now, kb.network.node? id = some before →
      (kb.addRule rule).after.network.node? id = some now →
      now.kind = before.kind ∧ now.objectParent = before.objectParent ∧
        now.tupleParent = before.tupleParent) ∧
    ∀ id, (kb.compiled rule).network.contains id = true →
      (kb.addRule rule).after.network.contains id = false →
      ∀ later, (kb.addRule rule).after.Leads later → later.network.contains id = false := by
  have complete := grown.complete
  have window := grown.window rule
  have below : ∀ id, (kb.compiled rule).network.contains id = true →
      id.index < (kb.addRule rule).after.builder.highWaterMark := by
    intro id known
    obtain ⟨node, member, rfl⟩ := Network.contains_iff.mp known
    rw [highWaterMark_addRule]
    exact (grown.compiled_undoable rule).tidy.below node member
  refine ⟨fun node member => ⟨complete.tidy.below node member, fun parent named => ?_⟩,
    fun id known => ?_, fun id before now found there => ?_, fun id known gone later leads => ?_⟩
  · exact complete.stacked.parent_lt member named
  · have compiled : (kb.compiled rule).network.contains id = true :=
      known.elim (fun known => known) ((grown.contains_addRule rule).2 id)
    rcases window.fresh id compiled with old | high
    · exact Or.inl old
    · exact Or.inr ⟨high, below id compiled⟩
  · obtain ⟨children, same⟩ := (grown.within_addRule rule).network.nodes id before found
    obtain rfl := Option.some.inj (same.symm.trans there)
    exact ⟨rfl, rfl, rfl⟩
  · exact (leads.absent (grown.addRule rule) (below id known) gone).2

/-- A rule that fails has added a join, which is taken out again. No later node has its id. -/
theorem twoPersonsOr_id_gone :
    let kb := ((KnowledgeBase.new default .standard).addRule everyPerson).after
    (kb.compiled twoPersonsOr).network.contains ⟨5⟩ = true ∧
      ∀ later, (kb.addRule twoPersonsOr).after.Leads later →
        later.network.contains ⟨5⟩ = false := by
  intro kb
  have grown : Grown default .standard _ kb := Grown.new.addRule everyPerson
  have made : (kb.compiled twoPersonsOr).network.contains ⟨5⟩ = true := by decide +kernel
  have gone : (kb.addRule twoPersonsOr).after.network.contains ⟨5⟩ = false := by decide +kernel
  obtain ⟨_, _, _, never⟩ := grown.ids_keep_meaning twoPersonsOr
  exact ⟨made, never ⟨5⟩ made gone⟩

end KnowledgeBase

end RuleNet
