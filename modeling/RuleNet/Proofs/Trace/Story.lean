/-
**What the events of one rule tell is what was done to the network.**

While a rule is compiled, a node is reported as made right after it was added, and one that is there
is reported as shared. So the events so far and the nodes so far agree at every step.

* `created`: the ids that events say were made;
* `Builder.Story`: the events since the compilation began, and how the network differs from then;
* `story_stepwise`: **every change of the compiler is told**, and nothing else is;
* `KnowledgeBase.Account`: what the events of a rule say about a knowledge base, from one end to the
  other;
* `Grown.addRule_told`: every rule that is added is accounted for.
-/

import RuleNet.Proofs.Build.Lasting

namespace RuleNet

open Stateful

namespace BuildEvent

/-- The event is about a node, or about a constraint that is not built: one of those between the
start of a rule and its end. -/
def isInner : BuildEvent → Bool
  | constraintSkipped _ => true
  | event => event.isNodeEvent

/-- The node that the event says was made. -/
def created? : BuildEvent → Option NodeId
  | nodeCreated node _ => some node
  | _ => none

/-- **The ids of the nodes that events say were made**, in their order. -/
def created (events : List BuildEvent) : List NodeId :=
  events.filterMap created?

theorem created_append (events others : List BuildEvent) :
    created (events ++ others) = created events ++ created others :=
  List.filterMap_append

theorem isInner_of_aside {event : BuildEvent} (aside : event.isAside = true) :
    event.isInner = true ∧ event.created? = none ∧ ∀ node kind, event ≠ .nodeShared node kind := by
  cases event <;> simp_all [isAside, isInner, isNodeEvent, created?]

end BuildEvent

open BuildEvent

namespace Builder

/-- **The events tell what was done** to a builder since it was another one. -/
structure Story (base now : Builder) (events : List BuildEvent) : Prop where
  tracer : now.tracer = base.tracer.recordAll events
  inner : ∀ event ∈ events, event.isInner = true
  /-- The nodes that were made are those that were added, in order. -/
  nodes : now.network.nodes.map Node.id =
    (created events).reverse ++ base.network.nodes.map Node.id
  journal : now.network.journal = base.network.journal.map (· ++ created events)
  rising : (created events).Pairwise fun a b => a.index < b.index
  /-- A node that was shared was there: from the start, or because it was made before. -/
  shared : ∀ before node kind, before ++ [.nodeShared node kind] <+: events →
    base.network.contains node = true ∨ node ∈ created before

namespace Story

variable {base now : Builder} {events : List BuildEvent} {event : BuildEvent} {id : NodeId}

theorem refl (base : Builder) : base.Story base [] where
  tracer := rfl
  inner _ member := nomatch member
  nodes := rfl
  journal := by
    show base.network.journal = base.network.journal.map (· ++ [])
    simp
  rising := List.Pairwise.nil
  shared before node kind telling := by
    have empty := List.prefix_nil.mp telling
    simp at empty

/-- The nodes that are there now were there at the start, or were told to be made. -/
theorem contains_iff (story : base.Story now events) :
    now.network.contains id = true ↔ base.network.contains id = true ∨ id ∈ created events := by
  have there : ∀ network : Network,
      network.contains id = true ↔ id ∈ network.nodes.map Node.id := by
    intro network
    rw [Network.contains_iff, List.mem_map]
  rw [there, there, story.nodes, List.mem_append, List.mem_reverse, or_comm]

/-- **A report that no node was made**, at most of one that is there. -/
theorem report (story : base.Story now events) (inner : event.isInner = true)
    (quiet : event.created? = none)
    (known : ∀ node kind, event = .nodeShared node kind → now.network.contains node = true) :
    base.Story (now.told event) (events ++ [event]) := by
  have same : created (events ++ [event]) = created events := by
    rw [created_append, created, created, List.filterMap_cons_none quiet, List.filterMap_nil,
      List.append_nil]
  refine ⟨?_, ?_, same ▸ story.nodes, same ▸ story.journal, same ▸ story.rising, ?_⟩
  · rw [Tracer.recordAll_append, ← story.tracer]
    rfl
  · intro other member
    rcases List.mem_append.mp member with earlier | last
    · exact story.inner other earlier
    · exact List.mem_singleton.mp last ▸ inner
  · intro before node kind telling
    rcases List.prefix_concat_iff.mp telling with whole | earlier
    · obtain ⟨rfl, last⟩ := List.append_inj' whole rfl
      exact story.contains_iff.mp (known node kind (List.singleton_inj.mp last).symm)
    · exact story.shared before node kind earlier

/-- **A node that is made is told.** -/
theorem made (story : base.Story now events) {ids : IdSupply} {wanted : NodeRequest}
    (complete : now.Complete) (handed : now.ids.next = .ok (wanted.id, ids)) :
    base.Story (now.made ids wanted)
      (events ++ [.nodeCreated wanted.id wanted.kind.sort.text]) := by
  have more : created (events ++ [.nodeCreated wanted.id wanted.kind.sort.text]) =
      created events ++ [wanted.id] := created_append _ _
  refine ⟨?_, ?_, ?_, ?_, ?_, ?_⟩
  · rw [Tracer.recordAll_append, ← story.tracer]
    rfl
  · intro other member
    rcases List.mem_append.mp member with earlier | last
    · exact story.inner other earlier
    · rw [List.mem_singleton.mp last]
      rfl
  · have ids : (now.network.nodes.map (Network.adopted wanted.toNode)).map Node.id =
        now.network.nodes.map Node.id := by simp
    show (wanted.toNode :: now.network.nodes.map (Network.adopted wanted.toNode)).map Node.id = _
    rw [more, List.map_cons, ids, story.nodes, List.reverse_append]
    rfl
  · show now.network.journal.map (· ++ [wanted.id]) = _
    rw [more, story.journal, Option.map_map]
    congr 1
    funext added
    exact List.append_assoc _ _ _
  · -- all nodes so far are below the id that was handed out last
    rw [more]
    refine List.pairwise_append.mpr ⟨story.rising, List.pairwise_singleton _ _, ?_⟩
    intro earlier told last same
    rw [List.mem_singleton.mp same, (IdSupply.next_increases handed).1]
    obtain ⟨node, member, rfl⟩ := Network.contains_iff.mp (story.contains_iff.mpr (Or.inr told))
    exact complete.tidy.below node member
  · intro before node kind telling
    rcases List.prefix_concat_iff.mp telling with whole | earlier
    · cases List.singleton_inj.mp (List.append_inj' whole rfl).2
    · exact story.shared before node kind earlier

end Story

/-- **Every change of the compiler is told.** -/
theorem story_stepwise (base : Builder) : Stepwise fun now => ∃ events, base.Story now events where
  asked _ _ _ := fun ⟨events, story⟩ => ⟨events, { story with }⟩
  made _ complete handed _ := fun ⟨_, story⟩ => ⟨_, story.made complete handed⟩
  shared kind known := fun ⟨_, story⟩ => ⟨_, story.report rfl rfl fun _ _ same => by
    cases same
    exact known⟩
  registered source _ _ := fun ⟨events, story⟩ => by
    cases source <;> exact ⟨events, { story with }⟩
  aside aside := fun ⟨_, story⟩ =>
    have inner := isInner_of_aside aside
    ⟨_, story.report inner.1 inner.2.1 fun node kind same => absurd same (inner.2.2 node kind)⟩

end Builder

/-! ### Whole rules -/

namespace KnowledgeBase

variable {config : BuildConfig} {attempts : List (Rule × Outcome RuleHandle)} {kb : KnowledgeBase}
  {rule : Rule} {inner : List BuildEvent}

/-- What is told at the end of a rule, if some nodes were told to be made. -/
def closing (kb : KnowledgeBase) (rule : Rule) (inner : List BuildEvent) : List BuildEvent :=
  match (kb.addRule rule).outcome with
  | .ok handle => [.ruleComplete rule.name handle.terminal]
  | .error failure =>
    [.ruleFailed rule.name failure.message, .rolledBack rule.name (created inner).length]

/-- **All events of one rule**: its start, what was done, and its end. -/
def telling (kb : KnowledgeBase) (rule : Rule) (inner : List BuildEvent) : List BuildEvent :=
  .ruleStart rule.name :: inner ++ kb.closing rule inner

/-- **The events between the start of a rule and its end tell what was done.** -/
structure Account (kb : KnowledgeBase) (rule : Rule) (inner : List BuildEvent) : Prop where
  between : ∀ event ∈ inner, event.isInner = true
  rising : (created inner).Pairwise fun a b => a.index < b.index
  /-- The nodes that were made are those that were added, in order; the newest stands first. -/
  added : (kb.compiled rule).network.nodes.map Node.id =
    (created inner).reverse ++ kb.network.nodes.map Node.id
  /-- They are what is rolled back. -/
  removed : (kb.compiled rule).network.rollback.1 = created inner
  /-- What is left of them. -/
  left : (kb.addRule rule).after.network.nodes.map Node.id =
    match (kb.addRule rule).outcome with
    | .ok _ => (created inner).reverse ++ kb.network.nodes.map Node.id
    | .error _ => kb.network.nodes.map Node.id
  /-- A node that was shared was there: before the rule, or because it was made before. Nothing is
  taken out in between. -/
  shared : ∀ before node kind, before ++ [.nodeShared node kind] <+: inner →
    kb.network.contains node = true ∨ node ∈ created before

/-- **Every rule that is added is accounted for.** With rollback, its events are its start, what was
done, and its end, and its number is the number of rules compiled. -/
theorem Grown.addRule_told (grown : Grown config .standard attempts kb)
    (rollback : config.rollback = true) (rule : Rule) :
    ∃ inner, kb.Account rule inner ∧
      (kb.addRule rule).after.builder.tracer =
        kb.builder.tracer.counting.recordAll (kb.telling rule inner) ∧
      (kb.addRule rule).after.builder.compiled = kb.builder.compiled + 1 ∧
      ∀ handle, (kb.addRule rule).outcome = .ok handle →
        handle.sequence = kb.builder.compiled + 1 := by
  obtain ⟨settled, same, _⟩ := grown.settled NodeFactory.standard_orderly
  have on : kb.builder.config.rollback = true := same ▸ rollback
  obtain ⟨inner, story⟩ := (grown.compiled_of (Builder.story_stepwise (kb.opening rule).builder)
    ⟨[], .refl _⟩).2
  have opened : (kb.opening rule).builder.network.journal = some [] := by
    show (kb.builder.traced _).opened.network.journal = some []
    simp [Builder.opened, Builder.traced, on, Network.begin]
  have removed : (kb.compiled rule).network.rollback.1 = created inner := by
    have journal := story.journal
    rw [opened, Option.map_some, List.nil_append] at journal
    simp only [Network.rollback, journal]
  have added : (kb.compiled rule).network.nodes.map Node.id =
      (created inner).reverse ++ kb.network.nodes.map Node.id :=
    opening_nodes kb rule ▸ story.nodes
  have shared : ∀ before node kind, before ++ [.nodeShared node kind] <+: inner →
      kb.network.contains node = true ∨ node ∈ created before := by
    intro before node kind telling
    rw [← contains_opening kb rule]
    exact story.shared before node kind telling
  have begun : (kb.compiled rule).tracer =
      kb.builder.tracer.counting.recordAll (.ruleStart rule.name :: inner) := story.tracer
  refine ⟨inner, ⟨story.inner, story.rising, added, removed, ?_, shared⟩, ?_⟩
  · cases ended : (kb.addRule rule).outcome with
    | ok handle =>
      have kept : (kb.addRule rule).after.network = (kb.compiled rule).network.commit :=
        congrArg Builder.network (addRule_ok ended).2.2
      rw [kept]
      exact added
    | error failure =>
      rw [(addRule_error_unchanged grown NodeFactory.standard_orderly rollback ended).1.1]
  · unfold telling closing
    rw [Tracer.recordAll_append, ← begun]
    refine ⟨?_, grown.addRule_counted rule⟩
    cases ended : (kb.addRule rule).outcome with
    | ok handle =>
      rw [(addRule_ok ended).2.2]
      rfl
    | error failure =>
      have pruned : (kb.compiled rule).config.rollback = true := by
        rw [(grown.compiled_undoable rule).config]
        exact on
      rw [addRule_error ended]
      show (kb.compiled rule).tracer.recordAll _ = _
      rw [Builder.failureEvents, if_pos pruned, removed]

end KnowledgeBase

end RuleNet
