/-
**Evaluating a compiled network is safe.**

The compiler hands out places while it walks a view, and the evaluator appends values on its own.
Both count alike: every tuple-producing node has one width, and nothing reads outside of it.

* `Network.Shaped`: what a node and its parents agree about, for given widths;
* `Layered.shaped`: every node of a layered network is shaped;
* `agenda_safe`: **an agenda fails with a structural violation only if a callback returned one.**
-/

import RuleNet.Proofs.Build.Meaning
import RuleNet.Proofs.Session.Agenda

namespace RuleNet

open Stateful

/-- **A node agrees with its parents**, given how many values the tokens of each node have. The
parents are there under smaller ids and give what the node reads. Every place that the node reads is
below the width of its tuple parent, aggregate functions put their results right behind, and the
node's own width follows. -/
structure Network.Shaped (network : Network) (width : NodeId → Nat) (node : Node) : Prop where
  objects : if node.kind.readsObjects
    then ∃ above ∈ network.nodes, node.objectParent = some above.id ∧
      above.id.index < node.id.index ∧ ∃ inner, above.kind.gives inner = some .objects
    else node.objectParent = none
  tuples : if node.kind.readsTuples
    then ∃ above ∈ network.nodes, node.tupleParent = some above.id ∧
      above.id.index < node.id.index ∧
      (∃ inner, above.kind.gives inner = some (.tuples (width above.id))) ∧
      node.kind.Within (width above.id) ∧
      ∀ stream, node.kind.gives (width above.id) = some stream → stream = .tuples (width node.id)
    else node.tupleParent = none
  adapter : node.kind = .adapter → width node.id = 1

/-- **The nodes of a layered network are shaped**, by the widths of what they give. -/
theorem Layered.shaped {network : Network} (layered : Layered network.nodes) {node : Node}
    (member : node ∈ network.nodes) :
    network.Shaped (fun id => (feedAt network.nodes id).width) node := by
  have fits := layered.fits member
  have there : ∀ {parent : NodeId} {stream : Stream}, parent ∈ node.parents →
      (feedAt network.nodes parent).stream = some stream →
      ∃ above ∈ network.nodes, above.id = parent ∧ above.id.index < node.id.index ∧
        ∃ inner, above.kind.gives inner = some stream := by
    intro parent stream named given
    obtain ⟨⟨above, inside, rfl⟩, smaller⟩ := layered.parent_lt member named
    rw [layered.feed_node inside] at given
    exact ⟨above, inside, rfl, smaller, _, given⟩
  constructor
  · by_cases reads : node.kind.readsObjects = true
    · rw [if_pos reads]
      obtain ⟨parent, named, given⟩ := fits.objectParent reads
      obtain ⟨above, inside, rfl, smaller, gives⟩ := there (by simp [Node.parents, named]) given
      exact ⟨above, inside, named, smaller, gives⟩
    · rw [if_neg reads]
      simpa [reads] using fits.objects
  · by_cases reads : node.kind.readsTuples = true
    · rw [if_pos reads]
      obtain ⟨parent, width, named, given, within⟩ := fits.tupleParent reads
      obtain ⟨above, inside, rfl, smaller, gives⟩ := there (by simp [Node.parents, named]) given
      have wide := Feed.width_of_stream given
      refine ⟨above, inside, named, smaller, wide ▸ gives, wide ▸ within, fun stream own => ?_⟩
      have feed : (feedAt network.nodes node.id).stream = some stream := by
        rw [layered.feed_node member]
        simpa only [Node.feed, Node.widthRead, named] using own
      obtain ⟨own, rfl⟩ := NodeKind.gives_tuples reads own
      exact congrArg Stream.tuples (Feed.width_of_stream feed).symm
    · rw [if_neg reads]
      simpa [reads] using fits.tuples
  · intro kind
    refine Feed.width_of_stream ?_
    rw [layered.feed_node member]
    simp only [Node.feed, kind, NodeKind.gives]

/-- A structural violation that a callback is blamed for was returned by its body. -/
theorem Blame.of_structural {callbacks : List Callback} {calls : List Call} {failure : Failure}
    (blame : Blame callbacks calls failure) (structural : failure.kind = .structural) :
    ∃ callback ∈ callbacks, ∃ call ∈ calls, callback.Fails call failure := by
  obtain ⟨callback, member, fails | refuses⟩ := blame
  · exact ⟨callback, member, fails⟩
  · exact absurd structural refuses.kind_ne

namespace KnowledgeBase

variable {config : BuildConfig} {attempts : List (Rule × Outcome RuleHandle)} {kb : KnowledgeBase}

/-- **Evaluating a compiled network is safe.** In every history, with rules that compiled and rules
that failed, there are widths for which every node agrees with its parents, and every token at a
node has as many values as the node's width. Over every working memory the agenda fails with a
structural violation only if a callback of a rule ran and returned it. -/
theorem agenda_safe (grown : Grown config .standard attempts kb) : ∃ width : NodeId → Nat,
    (∀ node ∈ kb.network.nodes, kb.network.Shaped width node) ∧
    (∀ memory state, Evaluation.Reached kb.network memory state → ∀ id tokens,
      (result (kb.network.tokens memory id) state).1 = .ok tokens →
        ∀ token ∈ tokens, token.width = width id) ∧
    ∀ session : Session, session.kb = kb → ∀ failure,
      session.agenda.outcome = .error failure → failure.kind = .structural →
        ∃ callback, Attempted attempts callback ∧ ∃ call ∈ session.agenda.calls,
          ∃ cause : Failure, cause.fault = failure.fault ∧ callback.Fails call cause := by
  have sound := (grown.realizes fun _ attempted => attempted).1
  have layered : Layered kb.network.nodes := sound.layered
  refine ⟨fun id => (feedAt kb.network.nodes id).width, fun node member => layered.shaped member,
    fun memory state reached id tokens returned => ?_,
    fun session same failure failed structural => ?_⟩
  · rw [reached.tokens_eq layered.distinct] at returned
    obtain ⟨width, given⟩ := stream_of_tokens returned
    have wide := Feed.width_of_stream given
    exact fun token member => (layered.tokens_width given returned token member).trans wide.symm
  · subst same
    obtain ⟨node, member, cause, fault, blame⟩ := Session.agenda_charged layered failed
    have kind : cause.kind = .structural := (congrArg Fault.kind fault).trans structural
    obtain ⟨callback, listed, call, made, fails⟩ := blame.of_structural kind
    exact ⟨callback, sound.known node member callback listed, call, made, cause, fault, fails⟩

/-- The network that a rule and a failed rule leave is safe. -/
theorem twoPersonsOr_safe :
    let kb := (((KnowledgeBase.new default .standard).addRule everyPerson).after.addRule
      twoPersonsOr).after
    ∃ width : NodeId → Nat, ∀ node ∈ kb.network.nodes, kb.network.Shaped width node := by
  intro kb
  have grown : Grown default .standard _ kb := (Grown.new.addRule everyPerson).addRule twoPersonsOr
  obtain ⟨width, shaped, _⟩ := agenda_safe grown
  exact ⟨width, shaped⟩

end KnowledgeBase

end RuleNet
