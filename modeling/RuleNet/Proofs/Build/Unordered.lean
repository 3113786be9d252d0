/-
**Matches do not depend on the order of the objects.**

A rule without accumulate patterns is compiled to nodes that fold nothing, whatever other rules the
network holds. As long as the callbacks above its terminal answer, the tokens that the terminal reads
are the same for every order of the objects, up to their own order.

* `Build.Unfolds`: half way through a rule, the node at the tuple cursor has no fold above it, and
  `unfolds_tracked`: every step of the compiler keeps that, as long as patterns fold nothing;
* `Pattern.Answers`: the callbacks of a pattern never fail, and `answering_stepwise`: the compiler
  puts no others into the network;
* `Grown.answers`: **if the callbacks of the rules never fail, those of the nodes do not**;
* `Grown.matches_shuffled`: **the same objects in another order give the same tokens in some order**.
-/

import RuleNet.Proofs.Build.Lasting
import RuleNet.Proofs.Build.Recompiled
import RuleNet.Proofs.Match.Shuffled

namespace RuleNet

open Stateful

/-! ### Nodes without folds -/

/-- The pattern folds objects. -/
def Pattern.folds (leaf : Pattern) : Bool :=
  match leaf.use with
  | .accumulate _ => true
  | _ => false

/-- The node folds nothing, if it extends tuples. -/
def NodeKind.Foldless (kind : NodeKind) : Prop :=
  kind.isBeta = true → kind.isFoldless = true

/-- **A pattern that folds nothing** asks for nodes that fold nothing. -/
theorem Pattern.wants_foldless {leaf : Pattern} (foldless : leaf.folds = false) :
    leaf.Wants NodeKind.Foldless where
  filters _ _ extending := nomatch extending
  node scope _ := by
    unfold BuildContext.kindOf
    unfold folds at foldless
    cases use : leaf.use with
    | accumulate bindings =>
      rw [use] at foldless
      cases foldless
    | _ => rfl

/-- A network that grows keeps the nodes above a node. -/
theorem Network.Unfolded.mono {network after : Network} {id : NodeId}
    (unfolded : network.Unfolded id) (wider : network.Extends after) : after.Unfolded id := by
  induction unfolded with
  | started found adapter =>
    obtain ⟨children, there⟩ := wider.nodes _ _ found
    exact .started there adapter
  | extended found foldless parent _ hypothesis =>
    obtain ⟨children, there⟩ := wider.nodes _ _ found
    exact .extended there foldless parent hypothesis

namespace Build

open Builder

/-- **Half way through a rule, the node at the tuple cursor has no fold above it.** -/
def Unfolds (builder : Builder) (cursor : Option NodeId) : Prop :=
  builder.Complete ∧ ∀ tuple, cursor = some tuple → builder.network.Unfolded tuple

/-- **The node that the tuple cursor moves onto** stands in for one that starts tuples or extends
those at the cursor, and folds nothing as that one does. -/
theorem unfolded_of_moves {builder : Builder} {cursor : Option NodeId} {kind : NodeKind}
    {tuple object : Option NodeId} {share : Builder → Bool} {id : NodeId}
    (asks : Asks kind tuple object share) (foldless : kind.Foldless)
    (moves : Moves cursor kind tuple)
    (unfolded : ∀ tuple, cursor = some tuple → builder.network.Unfolded tuple)
    (stands : Stands kind tuple object builder id) :
    builder.network.Unfolded id := by
  obtain ⟨node, found, ⟨_, above⟩, same⟩ := stands
  rcases moves with ⟨rfl, _⟩ | ⟨extending, rfl⟩
  · exact .started found (NodeKind.eq_adapter same)
  · cases asks with
    | beta _ parent _ =>
      have own := (NodeKind.isFoldless_same same).trans (foldless extending)
      exact .extended found own above (unfolded parent rfl)
    | _ => cases extending

/-- **Every step of the compiler keeps it**, as long as patterns fold nothing. -/
theorem unfolds_tracked : Tracked NodeKind.Foldless Unfolds :=
  tracked_of_moves (fun network cursor => ∀ tuple, cursor = some tuple → network.Unfolded tuple)
    (fun wider unfolded tuple named => (unfolded tuple named).mono wider)
    fun asks foldless moves unfolded stands _ named =>
      Option.some.inj named ▸ unfolded_of_moves asks foldless moves unfolded stands

end Build

/-! ### Nodes that answer -/

/-- **The callbacks of the pattern never fail**, for the numbers of arguments that it gives them.
Aggregate functions are not asked about. -/
structure Pattern.Answers (leaf : Pattern) : Prop where
  predicates : ∀ single ∈ leaf.constraint.singles, single.predicate.Answers single.reads.length
  invocation : ∀ invocation, leaf.use = .invoke invocation →
    invocation.Answers invocation.params.length

/-- **A pattern whose callbacks never fail** asks for nodes whose callbacks never fail. -/
theorem Pattern.Answers.wants {leaf : Pattern} (answers : leaf.Answers) :
    leaf.Wants NodeKind.Answers where
  filters := answers.predicates
  node scope := by
    have placed : ∀ kept : SingleConstraint → Bool, ∀ constraint ∈
        (leaf.constraint.singles.filter kept).map (scope.placed leaf.subject),
          constraint.Answers := by
      intro kept constraint listed
      obtain ⟨single, member, rfl⟩ := List.mem_map.mp listed
      have own := answers.predicates single (List.mem_filter.mp member).1
      unfold BoundConstraint.Answers BuildContext.placed
      rw [List.length_map]
      exact own
    unfold BuildContext.kindOf
    cases use : leaf.use with
    | plain => exact placed _
    | existential quantifier => exact placed _
    | accumulate bindings => trivial
    | invoke invocation =>
      refine ⟨?_, placed _⟩
      rw [List.length_map]
      exact answers.invocation invocation use

/-- A pattern without constraints has no callbacks. -/
theorem Pattern.answers_of (subject : Variable) : (Pattern.of subject .plain).Answers where
  predicates _ none := nomatch none
  invocation _ plain := nomatch plain

/-- **Nodes that answer are all that is added**, if those that are made answer. -/
theorem Builder.answering_stepwise :
    StepwiseFor NodeKind.Answers fun builder =>
      ∀ node ∈ builder.network.nodes, node.kind.Answers where
  asked _ _ _ answering := answering
  made {builder ids wanted} allow _ _ _ answering := by
    intro node member
    rcases List.mem_cons.mp member with rfl | old
    · exact allow
    · obtain ⟨before, inside, same⟩ := List.mem_map.mp old
      have kept : node.kind = before.kind := by
        rw [← same]
        exact Network.kind_adopted _ _
      rw [kept]
      exact answering before inside
  shared _ _ answering := answering
  registered source _ _ answering := by
    cases source <;> exact answering
  aside _ answering := answering

namespace KnowledgeBase

variable {config : BuildConfig} {attempts : List (Rule × Outcome RuleHandle)} {kb : KnowledgeBase}

/-- Every node was made for a rule that was attempted. -/
theorem Grown.kinds_answer (grown : Grown config .standard attempts kb)
    (answers : ∀ attempt ∈ attempts, ∀ leaf ∈ attempt.1.view.patterns, leaf.Answers) :
    ∀ node ∈ kb.network.nodes, node.kind.Answers := by
  induction grown with
  | new => exact fun _ member => nomatch member
  | @addRule attempts kb grown rule hypothesis =>
    have before := hypothesis fun attempt member =>
      answers attempt (List.mem_append_left _ member)
    have own := answers _ (List.mem_append_right _ (List.mem_singleton.mpr rfl))
    have opened : ∀ node ∈ (kb.opening rule).builder.network.nodes, node.kind.Answers := by
      rw [opening_nodes]
      exact before
    have tracked := Builder.answering_stepwise.tracked fun _ _ => ⟨trivial, trivial, trivial⟩
    have compiled : (kb.compiled rule).Complete ∧
        ∀ node ∈ (kb.compiled rule).network.nodes, node.kind.Answers :=
      (Build.rule_tracks tracked trivial (fun leaf listed => (own leaf listed).wants)
        (fun _ => trivial) (kb.opening rule) ⟨grown.opening_complete rule, opened⟩).either
    rcases grown.nodes_left rule with nodes | nodes <;> rw [nodes]
    · exact compiled.2
    · exact before
  | trace _ step hypothesis => exact hypothesis answers

/-- **If the callbacks of the rules never fail, those above a node do not**, whatever nodes are
shared and whatever rules failed. -/
theorem Grown.answers (grown : Grown config .standard attempts kb)
    (answers : ∀ attempt ∈ attempts, ∀ leaf ∈ attempt.1.view.patterns, leaf.Answers) {id : NodeId}
    (known : kb.network.contains id = true) : kb.network.Answers id := by
  have kinds := grown.kinds_answer answers
  have complete := grown.complete
  -- parents have smaller ids
  induction index : id.index using Nat.strongRecOn generalizing id with
  | ind index hypothesis =>
    obtain ⟨node, found⟩ := Network.node?_isSome known
    have member := Network.node?_mem found
    refine .node found (kinds node member) fun parent named => ?_
    have below := complete.stacked.parent_lt member named
    rw [Network.node?_id found] at below
    exact hypothesis parent.index (by omega) (complete.contains_parent member named) rfl

/-- **The terminal of a rule without folds** reads tokens of a node with no fold above it. -/
theorem Grown.unfolded (grown : Grown config .standard attempts kb) {rule : Rule}
    {handle : RuleHandle} (added : (rule, .ok handle) ∈ attempts)
    (foldless : ∀ leaf ∈ rule.view.patterns, leaf.folds = false) :
    ∃ last tuple, kb.network.node? handle.terminal = some last ∧ last.kind.sort = .terminal ∧
      last.tupleParent = some tuple ∧ kb.network.Unfolded tuple := by
  obtain ⟨start, done, mid, tuple, places, children, complete, new, ended, within, seated, found⟩ :=
    Build.compiled_body (grown.compiled added)
  have fresh : Builder.Tracks Build.Unfolds start := by
    refine ⟨complete, fun tuple named => ?_⟩
    rw [new] at named
    cases named
  have walked := Build.body_tracks Build.unfolds_tracked (fun extending => nomatch extending)
    (fun leaf listed => Pattern.wants_foldless (foldless leaf listed)) start fresh
  unfold Ensures at walked
  rw [ended] at walked
  exact ⟨_, tuple, found, rfl, rfl, (walked.2 tuple seated.tuple).mono within.network⟩

/-- **Matches do not depend on the order in which objects were inserted.** Take a rule without
accumulate patterns, and let no callback in the nodes above its terminal fail. If two working
memories hold the same objects under the same handles in every source, each in some order, then the
tokens that the terminal reads are the same, in some order. Other rules may fold objects and have
callbacks that fail. If no callback of any rule does, none does above the terminal (`Grown.answers`).
-/
theorem Grown.matches_shuffled (grown : Grown config .standard attempts kb) {rule : Rule}
    {handle : RuleHandle} (added : (rule, .ok handle) ∈ attempts)
    (foldless : ∀ leaf ∈ rule.view.patterns, leaf.folds = false)
    (answers : kb.network.Answers handle.terminal) :
    ∃ last tuple, kb.network.node? handle.terminal = some last ∧ last.kind.sort = .terminal ∧
      last.tupleParent = some tuple ∧
      ∀ memory other, memory.Shuffled other →
        ∀ state, Evaluation.Reached kb.network memory state →
        ∀ again, Evaluation.Reached kb.network other again →
          ∃ tokens others, (result (kb.network.tokens memory tuple) state).1 = .ok tokens ∧
            (result (kb.network.tokens other tuple) again).1 = .ok others ∧
            tokens.Perm others := by
  obtain ⟨last, tuple, found, sort, above, unfolded⟩ := grown.unfolded added foldless
  have layered := (grown.realizes fun _ attempted => attempted).1.layered
  have answering := (answers.parents found).2 tuple (by simp [Node.parents, above])
  refine ⟨last, tuple, found, sort, above, fun memory other same state reached again further => ?_⟩
  obtain ⟨tokens, others, here, there, shuffled⟩ :=
    unfolded.tokens_shuffled layered answering same
  refine ⟨tokens, others, ?_, ?_, shuffled⟩
  · exact (reached.tokens_eq layered.distinct tuple).trans here
  · exact (further.tokens_eq layered.distinct tuple).trans there

/-- The predicate of the second rule never fails for two arguments. -/
theorem twoPersons_answer : ∀ leaf ∈ twoPersons.view.patterns, leaf.Answers := by
  have differ : Predicate.Answers (.fixed "differ" 2 fun args => .ok (args[0]? != args[1]?)) 2 := by
    intro args two
    simp [Predicate.test, Predicate.fixed, two, Traced.ofCall]
  intro leaf listed
  rcases List.mem_cons.mp listed with rfl | listed
  · exact Pattern.answers_of _
  · rw [List.mem_singleton.mp listed]
    refine ⟨fun single one => ?_, fun _ plain => nomatch plain⟩
    rw [List.mem_singleton.mp one]
    exact differ

/-- Pairs of persons that differ, with the persons in any other order. -/
theorem twoPersons_shuffled :
    let kb := ((KnowledgeBase.new default .standard).addRule everyPerson).after
    ∃ handle last tuple, (kb.addRule twoPersons).outcome = .ok handle ∧
      (kb.addRule twoPersons).after.network.node? handle.terminal = some last ∧
      last.tupleParent = some tuple ∧
      ∀ memory other, memory.Shuffled other →
        ∃ tokens others,
          (result ((kb.addRule twoPersons).after.network.tokens memory tuple) .fresh).1 =
            .ok tokens ∧
          (result ((kb.addRule twoPersons).after.network.tokens other tuple) .fresh).1 =
            .ok others ∧
          tokens.Perm others := by
  intro kb
  have grown : Grown default .standard _ (kb.addRule twoPersons).after :=
    (Grown.new.addRule everyPerson).addRule twoPersons
  have succeeds : (kb.addRule twoPersons).outcome.isOk = true := by decide +kernel
  cases ended : (kb.addRule twoPersons).outcome with
  | error failure =>
    rw [ended] at succeeds
    cases succeeds
  | ok handle =>
    rw [ended] at grown
    have foldless : ∀ leaf ∈ twoPersons.view.patterns, leaf.folds = false := by decide
    obtain ⟨last, _, there, _⟩ :=
      grown.unfolded (List.mem_append_right _ (List.mem_singleton.mpr rfl)) foldless
    have answers := grown.answers (fun attempt member leaf listed => by
      rcases List.mem_append.mp member with first | second
      · rw [List.mem_singleton.mp first] at listed
        rw [List.mem_singleton.mp listed]
        exact Pattern.answers_of _
      · rw [List.mem_singleton.mp second] at listed
        exact twoPersons_answer leaf listed) (Network.contains_of_node? there)
    obtain ⟨last, tuple, found, _, above, shuffled⟩ := grown.matches_shuffled
      (List.mem_append_right _ (List.mem_singleton.mpr rfl)) foldless answers
    exact ⟨handle, last, tuple, rfl, found, above, fun memory other same =>
      shuffled memory other same .fresh .fresh .fresh .fresh⟩

end KnowledgeBase

end RuleNet
