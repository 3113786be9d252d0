/-
**Sharing nodes cannot be observed.**

What a knowledge base answers to its rules does not depend on which nodes they share, and neither
does the agenda of a session: it holds the matches of the accepted rules, which are functions of
the rules and of working memory.

* `Rule.activation`: a match of a rule's view, as it stands on an agenda;
* `Realizes.matchesGiven`: the matches at a terminal are those of the rule that it realizes;
* `agenda_accepted`: **the agenda, from the rules alone**;
* `sharing_unobservable`: **two histories of the same rules cannot be told apart** by what they
  share.
-/

import RuleNet.Proofs.Build.Accepted
import RuleNet.Proofs.Session.Agenda

namespace RuleNet

open Stateful

/-! ### The matches of a rule -/

/-- **A match of the rule's view, on an agenda.** The consequence gets the values of its variables. -/
def Rule.activation (rule : Rule) (terminal : NodeId) (matching : Match) : Activation :=
  ⟨rule.name, rule.salience, terminal,
    rule.consequence.bindings.map fun v => (matching.value? v).getD .nil, matching.token⟩

/-- **All matches of a rule**, or the failure of one of its callbacks, placed in the rule. -/
def Rule.activations (rule : Rule) (terminal : NodeId) (memory : WorkingMemory) :
    Outcome (List Activation) :=
  Session.placedIn rule.name
    ((rule.view.evaluate memory).outcome.map (List.map (rule.activation terminal)))

/-- **The matches at a terminal are those of the rule that it realizes.** -/
theorem Network.Realizes.matchesGiven {trust : Prop} {network : Network} {rule : Rule}
    {terminal tuple : NodeId} {scope : BuildContext}
    (realizes : network.Realizes trust rule terminal scope tuple) (layered : Layered network.nodes)
    (trusts : trust) (memory : WorkingMemory) :
    Session.matchesGiven network memory terminal = rule.activations terminal memory := by
  obtain ⟨children, found⟩ := realizes.node
  unfold Session.matchesGiven Rule.activations
  simp only [found, Node.tokensRead, Node.needTuple, Outcome.ok_bind,
    realizes.follows.tokens trusts tuple realizes.cursor memory]
  congr 1
  cases read : (feedAt network.nodes tuple).tokens memory with
  | error failure => rfl
  | ok tokens =>
    have wide := layered.tokens_width (realizes.follows.stream tuple realizes.cursor) read
    simp only [Outcome.ok_bind, Except.map, List.map_map]
    refine Outcome.mapM_eq_ok_map fun token member => ?_
    have places : ∀ v ∈ rule.consequence.bindings, ∃ offset,
        scope.offset? v = some offset ∧ offset < token.width := fun v taken => by
      obtain ⟨offset, named⟩ := realizes.bound v taken
      exact ⟨offset, named, wide token member ▸ realizes.follows.inRange.offset?_lt named⟩
    rw [Session.activation_ok (fun offset listed => ?_)]
    · simp only [Rule.activation, Function.comp_apply, List.map_map]
      congr 2
      refine List.map_congr_left fun v taken => ?_
      obtain ⟨offset, named, _⟩ := places v taken
      simp only [Function.comp_apply, scope.describe_value?, named, Option.getD_some,
        Option.map_some]
    · obtain ⟨v, taken, rfl⟩ := List.mem_map.mp listed
      obtain ⟨offset, named, inside⟩ := places v taken
      rw [named]
      exact inside

namespace KnowledgeBase

variable {config other : BuildConfig} {attempts others : List (Rule × Outcome RuleHandle)}
  {kb twin : KnowledgeBase}

/-- **The agenda, from the rules alone.** It holds the matches of the rules that were accepted,
oldest rule first, without those that were run, in firing order. The first rule with a callback
that fails makes it fail. -/
theorem agenda_accepted (grown : Grown config .standard attempts kb)
    (trusted : Builder.Trusted (Attempted attempts) config) {session : Session}
    (opened : session.kb = kb) :
    session.agenda.outcome =
      ((accepted attempts).mapM fun entry : Rule × RuleHandle =>
        entry.1.activations entry.2.terminal session.memory).map fun found =>
          Session.inFiringOrder (session.unstarted found.flatten) := by
  obtain ⟨sound, realized⟩ := grown.realizes fun _ attempted => attempted
  subst opened
  rw [Session.agenda_eq sound.layered.distinct, grown.terminals, List.mapM_map]
  congr 1
  refine Outcome.mapM_congr fun entry listed => ?_
  obtain ⟨rule, handle⟩ := entry
  obtain ⟨_, scope, tuple, realizes⟩ := realized rule handle (mem_accepted listed)
  exact realizes.matchesGiven sound.layered trusted session.memory

/-- **Sharing nodes cannot be observed.** Two histories in which a knowledge base was asked to add
the same rules, and that agree in whether failures are rolled back, have the same answers: the
same rules were accepted, and the others failed with the same failures at the same places. Over
the same working memory and with the same matches run before, sessions over the two have the same
agenda, or the same failure of a callback. Callbacks with the same key must behave alike. -/
theorem sharing_unobservable (grown : Grown config .standard attempts kb)
    (grows : Grown other .standard others twin) (rollback : config.rollback = other.rollback)
    (rules : attempts.map Prod.fst = others.map Prod.fst)
    (faithful : Faithful (Attempted attempts)) :
    attempts = others ∧ ∀ session counterpart : Session, session.kb = kb → counterpart.kb = twin →
      session.memory = counterpart.memory → session.started = counterpart.started →
      session.agenda.outcome = counterpart.agenda.outcome := by
  have same : attempts = others := by
    have answers := grown.ledger
    rw [rollback, rules, grows.ledger] at answers
    exact (Prod.mk.inj answers).1.symm
  subst same
  refine ⟨rfl, fun session counterpart here there memory started => ?_⟩
  rw [agenda_accepted grown (fun _ => faithful) here,
    agenda_accepted grows (fun _ => faithful) there, memory]
  congr 1
  funext found
  rw [Session.unstarted_eq_filter, Session.unstarted_eq_filter]
  unfold Session.hasStarted
  rw [started]

/-- Every person, and two persons that differ, compiled as a configuration says. -/
def everyPersonAndTwo (config : BuildConfig) : KnowledgeBase :=
  (((KnowledgeBase.new config .standard).addRule everyPerson).after.addRule twoPersons).after

/-- Two persons. -/
def twoPresent : WorkingMemory :=
  ((WorkingMemory.empty.put (.entryPoint defaultEntryPoint) (Fact.named "Person").toValue).2.put
    (.entryPoint defaultEntryPoint) (Fact.named "Person").toValue).2

/-- Without sharing the network is larger, and the agenda over two persons is the same. -/
theorem everyPersonAndTwo_unshared :
    (everyPersonAndTwo default).network.size < (everyPersonAndTwo .unshared).network.size ∧
      (Session.agenda ⟨everyPersonAndTwo default, twoPresent, 10, #[], #[]⟩).outcome =
        (Session.agenda ⟨everyPersonAndTwo .unshared, twoPresent, 10, #[], #[]⟩).outcome := by
  have grown : Grown default .standard _ (everyPersonAndTwo default) :=
    (Grown.new.addRule everyPerson).addRule twoPersons
  have grows : Grown .unshared .standard _ (everyPersonAndTwo .unshared) :=
    (Grown.new.addRule everyPerson).addRule twoPersons
  refine ⟨by decide +kernel, ?_⟩
  obtain ⟨_, agree⟩ := sharing_unobservable grown grows rfl
    (by simp only [List.map_append, List.map_cons, List.map_nil])
    (trusted_twoPersons _ _ (Or.inl rfl))
  -- what the two were compiled to does not matter any more
  generalize everyPersonAndTwo default = kb at agree ⊢
  generalize everyPersonAndTwo .unshared = twin at agree ⊢
  exact agree ⟨kb, twoPresent, 10, #[], #[]⟩ ⟨twin, twoPresent, 10, #[], #[]⟩ rfl rfl rfl rfl

end KnowledgeBase

end RuleNet
