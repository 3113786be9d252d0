/-
**How often a match fires.**

A match that was run is kept out of later agendas, but an agenda is not searched for matches that
stand in it twice. So a session runs a match twice exactly if one call of `fireAll` does, and that
takes an invoker which makes a token twice.

* `Session.Ran`: the sessions that can be reached, with the sessions that rules were fired in;
* `agenda_nodup`: **an agenda lists every match once, unless an invoker doubles**;
* `started_nodup_iff`: **a match fires at most once per session exactly if no call runs one twice**;
* `everyOne_twice`: a call can run one twice.
-/

import RuleNet.Proofs.Build.Distinct
import RuleNet.Proofs.Build.Meaning
import RuleNet.Proofs.Match.Repeats
import RuleNet.Proofs.Session.Firing

namespace RuleNet

/-! ### Agendas -/

/-- A network lists each of its terminals once. -/
theorem Network.Distinct.terminals {network : Network} (distinct : network.Distinct) :
    network.terminals.Nodup := by
  have sorted : (network.byId.map Node.id).Nodup :=
    ((List.mergeSort_perm _ _).map Node.id).nodup_iff.mpr distinct
  exact (List.filter_sublist.map Node.id).nodup sorted

namespace Session

variable {session : Session}

/-- A match at a terminal names the terminal and the token. -/
theorem activation_key {terminal : Terminal} {id : NodeId} {token : Token} {result : Activation}
    (answer : activation terminal id token = .ok result) : result.key = (id, token) := by
  obtain ⟨bindings, _, answer⟩ := Outcome.bind_eq_ok.mp answer
  cases answer
  rfl

/-- **Matches are given at terminals only**, one for each token. -/
theorem matchesGiven_keys {network : Network} {memory : WorkingMemory} {id : NodeId}
    {matching : List Activation} (given : matchesGiven network memory id = .ok matching) :
    matching = [] ∨ ∃ node terminal tokens, network.node? id = some node ∧
      node.kind = .terminal terminal ∧
      node.tokensRead (feedAt network.nodes) memory = .ok tokens ∧
      matching.map Activation.key = tokens.map fun token => (id, token) := by
  unfold matchesGiven at given
  split at given
  · rename_i node found
    split at given
    · rename_i terminal kind
      cases made : (node.tokensRead (feedAt network.nodes) memory >>= fun tokens =>
          tokens.mapM (activation terminal id)) with
      | error failure =>
        rw [made] at given
        cases given
      | ok all =>
        rw [made] at given
        cases given
        obtain ⟨tokens, read, mapped⟩ := Outcome.bind_eq_ok.mp made
        exact Or.inr ⟨node, terminal, tokens, found, kind, read,
          Outcome.mapM_ok_keys mapped fun token result answer => activation_key answer⟩
    · cases given
      exact Or.inl rfl
  · cases given
    exact Or.inl rfl

/-- The matches at a node name it. -/
theorem matchesGiven_terminal {network : Network} {memory : WorkingMemory} {id : NodeId}
    {matching : List Activation} (given : matchesGiven network memory id = .ok matching) :
    ∀ activation ∈ matching, activation.terminal = id := by
  intro activation member
  rcases matchesGiven_keys given with rfl | ⟨node, terminal, tokens, _, _, _, keys⟩
  · cases member
  · have listed : activation.key ∈ matching.map Activation.key := List.mem_map_of_mem member
    rw [keys] at listed
    obtain ⟨token, _, same⟩ := List.mem_map.mp listed
    exact (Prod.mk.inj same).1.symm

/-- The matches at one terminal are told apart by their tokens. -/
theorem matchesGiven_nodup {network : Network} {memory : WorkingMemory} {id : NodeId}
    (distinct : network.Distinct) (numbered : memory.Numbered)
    (single : ∀ node ∈ network.nodes, ¬ node.Doubles (feedAt network.nodes) memory)
    {matching : List Activation} (given : matchesGiven network memory id = .ok matching) :
    (matching.map Activation.key).Nodup := by
  rcases matchesGiven_keys given with rfl | ⟨node, terminal, tokens, _, _, read, keys⟩
  · exact List.nodup_nil
  · obtain ⟨parent, _, found⟩ := Outcome.bind_eq_ok.mp read
    rw [keys]
    refine List.pairwise_map.mpr ?_
    refine (distinct.tokens_nodup numbered single found).imp fun different same => ?_
    exact different (Prod.mk.inj same).2

/-- Matches of different terminals differ. -/
theorem matchesGiven_flatten {network : Network} {memory : WorkingMemory} {ids : List NodeId}
    (distinct : network.Distinct) (numbered : memory.Numbered)
    (single : ∀ node ∈ network.nodes, ¬ node.Doubles (feedAt network.nodes) memory)
    (different : ids.Nodup) {lists : List (List Activation)}
    (given : ids.mapM (matchesGiven network memory) = .ok lists) :
    (lists.flatten.map Activation.key).Nodup ∧
      ∀ activation ∈ lists.flatten, activation.terminal ∈ ids := by
  induction ids generalizing lists with
  | nil =>
    cases given
    exact ⟨List.nodup_nil, fun _ member => nomatch member⟩
  | cons id rest hypothesis =>
    rw [List.mapM_cons] at given
    obtain ⟨first, here, given⟩ := Outcome.bind_eq_ok.mp given
    obtain ⟨others, there, answer⟩ := Outcome.bind_eq_ok.mp given
    cases answer
    obtain ⟨unseen, different⟩ := List.nodup_cons.mp different
    have own := matchesGiven_terminal here
    have tail := hypothesis different there
    rw [List.flatten_cons, List.map_append, List.nodup_append]
    refine ⟨⟨matchesGiven_nodup distinct numbered single here, tail.1,
      fun key listed other member same => ?_⟩, fun activation member => ?_⟩
    · obtain ⟨a, inside, rfl⟩ := List.mem_map.mp listed
      obtain ⟨b, later, rfl⟩ := List.mem_map.mp member
      have terminals : a.terminal = b.terminal := (Prod.mk.inj same).1
      rw [own a inside] at terminals
      exact unseen (terminals ▸ tail.2 b later)
    · rcases List.mem_append.mp member with now | later
      · rw [own activation now]
        exact List.mem_cons_self
      · exact List.mem_cons_of_mem _ (tail.2 activation later)

/-- **An agenda lists every match once**, unless an invoker doubles. -/
theorem agenda_nodup (distinct : session.kb.network.Distinct) (numbered : session.memory.Numbered)
    (single : ∀ node ∈ session.kb.network.nodes,
      ¬ node.Doubles (feedAt session.kb.network.nodes) session.memory)
    {agenda : List Activation} (listed : session.agenda.outcome = .ok agenda) :
    (agenda.map Activation.key).Nodup := by
  rw [agenda_eq distinct] at listed
  obtain ⟨lists, given, rfl⟩ := Outcome.map_eq_ok.mp listed
  have all := (matchesGiven_flatten distinct numbered single distinct.terminals given).1
  rw [((inFiringOrder_perm _).map Activation.key).nodup_iff, unstarted_eq_filter]
  exact (List.filter_sublist.map Activation.key).nodup all

/-! ### Runs -/

/-- **The sessions that can be reached** over a knowledge base, with the sessions that rules were
fired in, oldest first. Facts and values enter and leave, and rules fire, with or without success.
-/
inductive Ran (kb : KnowledgeBase) (bound : Nat) : List Session → Session → Prop
  | opened : Ran kb bound [] (openOver kb bound)
  | put {firings : List Session} {session : Session} (ran : Ran kb bound firings session)
      (source : Source) (value : Value) : Ran kb bound firings (session.put source value).session
  | retract {firings : List Session} {session : Session} (ran : Ran kb bound firings session)
      (handle : Handle) : Ran kb bound firings (session.retract handle).session
  | fireAll {firings : List Session} {session : Session} (ran : Ran kb bound firings session) :
      Ran kb bound (firings ++ [session]) session.fireAll.session

/-- An object that enters, if it may, changes working memory only. -/
theorem put_ends (session : Session) (source : Source) (value : Value) :
    ∃ memory, (session.put source value).session = { session with memory := memory } ∧
      (memory = session.memory ∨ memory = (session.memory.put source value).2) := by
  unfold put
  split
  · exact ⟨_, rfl, Or.inr rfl⟩
  · exact ⟨_, rfl, Or.inl rfl⟩

theorem retract_ends (session : Session) (handle : Handle) :
    (session.retract handle).session =
      { session with memory := (session.memory.retract handle).2 } := by
  unfold retract
  split
  · rename_i taken
    simp only [reply, taken]
  · rename_i missing
    have same := WorkingMemory.retract_missing (congrArg Prod.fst missing)
    simp only [reply, same]

namespace Ran

variable {kb : KnowledgeBase} {bound : Nat} {firings : List Session}

/-- A run keeps its knowledge base, and the handles of its objects are distinct. -/
theorem numbered (ran : Ran kb bound firings session) :
    (session.kb = kb ∧ session.memory.Numbered) ∧
      ∀ before ∈ firings, before.kb = kb ∧ before.memory.Numbered := by
  induction ran with
  | opened =>
    refine ⟨⟨rfl, ?_⟩, fun _ member => nomatch member⟩
    exact WorkingMemory.Numbered.empty.put (.entryPoint defaultEntryPoint) Fact.initial.toValue
  | put ran source value hypothesis =>
    obtain ⟨memory, same, rfl | rfl⟩ := put_ends _ source value
    · rw [same]
      exact hypothesis
    · rw [same]
      exact ⟨⟨hypothesis.1.1, hypothesis.1.2.put source value⟩, hypothesis.2⟩
  | retract ran handle hypothesis =>
    rw [retract_ends]
    exact ⟨⟨hypothesis.1.1, hypothesis.1.2.retract handle⟩, hypothesis.2⟩
  | @fireAll _ session ran hypothesis =>
    have runs := session.executed_runs.1
    refine ⟨⟨runs.kb.trans hypothesis.1.1, runs.memory ▸ hypothesis.1.2⟩, fun before member => ?_⟩
    rcases List.mem_append.mp member with earlier | last
    · exact hypothesis.2 before earlier
    · rw [List.mem_singleton.mp last]
      exact hypothesis.1

/-- **Matches of different calls differ.** So the matches that were run are distinct exactly if
those of every single call are. -/
theorem started_nodup (ran : Ran kb bound firings session) :
    (session.started.toList.map Activation.key).Nodup ↔
      ∀ before ∈ firings, (before.executed.map Activation.key).Nodup := by
  induction ran with
  | opened => exact ⟨fun _ _ member => (nomatch member), fun _ => List.nodup_nil⟩
  | put ran source value hypothesis =>
    obtain ⟨memory, same, _⟩ := put_ends _ source value
    rw [same]
    exact hypothesis
  | retract ran handle hypothesis =>
    rw [retract_ends]
    exact hypothesis
  | @fireAll _ session ran hypothesis =>
    obtain ⟨runs, listed⟩ := session.executed_runs
    have apart : ∀ old ∈ session.started.toList.map Activation.key,
        ∀ new ∈ session.executed.map Activation.key, old ≠ new := by
      intro old before new after same
      obtain ⟨earlier, inside, rfl⟩ := List.mem_map.mp before
      obtain ⟨activation, member, rfl⟩ := List.mem_map.mp after
      rcases listed with none | ⟨agenda, answer, part⟩
      · rw [none] at member
        cases member
      · exact agenda_unstarted answer activation (part.subset member) earlier inside same.symm
    rw [runs.started, List.map_append, List.nodup_append]
    constructor
    · rintro ⟨before, now, _⟩ call member
      rcases List.mem_append.mp member with earlier | last
      · exact hypothesis.mp before call earlier
      · rw [List.mem_singleton.mp last]
        exact now
    · intro every
      refine ⟨hypothesis.mpr fun call member => every call (List.mem_append_left _ member),
        every session (List.mem_append_right _ (List.mem_singleton.mpr rfl)), apart⟩

/-- Only matches that were run are in the history, each as often as it was run at most. -/
theorem history_sublist (ran : Ran kb bound firings session) :
    session.history.toList.Sublist session.started.toList := by
  induction ran with
  | opened => exact List.Sublist.refl _
  | put ran source value hypothesis =>
    obtain ⟨memory, same, _⟩ := put_ends _ source value
    rw [same]
    exact hypothesis
  | retract ran handle hypothesis =>
    rw [retract_ends]
    exact hypothesis
  | @fireAll _ session ran hypothesis =>
    obtain ⟨runs, _⟩ := session.executed_runs
    obtain ⟨succeeded, same, less⟩ := runs.history
    rw [runs.started, same]
    exact hypothesis.append less

end Ran

/-- **A match fires at most once per session exactly if no call of `fireAll` runs it twice**, over
every knowledge base and for every sequence of session steps. A call that runs a match twice has it
twice in its agenda, and some invoker makes a token twice. -/
theorem started_nodup_iff {config : BuildConfig} {factory : NodeFactory}
    {attempts : List (Rule × Outcome RuleHandle)} {kb : KnowledgeBase} {bound : Nat}
    {firings : List Session} (grown : KnowledgeBase.Grown config factory attempts kb)
    (ran : Ran kb bound firings session) :
    ((session.started.toList.map Activation.key).Nodup ↔
        ∀ before ∈ firings, (before.executed.map Activation.key).Nodup) ∧
      session.history.toList.Sublist session.started.toList ∧
      ∀ before ∈ firings, ¬ (before.executed.map Activation.key).Nodup →
        (∃ agenda, before.agenda.outcome = .ok agenda ∧ before.executed <+: agenda) ∧
        ∃ node ∈ kb.network.nodes, node.Doubles (feedAt kb.network.nodes) before.memory := by
  refine ⟨ran.started_nodup, ran.history_sublist, fun before member twice => ?_⟩
  obtain ⟨rfl, numbered⟩ := ran.numbered.2 before member
  rcases before.executed_runs.2 with empty | ⟨agenda, listed, part⟩
  · rw [empty] at twice
    exact absurd List.nodup_nil twice
  · refine ⟨⟨agenda, listed, part⟩, Classical.byContradiction fun none => twice ?_⟩
    have single : ∀ node ∈ before.kb.network.nodes,
        ¬ node.Doubles (feedAt before.kb.network.nodes) before.memory :=
      fun node inside doubles => none ⟨node, inside, doubles⟩
    have once := agenda_nodup grown.distinct numbered single listed
    exact (part.sublist.map Activation.key).nodup once

/-! ### Two sessions -/

section

open KnowledgeBase

/-- The knowledge base of a single rule. -/
def overSingle (rule : Rule) : KnowledgeBase :=
  ((KnowledgeBase.new default .standard).addRule rule).after

/-- A session over a single rule: rules fire, a person enters, and rules fire again. -/
def aroundPerson (rule : Rule) : Session :=
  ((openOver (overSingle rule) defaultBound).fireAll.session.put (.entryPoint defaultEntryPoint)
    (Fact.named "Person").toValue).session.fireAll.session

theorem aroundPerson_ran (rule : Rule) : Ran (overSingle rule) defaultBound
    ([] ++ [openOver (overSingle rule) defaultBound] ++
      [((openOver (overSingle rule) defaultBound).fireAll.session.put
        (.entryPoint defaultEntryPoint) (Fact.named "Person").toValue).session])
    (aroundPerson rule) :=
  (Ran.opened.fireAll.put _ _).fireAll

theorem aroundPerson_sorted (rule : Rule) : aroundPerson rule =
    ((openOver (overSingle rule) defaultBound).sortedCall.2.put (.entryPoint defaultEntryPoint)
      (Fact.named "Person").toValue).session.sortedCall.2 := by
  rw [aroundPerson, (fireAll_sorted _).2, (fireAll_sorted _).2]

/-- Without invokers no match fires twice. -/
theorem everyPerson_once :
    (aroundPerson everyPerson).started.size = 1 ∧
      ((aroundPerson everyPerson).started.toList.map Activation.key).Nodup := by
  have plain : (overSingle everyPerson).network.nodes.all
      (fun node => node.kind.sort != .invoker) = true := by decide +kernel
  have size : (aroundPerson everyPerson).started.size = 1 := by
    rw [aroundPerson_sorted]
    decide +kernel
  obtain ⟨once, _, cause⟩ :=
    started_nodup_iff (Grown.new.addRule everyPerson) (aroundPerson_ran everyPerson)
  refine ⟨size, once.mpr fun before member => Classical.byContradiction fun twice => ?_⟩
  obtain ⟨_, node, inside, invocation, args, constraints, _, kind, _⟩ := cause before member twice
  have other := List.all_eq_true.mp plain node inside
  rw [kind] at other
  cases other

/-- A rule over a function that returns a value twice. -/
def everyOne : Rule where
  name := "every one"
  salience := 0
  view := .pattern (.of ⟨0, "x", .int⟩
    (.invoke ⟨"ones", [], true, fun _ => .ok (.vec [.int 1, .int 1])⟩))
  consequence := ⟨[⟨0, "x", .int⟩], fun _ => .ok ()⟩

/-- **A match can fire twice**, both times with success. -/
theorem everyOne_twice :
    ∃ attempts firings kb, KnowledgeBase.Grown default .standard attempts kb ∧
      Ran kb defaultBound firings (aroundPerson everyOne) ∧
      ¬ ((aroundPerson everyOne).started.toList.map Activation.key).Nodup ∧
      ¬ ((aroundPerson everyOne).history.toList.map Activation.key).Nodup := by
  have twice : ¬ ((aroundPerson everyOne).history.toList.map Activation.key).Nodup := by
    rw [aroundPerson_sorted]
    decide +kernel
  have ran := aroundPerson_ran everyOne
  refine ⟨_, _, _, Grown.new.addRule everyOne, ran, fun once => twice ?_, twice⟩
  exact (ran.history_sublist.map Activation.key).nodup once

end

end Session

end RuleNet
