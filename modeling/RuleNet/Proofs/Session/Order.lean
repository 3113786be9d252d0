/-
**The order of the agenda.**

Rules are listed in the order in which they were accepted, and so are their terminals: a terminal is
never shared, and ids count up. So the agenda, which is sorted by salience and then by the id of the
terminal, follows the rules.

* `Grown.rules_ordered`: **the rules list the terminals of the network**, with growing numbers and
  ids;
* `Session.Finds`: the matches of one rule, in the order of the tokens above its terminal;
* `Session.isNew`, `Ran.started_called`: the matches that were not run before, which are **those
  whose consequence was not called**;
* `agenda_ordered`: **an agenda holds the matches that were not run before**, larger salience first,
  then older rules, then in the order in which the rule found them.
-/

import RuleNet.Proofs.Build.Accepted
import RuleNet.Proofs.Build.Stepwise
import RuleNet.Proofs.Session.Round

namespace RuleNet

open Stateful

namespace KnowledgeBase

variable {config : BuildConfig} {attempts : List (Rule × Outcome RuleHandle)} {kb : KnowledgeBase}

/-! ### The numbers of rules -/

/-- **Numbers grow from rule to rule**, and none is above the count. -/
theorem Grown.sequences (grown : Grown config .standard attempts kb) :
    (kb.rules.Pairwise fun earlier later => earlier.sequence < later.sequence) ∧
      ∀ handle ∈ kb.rules, handle.sequence ≤ kb.builder.compiled := by
  induction grown with
  | new => exact ⟨List.Pairwise.nil, fun _ member => nomatch member⟩
  | @addRule attempts kb grown rule hypothesis =>
    obtain ⟨rising, below⟩ := hypothesis
    obtain ⟨counted, numbered⟩ := grown.addRule_counted rule
    rw [counted]
    cases ended : (kb.addRule rule).outcome with
    | error failure =>
      rw [rules_of_error ended]
      exact ⟨rising, fun handle listed => Nat.le_succ_of_le (below handle listed)⟩
    | ok handle =>
      have number := numbered handle ended
      rw [rules_of_ok ended, List.pairwise_append]
      refine ⟨⟨rising, List.pairwise_singleton _ _, fun earlier listed later last => ?_⟩,
        fun other listed => ?_⟩
      · rw [List.mem_singleton.mp last, number]
        exact Nat.lt_succ_of_le (below earlier listed)
      · rcases List.mem_append.mp listed with before | last
        · exact Nat.le_succ_of_le (below other before)
        · exact Nat.le_of_eq ((List.mem_singleton.mp last).symm ▸ number)
  | trace _ _ hypothesis => exact hypothesis

/-- **The rules list the terminals of the network**, each once. Numbers and ids grow together. -/
theorem Grown.rules_ordered (grown : Grown config .standard attempts kb) :
    kb.network.terminals = kb.rules.map RuleHandle.terminal ∧
      kb.rules.Pairwise fun earlier later =>
        earlier.sequence < later.sequence ∧ earlier.terminal.index < later.terminal.index := by
  have listed : kb.network.terminals = kb.rules.map RuleHandle.terminal := by
    rw [grown.terminals, grown.rules_eq, List.map_map]
    rfl
  have stacked := (grown.realizes fun _ attempted => attempted).1.layered.stacked
  have rising : kb.network.terminals.Pairwise fun a b => a.index < b.index :=
    Network.terminals_rising stacked
  rw [listed, List.pairwise_map] at rising
  exact ⟨listed, grown.sequences.1.and rising⟩

/-- Two rules are one, or one of them comes first by number and by id. -/
theorem Grown.rules_compared (grown : Grown config .standard attempts kb) {first second : RuleHandle}
    (one : first ∈ kb.rules) (other : second ∈ kb.rules) :
    first = second ∨
      (first.sequence < second.sequence ∧ first.terminal.index < second.terminal.index) ∨
      second.sequence < first.sequence ∧ second.terminal.index < first.terminal.index := by
  have compared := grown.rules_ordered.2
  rw [List.pairwise_iff_getElem] at compared
  obtain ⟨i, inside, rfl⟩ := List.mem_iff_getElem.mp one
  obtain ⟨j, within, rfl⟩ := List.mem_iff_getElem.mp other
  rcases Nat.lt_trichotomy i j with before | rfl | after
  · exact Or.inr (Or.inl (compared i j inside within before))
  · exact Or.inl rfl
  · exact Or.inr (Or.inr (compared j i within inside after))

/-- A rule is told by its terminal. -/
theorem Grown.eq_of_terminal (grown : Grown config .standard attempts kb) {first second : RuleHandle}
    (one : first ∈ kb.rules) (other : second ∈ kb.rules)
    (same : first.terminal = second.terminal) : first = second := by
  rcases grown.rules_compared one other with equal | ⟨_, less⟩ | ⟨_, less⟩
  · exact equal
  all_goals rw [same] at less; exact absurd less (Nat.lt_irrefl _)

end KnowledgeBase

namespace Session

open KnowledgeBase

variable {config : BuildConfig} {attempts : List (Rule × Outcome RuleHandle)} {kb : KnowledgeBase}
  {session : Session}

/-! ### The matches of one rule -/

/-- **The matches that a rule finds**, one for each token above its terminal, in that order, whatever
was evaluated before. -/
structure Finds (session : Session) (handle : RuleHandle) (matching : List Activation) : Prop where
  tokens : ∃ last tuple, session.kb.network.node? handle.terminal = some last ∧
    last.tupleParent = some tuple ∧
    ∀ state, Evaluation.Reached session.kb.network session.memory state →
      (result (session.kb.network.tokens session.memory tuple) state).1 =
        .ok (matching.map Activation.token)
  own : ∀ activation ∈ matching, activation.rule = handle.name ∧
    activation.salience = handle.salience ∧ activation.terminal = handle.terminal

/-- What is given at the terminal of a rule is what the rule finds. -/
theorem finds_of_given (grown : Grown config .standard attempts session.kb) {handle : RuleHandle}
    (listed : handle ∈ session.kb.rules) {matching : List Activation}
    (given : matchesGiven session.kb.network session.memory handle.terminal = .ok matching) :
    session.Finds handle matching := by
  obtain ⟨sound, realized⟩ := grown.realizes fun _ attempted => attempted
  rw [grown.rules_eq] at listed
  obtain ⟨⟨rule, own⟩, member, rfl⟩ := List.mem_map.mp listed
  obtain ⟨⟨name, salience⟩, scope, tuple, realizes⟩ := realized rule own (mem_accepted member)
  obtain ⟨children, found⟩ := realizes.node
  unfold matchesGiven at given
  simp only [found, Node.tokensRead, Node.needTuple, Outcome.ok_bind] at given
  cases read : (feedAt session.kb.network.nodes tuple).tokens session.memory with
  | error failure =>
    rw [read] at given
    cases given
  | ok tokens =>
    simp only [read, Outcome.ok_bind] at given
    have wide := sound.layered.tokens_width (realizes.follows.stream tuple realizes.cursor) read
    have made := Outcome.mapM_eq_ok_map fun token (member : token ∈ tokens) =>
      @activation_ok ⟨rule.name, rule.salience, rule.consequence,
        rule.consequence.bindings.map fun v => (scope.offset? v).getD 0⟩ token (fun offset taken => by
          obtain ⟨v, reads, rfl⟩ := List.mem_map.mp taken
          obtain ⟨place, named⟩ := realizes.bound v reads
          rw [named, wide token member]
          exact realizes.follows.inRange.offset?_lt named) own.terminal
    rw [made] at given
    cases given
    refine ⟨⟨_, tuple, found, rfl, fun state reached => ?_⟩, fun activation found => ?_⟩
    · have answer : (result (session.kb.network.tokens session.memory tuple) state).1 =
          (feedAt session.kb.network.nodes tuple).tokens session.memory :=
        reached.tokens_eq sound.layered.distinct tuple
      rw [answer, read, List.map_map]
      exact congrArg Except.ok (List.map_id tokens).symm
    · obtain ⟨token, _, rfl⟩ := List.mem_map.mp found
      exact ⟨name.symm, salience.symm, rfl⟩

/-! ### What was run before -/

/-- The match was not run before. -/
def isNew (session : Session) (activation : Activation) : Bool :=
  !session.hasStarted activation

theorem isNew_eq_true {activation : Activation} : session.isNew activation = true ↔
    ∀ earlier ∈ session.started.toList, earlier.key ≠ activation.key := by
  rw [isNew, Bool.not_eq_true', ← Bool.not_eq_true, hasStarted_iff]
  simp only [not_exists, not_and, ne_eq, eq_comm]

theorem unstarted_eq (session : Session) (found : List Activation) :
    session.unstarted found = found.filter session.isNew :=
  session.unstarted_eq_filter found

/-- **The matches of a list whose consequence is called**, one after the other, as long as there is
room and none fails. -/
def called (session : Session) : List Activation → List Activation
  | [] => []
  | activation :: rest =>
    if session.Full 0 then []
    else activation :: match session.executes activation with
      | .ok () => called (session.passed [activation]) rest
      | .error _ => []

theorem called_front (session : Session) (agenda : List Activation) :
    session.called agenda <+: agenda := by
  induction agenda generalizing session with
  | nil => exact List.nil_prefix
  | cons activation rest hypothesis =>
    rw [called]
    split
    · exact List.nil_prefix
    · refine (List.prefix_cons_inj activation).mpr ?_
      split
      · exact hypothesis _
      · exact List.nil_prefix

/-- Firing a list notes these matches as run. -/
theorem fireEach_called (session : Session) (agenda : List Activation) :
    (session.fireEach agenda).session.started.toList =
      session.started.toList ++ session.called agenda := by
  induction agenda generalizing session with
  | nil => exact (List.append_nil _).symm
  | cons activation rest hypothesis =>
    obtain ⟨onFull, onRoom⟩ := session.fire_cases activation
    rw [fireEach, called]
    by_cases full : session.Full 0
    · obtain ⟨outcome, same⟩ := onFull full
      simp only [outcome, same, if_pos full, List.append_nil]
    · obtain ⟨outcome, same⟩ := onRoom full
      rw [if_neg full]
      cases answer : session.executes activation with
      | error failure =>
        rw [answer] at outcome same
        simp only [outcome, same]
        simp [start]
      | ok done =>
        rw [answer] at outcome same
        simp only [outcome, same, hypothesis]
        simp [passed]

/-- The agenda, which holds nothing if it fails. -/
def due (session : Session) : List Activation :=
  session.agenda.outcome.toOption.getD []

/-- **A call of `fireAll` runs the matches whose consequence it calls.** -/
theorem executed_called (session : Session) : session.executed = session.called session.due := by
  obtain ⟨onError, onOk⟩ := session.fireAll_agenda
  unfold executed due
  cases listed : session.agenda.outcome with
  | error failure =>
    rw [(onError failure listed).2, List.drop_length]
    rfl
  | ok agenda =>
    rw [(onOk agenda listed).2, fireEach_called, List.drop_left]
    rfl

/-- The matches on an agenda have a consequence. -/
theorem due_consequence (distinct : session.kb.network.Distinct) :
    ∀ activation ∈ session.due, ∃ consequence,
      session.consequence? activation = some consequence := by
  intro activation member
  unfold due at member
  cases listed : session.agenda.outcome with
  | error failure =>
    rw [listed] at member
    cases member
  | ok agenda =>
    rw [listed] at member
    -- sorting and leaving out keep what is given at the terminals
    rw [agenda_eq distinct] at listed
    obtain ⟨lists, given, rfl⟩ := Outcome.map_eq_ok.mp listed
    have kept := (inFiringOrder_perm _).mem_iff.mp member
    rw [unstarted_eq] at kept
    obtain ⟨matching, found, inside⟩ := List.mem_flatten.mp (List.mem_filter.mp kept).1
    obtain ⟨id, _, answer⟩ := (Outcome.mapM_ok_mem given).1 matching found
    have own := matchesGiven_terminal answer activation inside
    rcases matchesGiven_keys answer with rfl | ⟨node, terminal, _, there, kind, _⟩
    · cases inside
    · obtain ⟨_, _, _, _, _⟩ := node
      cases kind
      exact ⟨terminal.consequence, by rw [consequence?, own, there]⟩

/-- **What was run is what was called.** In every session over a knowledge base, the matches that
were run are those whose consequence the calls of `fireAll` called, in that order, and each of them
has a consequence. So a match is new exactly as long as none was called for it. -/
theorem Ran.started_called (grown : Grown config .standard attempts kb) {bound : Nat}
    {firings : List Session} (ran : Ran kb bound firings session) :
    session.started.toList = (firings.flatMap fun before => before.called before.due) ∧
      (∀ before ∈ firings, ∀ activation ∈ before.called before.due, ∃ consequence,
        before.consequence? activation = some consequence) ∧
      ∀ activation, session.isNew activation = true ↔
        ∀ before ∈ firings, ∀ earlier ∈ before.called before.due, earlier.key ≠ activation.key := by
  have started : session.started.toList =
      firings.flatMap fun before => before.called before.due := by
    induction ran with
    | opened => rfl
    | put ran source value hypothesis =>
      obtain ⟨memory, same, _⟩ := put_ends _ source value
      rw [same]
      exact hypothesis
    | retract ran handle hypothesis =>
      rw [retract_ends]
      exact hypothesis
    | @fireAll _ session ran hypothesis =>
      rw [session.executed_runs.1.started, executed_called, hypothesis, List.flatMap_append,
        List.flatMap_singleton]
  refine ⟨started, fun before member activation inside => ?_, fun activation => ?_⟩
  · obtain ⟨rfl, _⟩ := ran.numbered.2 before member
    exact due_consequence grown.distinct activation ((called_front _ _).subset inside)
  · rw [isNew_eq_true, started]
    simp only [List.mem_flatMap, forall_exists_index, and_imp]
    exact ⟨fun new before member earlier inside => new earlier before member inside,
      fun new earlier before member inside => new before member earlier inside⟩

/-! ### Agendas -/

/-- Among the matches of all rules, those at the terminal of one rule are its own. -/
theorem filter_flatMap_terminal {matching : RuleHandle → List Activation} {rules : List RuleHandle}
    (apart : (rules.map RuleHandle.terminal).Nodup)
    (own : ∀ handle ∈ rules, ∀ activation ∈ matching handle,
      activation.terminal = handle.terminal) {handle : RuleHandle} (listed : handle ∈ rules) :
    (rules.flatMap matching).filter (fun activation => activation.terminal = handle.terminal) =
      matching handle := by
  have keeps : ∀ other ∈ rules, (matching other).filter
      (fun activation => activation.terminal = handle.terminal) =
        if other.terminal = handle.terminal then matching other else [] := by
    intro other member
    split
    · rename_i same
      exact List.filter_eq_self.mpr fun activation found => by
        simp [own other member activation found, same]
    · rename_i different
      exact List.filter_eq_nil_iff.mpr fun activation found => by
        simp [own other member activation found, different]
  rw [List.filter_flatMap]
  induction rules with
  | nil => cases listed
  | cons first rest hypothesis =>
    rw [List.map_cons, List.nodup_cons] at apart
    rw [List.flatMap_cons, keeps first List.mem_cons_self]
    rcases List.mem_cons.mp listed with rfl | later
    · have others : rest.flatMap (fun other => (matching other).filter
          fun activation => activation.terminal = handle.terminal) = [] := by
        refine List.flatMap_eq_nil_iff.mpr fun other member => ?_
        rw [keeps other (List.mem_cons_of_mem _ member), if_neg]
        exact fun same => apart.1 (same ▸ List.mem_map_of_mem member)
      rw [if_pos rfl, others, List.append_nil]
    · have different : first.terminal ≠ handle.terminal := fun same =>
        apart.1 (same ▸ List.mem_map_of_mem later)
      rw [if_neg different, List.nil_append]
      exact hypothesis apart.2 (fun other member => own other (List.mem_cons_of_mem _ member)) later
        fun other member => keeps other (List.mem_cons_of_mem _ member)

/-- **What an agenda lists**: the matches of all rules that were not run before, in firing order. -/
theorem agenda_found_by_rules (grown : Grown config .standard attempts session.kb)
    {agenda : List Activation} (listed : session.agenda.outcome = .ok agenda) :
    ∃ matching : RuleHandle → List Activation,
      (∀ handle ∈ session.kb.rules, session.Finds handle (matching handle)) ∧
        agenda = inFiringOrder ((session.kb.rules.flatMap matching).filter session.isNew) := by
  rw [agenda_eq grown.distinct, grown.rules_ordered.1, List.mapM_map] at listed
  obtain ⟨lists, given, rfl⟩ := Outcome.map_eq_ok.mp listed
  let matching : RuleHandle → List Activation := fun handle =>
    (matchesGiven session.kb.network session.memory handle.terminal).toOption.getD []
  have each : ∀ handle ∈ session.kb.rules,
      matchesGiven session.kb.network session.memory handle.terminal = .ok (matching handle) := by
    intro handle member
    obtain ⟨found, answer⟩ := Outcome.mapM_ok_each given handle member
    rw [Function.comp_apply] at answer
    simp only [matching, answer]
    rfl
  refine ⟨matching, fun handle member => finds_of_given grown member (each handle member), ?_⟩
  have all := (Outcome.mapM_eq_ok_map each).symm.trans given
  cases all
  rw [unstarted_eq, List.flatMap_def]

/-- **The agenda is ordered by salience, then by rule, then by match.** In every history of a
knowledge base the rules list the terminals of the network, with growing numbers and ids. In every
session over it, an agenda holds the matches of all rules except those whose consequence was run
before (`Ran.started_called`), and

* a match goes behind those of larger salience, and of equal salience and an older rule;
* the matches of one rule stand in the order of the tokens above its terminal. -/
theorem agenda_ordered {bound : Nat} {firings : List Session}
    (grown : Grown config .standard attempts kb) (ran : Ran kb bound firings session) :
    (kb.network.terminals = kb.rules.map RuleHandle.terminal ∧
      kb.rules.Pairwise fun earlier later =>
        earlier.sequence < later.sequence ∧ earlier.terminal.index < later.terminal.index) ∧
    ∀ agenda, session.agenda.outcome = .ok agenda →
      ∃ matching : RuleHandle → List Activation,
        (∀ handle ∈ kb.rules, session.Finds handle (matching handle)) ∧
        agenda.Perm ((kb.rules.flatMap matching).filter session.isNew) ∧
        (agenda.Pairwise fun a b => ∀ first ∈ kb.rules, ∀ second ∈ kb.rules,
          a.terminal = first.terminal → b.terminal = second.terminal →
            second.salience < first.salience ∨
              first.salience = second.salience ∧ first.sequence ≤ second.sequence) ∧
        ∀ handle ∈ kb.rules, agenda.filter (fun a => a.terminal = handle.terminal) =
          (matching handle).filter session.isNew := by
  refine ⟨grown.rules_ordered, fun agenda listed => ?_⟩
  obtain rfl := ran.numbered.1.1
  obtain ⟨matching, finds, rfl⟩ := agenda_found_by_rules grown listed
  have apart : (session.kb.rules.map RuleHandle.terminal).Nodup :=
    grown.rules_ordered.1 ▸ grown.distinct.terminals
  -- every match on the agenda is one of a rule, which its terminal tells
  have owned : ∀ activation ∈ inFiringOrder
      ((session.kb.rules.flatMap matching).filter session.isNew), ∀ handle ∈ session.kb.rules,
        activation.terminal = handle.terminal → activation.salience = handle.salience := by
    intro activation member handle inside same
    have kept := (List.mem_filter.mp ((inFiringOrder_perm _).mem_iff.mp member)).1
    obtain ⟨other, standing, found⟩ := List.mem_flatMap.mp kept
    obtain ⟨_, salience, terminal⟩ := (finds other standing).own activation found
    rw [grown.eq_of_terminal inside standing (same.symm.trans terminal), salience]
  refine ⟨matching, finds, inFiringOrder_perm _, ?_, fun handle inside => ?_⟩
  · have sorted := List.pairwise_mergeSort goesBefore_trans goesBefore_total
      ((session.kb.rules.flatMap matching).filter session.isNew)
    refine sorted.imp_of_mem fun {a b} here there before first one second other top bottom => ?_
    have compared := grown.rules_compared one other
    simp only [goesBefore, owned a here first one top, owned b there second other bottom, top,
      bottom, Bool.or_eq_true, Bool.and_eq_true, decide_eq_true_eq] at before
    rcases before with higher | ⟨equal, earlier⟩
    · exact Or.inl higher
    · refine Or.inr ⟨equal, ?_⟩
      rcases compared with rfl | ⟨less, _⟩ | ⟨_, more⟩
      · exact Nat.le_refl _
      · exact Nat.le_of_lt less
      · exact absurd more (Nat.not_lt.mpr earlier)
  · have own := fun other member activation found =>
      ((finds other member).own activation found).2.2
    rw [inFiringOrder, filter_mergeSort goesBefore_trans goesBefore_total, List.filter_comm,
      filter_flatMap_terminal apart own inside]
    refine List.mergeSort_of_pairwise (List.pairwise_of_forall_mem_list fun a here b there => ?_)
    obtain ⟨_, first, top⟩ := (finds handle inside).own a (List.mem_filter.mp here).1
    obtain ⟨_, second, bottom⟩ := (finds handle inside).own b (List.mem_filter.mp there).1
    simp [goesBefore, first, second, top, bottom]

/-! ### A rule that is added last and fires first -/

/-- A rule about every person, of larger salience. -/
def urgentPerson : Rule :=
  { everyPerson with name := "urgent person", salience := 1 }

/-- The urgent rule is added after the other one and after a rule that fails. -/
def urgentLast : KnowledgeBase :=
  ((((KnowledgeBase.new default .standard).addRule everyPerson).after.addRule
    twoPersonsOr).after.addRule urgentPerson).after

/-- A session over two persons. -/
def urgentSession : Session :=
  (((openOver urgentLast defaultBound).put (.entryPoint defaultEntryPoint)
    (Fact.named "Person").toValue).session.put (.entryPoint defaultEntryPoint)
    (Fact.named "Person").toValue).session

/-- The agenda holds two matches of each rule, those of the urgent rule first. -/
theorem urgentPerson_first :
    urgentLast.rules.map (fun handle => (handle.sequence, handle.salience)) = [(1, 0), (3, 1)] ∧
      ∃ agenda, urgentSession.agenda.outcome = .ok agenda ∧
        (agenda.map Activation.salience).Perm [0, 0, 1, 1] ∧
        agenda.Pairwise fun a b => ∀ first ∈ urgentLast.rules, ∀ second ∈ urgentLast.rules,
          a.terminal = first.terminal → b.terminal = second.terminal →
            second.salience < first.salience ∨
              first.salience = second.salience ∧ first.sequence ≤ second.sequence := by
  have grown : Grown default .standard _ urgentLast :=
    ((Grown.new.addRule everyPerson).addRule twoPersonsOr).addRule urgentPerson
  have ran : Ran urgentLast defaultBound [] urgentSession := (Ran.opened.put _ _).put _ _
  obtain ⟨_, ordered⟩ := agenda_ordered grown ran
  have sorted : urgentSession.agenda.outcome.map (List.map Activation.salience) =
      .ok [1, 1, 0, 0] := by
    rw [agenda_sorted]
    decide +kernel
  obtain ⟨agenda, listed, saliences⟩ := Outcome.map_eq_ok.mp sorted
  obtain ⟨_, _, _, follows, _⟩ := ordered agenda listed
  exact ⟨by decide +kernel, agenda, listed, saliences ▸ by decide, follows⟩

end Session

end RuleNet
