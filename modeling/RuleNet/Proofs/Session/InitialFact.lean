/-
**The initial fact of a session.**

A session opens with the initial fact in the default entry point, under the first handle. It is an
object like any other, so it can be retracted, and another one can be put beside it. As long as
neither happens it is alone, whatever else is asked of the session. Then a rule that is seeded by
the initial fact is seeded by one tuple, and a rule over an empty view is run once. That it is run at
all takes the keys of matches to be injective (`hasStarted`).

* `Request.spares`, `initialFacts_after`: **requests that leave the initial fact alone leave it
  alone**;
* `tokens_at_seed`: what a seed gives to the nodes below it;
* `agenda_at`, `finds_at_seed`: the matches of one rule on an agenda, and those of a rule over an
  empty view;
* `calls`, `ranAt`: what the calls of `fireAll` answered, and the tokens whose match was run;
* `fireAll_ranAt`, `ranAt_after`: **the single match of a rule is run once**, by the first call that
  succeeds at the latest;
* `initial_fact_alone`: all of that together;
* `initial_fact_retracted_or_doubled`: what happens where the initial fact is not alone.
-/

import Mathlib.Data.List.Induction
import RuleNet.Proofs.Build.Seeds
import RuleNet.Proofs.Session.Ledger
import RuleNet.Proofs.Session.Order

namespace RuleNet

open Stateful

namespace Session

open KnowledgeBase

/-! ### Requests -/

/-- The initial fact that a session opens with. -/
def openingFact : Held :=
  ⟨⟨0⟩, Fact.initial.toValue⟩

/-- **The request leaves the initial fact alone**: it does not retract it, and puts no other one
into the default entry point. -/
def Request.spares : Request → Bool
  | .put source value =>
    !(source = .entryPoint defaultEntryPoint && ObjectType.accepts .initialFact value.objectType)
  | .retract handle => handle ≠ openingFact.handle
  | .agenda => true
  | .fireAll => true

variable {session : Session} {requests : List Request}

/-- What enters or leaves by a request that spares the initial fact is not an initial fact of the
default entry point. -/
theorem step_spares {step : WorkingMemory.Step} (spares : ∀ request ∈ requests, request.spares)
    (listed : step ∈ session.steps requests) :
    step ≠ .retract openingFact.handle ∧
      ∀ value, ObjectType.accepts .initialFact value.objectType = true →
        step ≠ .put (.entryPoint defaultEntryPoint) value := by
  obtain ⟨request, member, made⟩ := List.mem_filterMap.mp listed
  have spared := spares request member
  cases request with
  | put source value =>
    simp only [step?] at made
    split at made
    · cases made
      refine ⟨by simp, fun other accepted same => ?_⟩
      cases same
      simp [Request.spares, accepted] at spared
    · cases made
  | retract handle =>
    cases made
    refine ⟨fun same => ?_, by simp⟩
    cases same
    simp [Request.spares] at spared
  | agenda => cases made
  | fireAll => cases made

/-- **The initial fact stays alone** in the default entry point, whatever else is asked. -/
theorem initialFacts_after (kb : KnowledgeBase) (bound : Nat)
    (spares : ∀ request ∈ requests, request.spares) :
    ((openOver kb bound).after requests).memory.initialFacts = [openingFact] := by
  have opened := (openOver kb bound).memory_after requests
  let steps := (openOver kb bound).steps requests
  have ledger : ((openOver kb bound).after requests).memory = WorkingMemory.empty.after
      (.put (.entryPoint defaultEntryPoint) Fact.initial.toValue :: steps) := opened.2.1
  have kept : .retract ⟨0⟩ ∉ steps := fun listed => (step_spares spares listed).1 rfl
  rw [WorkingMemory.initialFacts, ledger, (WorkingMemory.exact_after _).objects,
    WorkingMemory.standing, if_neg kept, List.filter_cons_of_pos (by exact decide_eq_true rfl),
    List.map_cons, Operator.narrow, List.filter_cons_of_pos (by rfl)]
  refine congrArg (openingFact :: ·) (List.filter_eq_nil_iff.mpr fun held member accepted => ?_)
  obtain ⟨⟨source, other⟩, inside, rfl⟩ := List.mem_map.mp member
  obtain ⟨standing, same⟩ := List.mem_filter.mp inside
  obtain rfl : source = .entryPoint defaultEntryPoint := of_decide_eq_true same
  -- it was put by one of the requests
  obtain ⟨before, later, whole, _⟩ := WorkingMemory.mem_standing.mp standing
  have listed : .put (.entryPoint defaultEntryPoint) other.value ∈ steps := by
    rw [whole]
    exact List.mem_append_right _ List.mem_cons_self
  exact (step_spares spares listed).2 other.value accepted rfl

/-! ### Matches -/

variable {config : BuildConfig} {attempts : List (Rule × Outcome RuleHandle)} {kb : KnowledgeBase}
  {rule : Rule} {handle : RuleHandle}

/-- **What a seed gives to the nodes below it**, whatever was evaluated before: the initial facts of
the default entry point, one tuple each. -/
theorem tokens_at_seed (grown : Grown config .standard attempts kb) {seed : NodeId}
    (seeds : kb.network.Seeds seed) {memory : WorkingMemory} {state : EvaluatorState}
    (reached : Evaluation.Reached kb.network memory state) :
    (result (kb.network.tokens memory seed) state).1 =
      .ok (memory.initialFacts.map Token.ofHeld) := by
  have layered := (grown.realizes fun _ attempted => attempted).1.layered
  exact (reached.tokens_eq layered.distinct seed).trans (seeds.tokens layered memory)

/-- **The matches of one rule on an agenda** are those that it finds and that were not run. -/
theorem agenda_at (grown : Grown config .standard attempts session.kb)
    (inside : handle ∈ session.kb.rules) {agenda : List Activation}
    (listed : session.agenda.outcome = .ok agenda) :
    ∃ matching, session.Finds handle matching ∧
      (agenda.filter fun activation => activation.terminal = handle.terminal).Perm
        (matching.filter session.isNew) := by
  obtain ⟨matching, finds, rfl⟩ := agenda_found_by_rules grown listed
  have apart : (session.kb.rules.map RuleHandle.terminal).Nodup :=
    grown.rules_ordered.1 ▸ grown.distinct.terminals
  refine ⟨matching handle, finds handle inside, ((inFiringOrder_perm _).filter _).trans ?_⟩
  rw [List.filter_comm, filter_flatMap_terminal apart (fun other member activation found =>
    ((finds other member).own activation found).2.2) inside]

/-- **A rule over an empty view finds one match for each initial fact** of the default entry point.
-/
theorem finds_at_seed (grown : Grown config .standard attempts session.kb)
    (added : (rule, .ok handle) ∈ attempts) (empty : rule.view.patterns = [])
    {matching : List Activation} (finds : session.Finds handle matching) :
    matching.map Activation.token = session.memory.initialFacts.map Token.ofHeld := by
  obtain ⟨last, tuple, seed, found, above, seeds, _, whole⟩ :=
    grown.seeded added (by rw [empty]; exact nofun)
  obtain ⟨other, parent, there, named, tokens⟩ := finds.tokens
  obtain rfl := Option.some.inj (found.symm.trans there)
  obtain rfl := Option.some.inj (above.symm.trans named)
  obtain rfl := whole empty
  exact Except.ok.inj ((tokens .fresh .fresh).symm.trans (tokens_at_seed grown seeds .fresh))

/-! ### Calls -/

/-- **What the calls of `fireAll` among several requests answer**, in their order. -/
def calls (session : Session) : List Request → List (Outcome Nat)
  | [] => []
  | .fireAll :: rest => session.fireAll.outcome :: session.fireAll.session.calls rest
  | request :: rest => (session.serve request).session.calls rest

/-- The tokens of those matches that are at a terminal. -/
def tokensAt (terminal : NodeId) (matching : List Activation) : List Token :=
  (matching.filter fun activation => activation.terminal = terminal).map Activation.token

/-- **The tokens of a terminal whose match was run**, with or without success. -/
def ranAt (session : Session) (terminal : NodeId) : List Token :=
  tokensAt terminal session.started.toList

theorem tokensAt_append (terminal : NodeId) (first second : List Activation) :
    tokensAt terminal (first ++ second) = tokensAt terminal first ++ tokensAt terminal second := by
  rw [tokensAt, List.filter_append, List.map_append]
  rfl

/-- The matches of a batch that was run are among those of the session. -/
theorem Runs.ranAt {after : Session} {batch : List Activation} (runs : Runs session after batch)
    (terminal : NodeId) :
    after.ranAt terminal = session.ranAt terminal ++ tokensAt terminal batch := by
  rw [Session.ranAt, runs.started, tokensAt_append]
  rfl

/-- A request that fires nothing leaves what was run. -/
theorem serve_quiet (session : Session) {request : Request} (quiet : request ≠ .fireAll) :
    (session.serve request).session.started = session.started ∧
      (session.serve request).session.history = session.history := by
  cases request with
  | put source value =>
    obtain ⟨memory, same, _⟩ := session.put_ends source value
    have same : (session.serve (.put source value)).session = _ := same
    rw [same]
    exact ⟨rfl, rfl⟩
  | retract handle =>
    have same : (session.serve (.retract handle)).session = _ := session.retract_ends handle
    rw [same]
    exact ⟨rfl, rfl⟩
  | agenda => exact ⟨rfl, rfl⟩
  | fireAll => exact absurd rfl quiet

theorem calls_quiet (session : Session) {request : Request} (quiet : request ≠ .fireAll)
    (rest : List Request) :
    session.calls (request :: rest) = (session.serve request).session.calls rest := by
  cases request with
  | fireAll => exact absurd rfl quiet
  | _ => rfl

/-- **If no call fails, all that was run succeeded.** -/
theorem history_after (same : session.history = session.started)
    (succeed : ∀ failure, .error failure ∉ session.calls requests) :
    (session.after requests).history = (session.after requests).started := by
  induction requests generalizing session with
  | nil => exact same
  | cons request rest hypothesis =>
    by_cases fires : request = .fireAll
    · subst fires
      cases fired : session.fireAll.outcome with
      | error failure => exact absurd (fired ▸ List.mem_cons_self) (succeed failure)
      | ok count =>
        obtain ⟨agenda, _, ran⟩ := fireAll_succeeds fired
        refine hypothesis ?_ fun failure failed => succeed failure (List.mem_cons_of_mem _ failed)
        show session.fireAll.session.history = session.fireAll.session.started
        rw [ran]
        exact congrArg (· ++ agenda.toArray) same
    · obtain ⟨started, history⟩ := session.serve_quiet fires
      refine hypothesis (by rw [started, history, same]) ?_
      rw [← session.calls_quiet fires]
      exact succeed

/-- A match is new if no match of its terminal with its token was run. -/
theorem isNew_iff (session : Session) (activation : Activation) :
    session.isNew activation = true ↔ activation.token ∉ session.ranAt activation.terminal := by
  simp only [isNew_eq_true, ranAt, tokensAt, List.mem_map, List.mem_filter, decide_eq_true_eq,
    not_exists, not_and, and_imp, Activation.key, ne_eq, Prod.mk.injEq]

section

variable (grown : Grown config .standard attempts session.kb) (inside : handle ∈ session.kb.rules)
  {token : Token}
  (single : ∀ matching, session.Finds handle matching → matching.map Activation.token = [token])

include grown inside single

/-- **The single match of a rule on an agenda**: it stands there unless it was run. -/
theorem agenda_single {agenda : List Activation} (listed : session.agenda.outcome = .ok agenda) :
    tokensAt handle.terminal agenda =
      if token ∈ session.ranAt handle.terminal then [] else [token] := by
  obtain ⟨matching, finds, standing⟩ := agenda_at grown inside listed
  obtain ⟨activation, rfl, rfl⟩ := List.map_eq_singleton_iff.mp (single matching finds)
  have own := ((finds.own activation List.mem_cons_self).2).2
  have new := session.isNew_iff activation
  rw [own] at new
  rw [tokensAt]
  split
  · rename_i ran
    rw [List.filter_cons_of_neg fun fresh => new.mp fresh ran, List.filter_nil] at standing
    rw [standing.eq_nil]
    rfl
  · rename_i unseen
    rw [List.filter_cons_of_pos (new.mpr unseen), List.filter_nil] at standing
    rw [standing.eq_singleton]
    rfl

/-- **A call runs the single match of a rule once**: not again if it was run before, and for sure if
the call succeeds. -/
theorem fireAll_ranAt (once : session.ranAt handle.terminal = [] ∨
      session.ranAt handle.terminal = [token]) :
    (session.fireAll.session.ranAt handle.terminal = session.ranAt handle.terminal ∨
        session.fireAll.session.ranAt handle.terminal = [token]) ∧
      ∀ count, session.fireAll.outcome = .ok count →
        session.fireAll.session.ranAt handle.terminal = [token] := by
  have listed := @agenda_single _ _ _ _ grown inside _ single
  refine ⟨?_, fun count fired => ?_⟩
  · obtain ⟨runs, part⟩ := session.executed_runs
    rw [runs.ranAt]
    rcases part with none | ⟨agenda, answer, first⟩
    · exact Or.inl (by rw [none]; exact List.append_nil _)
    · have shown : tokensAt handle.terminal session.executed <+:
          tokensAt handle.terminal agenda := (first.filter _).map _
      rw [listed answer] at shown
      rcases once with idle | ran
      · rw [idle, if_neg List.not_mem_nil] at shown
        rw [idle]
        rcases List.prefix_cons_iff.mp shown with none | ⟨rest, whole, nothing⟩
        · exact Or.inl none
        · rw [whole, List.prefix_nil.mp nothing]
          exact Or.inr rfl
      · rw [ran, if_pos List.mem_cons_self, List.prefix_nil] at shown
        rw [shown, List.append_nil]
        exact Or.inl rfl
  · obtain ⟨agenda, answer, same⟩ := fireAll_succeeds fired
    rw [same, (passed_runs session agenda).ranAt, listed answer]
    rcases once with idle | ran
    · rw [idle, if_neg List.not_mem_nil, List.nil_append]
    · rw [ran, if_pos List.mem_cons_self, List.append_nil]

end

/-! ### Runs -/

theorem after_append (session : Session) (first second : List Request) :
    session.after (first ++ second) = (session.after first).after second := by
  induction first generalizing session with
  | nil => rfl
  | cons request rest hypothesis => exact hypothesis _

theorem calls_append (session : Session) (first second : List Request) :
    session.calls (first ++ second) =
      session.calls first ++ (session.after first).calls second := by
  induction first generalizing session with
  | nil => rfl
  | cons request rest hypothesis =>
    cases request with
    | fireAll => exact congrArg (session.fireAll.outcome :: ·) (hypothesis _)
    | _ => exact hypothesis _

/-- Requests lead to sessions that can be reached. -/
theorem ran_after (kb : KnowledgeBase) (bound : Nat) (requests : List Request) :
    ∃ firings, Ran kb bound firings ((openOver kb bound).after requests) := by
  induction requests using List.reverseRecOn with
  | nil => exact ⟨[], .opened⟩
  | append_singleton front last hypothesis =>
    obtain ⟨firings, ran⟩ := hypothesis
    rw [after_append]
    cases last with
    | put source value => exact ⟨firings, ran.put source value⟩
    | retract handle => exact ⟨firings, ran.retract handle⟩
    | agenda => exact ⟨firings, ran⟩
    | fireAll => exact ⟨_, ran.fireAll⟩

/-- **A rule over an empty view is run once**: for the initial fact, at most once after any requests
that spare it, and exactly once after a call that succeeded. -/
theorem ranAt_after (grown : Grown config .standard attempts kb)
    (added : (rule, .ok handle) ∈ attempts) (empty : rule.view.patterns = []) (bound : Nat)
    (spares : ∀ request ∈ requests, request.spares) :
    let ran := ((openOver kb bound).after requests).ranAt handle.terminal
    (ran = [] ∨ ran = [Token.ofHeld openingFact]) ∧
      ((∃ count, .ok count ∈ (openOver kb bound).calls requests) →
        ran = [Token.ofHeld openingFact]) := by
  induction requests using List.reverseRecOn with
  | nil => exact ⟨Or.inl rfl, fun ⟨_, never⟩ => nomatch never⟩
  | append_singleton front last hypothesis =>
    have spared : ∀ request ∈ front, request.spares := fun request member =>
      spares request (List.mem_append_left _ member)
    obtain ⟨once, whole⟩ := hypothesis spared
    let session := (openOver kb bound).after front
    have same : session.kb = kb := ((openOver kb bound).memory_after front).1
    have grown : Grown config .standard attempts session.kb := same ▸ grown
    rw [after_append, calls_append]
    by_cases fires : last = .fireAll
    · subst fires
      have single : ∀ matching, session.Finds handle matching →
          matching.map Activation.token = [Token.ofHeld openingFact] := fun matching finds => by
        rw [finds_at_seed grown added empty finds, initialFacts_after kb bound spared]
        rfl
      obtain ⟨kept, succeeded⟩ :=
        fireAll_ranAt grown (grown.mem_rules added) single once
      refine ⟨?_, fun ⟨count, listed⟩ => ?_⟩
      · rcases kept with before | ran
        · exact before.symm ▸ once
        · exact Or.inr ran
      · rcases List.mem_append.mp listed with earlier | now
        · rcases kept with before | ran
          · exact before.trans (whole ⟨count, earlier⟩)
          · exact ran
        · exact succeeded count (List.mem_singleton.mp now).symm
    · have quiet : (session.after [last]).ranAt handle.terminal = session.ranAt handle.terminal :=
        congrArg (fun started : Array Activation => tokensAt handle.terminal started.toList)
          (session.serve_quiet fires).1
      have none : session.calls [last] = [] := session.calls_quiet fires []
      rw [quiet, none, List.append_nil]
      exact ⟨once, whole⟩

/-- **The initial fact stays alone, and what it seeds is seeded once.** Take any requests to a
session that was just opened, of which none retracts the initial fact or puts another one into the
default entry point. Then the default entry point holds exactly one initial fact, the one that the
session was opened with.

* A rule whose view is empty, or whose first pattern needs a tuple, stems from a seed, which gives
  exactly one tuple, whatever was evaluated before.
* A rule over an empty view was run at most once, and exactly once if a call of `fireAll` succeeded.
  It is not in the history more often than it was run.

If no call failed, all that was run succeeded. -/
theorem initial_fact_alone (grown : Grown config .standard attempts kb) (bound : Nat)
    (spares : ∀ request ∈ requests, request.spares) :
    let opened := openOver kb bound
    let session := opened.after requests
    session.memory.initialFacts = [openingFact] ∧
    (∀ rule handle, (rule, .ok handle) ∈ attempts →
      (∀ first ∈ rule.view.patterns.head?, first.needsTuple = true) →
      ∃ last tuple seed, kb.network.node? handle.terminal = some last ∧
        last.tupleParent = some tuple ∧ kb.network.Stems seed tuple ∧ kb.network.Seeds seed ∧
        ∀ state, Evaluation.Reached kb.network session.memory state →
          (result (kb.network.tokens session.memory seed) state).1 =
            .ok [Token.ofHeld openingFact]) ∧
    (∀ rule handle, (rule, .ok handle) ∈ attempts → rule.view.patterns = [] →
      (tokensAt handle.terminal session.history.toList).Sublist (session.ranAt handle.terminal) ∧
      (session.ranAt handle.terminal).length ≤ 1 ∧
      ((∃ count, .ok count ∈ opened.calls requests) →
        (session.ranAt handle.terminal).length = 1)) ∧
    ((∀ failure, .error failure ∉ opened.calls requests) → session.history = session.started) := by
  intro opened session
  have alone := initialFacts_after kb bound spares
  refine ⟨alone, fun rule handle added needs => ?_, fun rule handle added empty => ?_,
    history_after rfl⟩
  · obtain ⟨last, tuple, seed, found, above, seeds, stems, _⟩ := grown.seeded added needs
    refine ⟨last, tuple, seed, found, above, stems, seeds, fun state reached => ?_⟩
    rw [tokens_at_seed grown seeds reached, alone]
    rfl
  · obtain ⟨once, whole⟩ := ranAt_after grown added empty bound spares
    obtain ⟨firings, reached⟩ := ran_after kb bound requests
    refine ⟨(reached.history_sublist.filter _).map _, ?_, fun succeeded => ?_⟩
    · rcases once with ran | ran <;> rw [ran] <;> decide
    · rw [whole succeeded]
      rfl

/-! ### A rule over an empty view -/

/-- A rule over an empty view. -/
def always : Rule where
  name := "always"
  salience := 0
  view := .and []
  consequence := ⟨[], fun _ => .ok ()⟩

/-- A person comes and goes between two calls. -/
def aroundVisit : List Request :=
  [.fireAll, .put (.entryPoint defaultEntryPoint) (Fact.named "Person").toValue, .retract ⟨1⟩,
    .fireAll]

/-- The rule is run in the first call, and not again. -/
theorem always_once :
    let opened := openOver (overSingle always) defaultBound
    let session := opened.after aroundVisit
    session.memory.initialFacts = [openingFact] ∧ opened.calls aroundVisit = [.ok 1, .ok 0] ∧
      session.history = session.started ∧
      ∃ handle, (KnowledgeBase.new default .standard |>.addRule always).outcome = .ok handle ∧
        (session.ranAt handle.terminal).length = 1 ∧
        ∃ seed, (overSingle always).network.Seeds seed ∧
          (result ((overSingle always).network.tokens session.memory seed) .fresh).1 =
            .ok [Token.ofHeld openingFact] := by
  intro opened session
  have grown : Grown default .standard _ (overSingle always) := Grown.new.addRule always
  have spares : ∀ request ∈ aroundVisit, request.spares := by decide
  have calls : opened.calls aroundVisit = [.ok 1, .ok 0] := by
    simp only [opened, aroundVisit, Session.calls, fireAll_sorted]
    decide +kernel
  have succeeds : (KnowledgeBase.new default .standard |>.addRule always).outcome.isOk = true := by
    decide +kernel
  obtain ⟨alone, seeded, ran, succeeded⟩ := initial_fact_alone grown defaultBound spares
  cases ended : (KnowledgeBase.new default .standard |>.addRule always).outcome with
  | error failure =>
    rw [ended] at succeeds
    cases succeeds
  | ok handle =>
    rw [ended] at seeded ran
    have patterns : always.view.patterns = [] := rfl
    have added : (always, Except.ok handle) ∈ ([] : List (Rule × Outcome RuleHandle)) ++
        [(always, .ok handle)] := List.mem_singleton.mpr rfl
    obtain ⟨_, _, seed, _, _, _, seeds, tokens⟩ := seeded always handle added (by simp [patterns])
    refine ⟨alone, calls, succeeded fun failure => ?_, handle, rfl, ?_, seed, seeds, ?_⟩
    · rw [calls]
      simp
    · exact (ran always handle added patterns).2.2 ⟨1, by rw [calls]; exact List.mem_cons_self⟩
    · exact tokens .fresh .fresh

/-- Another initial fact enters the default entry point. -/
def putInitial : Request :=
  .put (.entryPoint defaultEntryPoint) Fact.initial.toValue

/-- **The initial fact can leave, and a second one can enter.** Without one, a rule over an empty
view never fires; beside a second one, it fires twice. -/
theorem initial_fact_retracted_or_doubled :
    let opened := openOver (overSingle always) defaultBound
    (opened.after [.retract openingFact.handle]).memory.initialFacts = [] ∧
      opened.calls [.retract openingFact.handle, .fireAll] = [.ok 0] ∧
      (opened.after [putInitial]).memory.initialFacts.length = 2 ∧
      opened.calls [putInitial, .fireAll] = [.ok 2] := by
  intro opened
  simp only [opened, Session.calls, putInitial, fireAll_sorted]
  refine ⟨?_, ?_, ?_, ?_⟩ <;> decide +kernel

end Session

end RuleNet
