/-
**Sessions: working memory over the rules of a knowledge base, and their firing.**

A session starts with the initial fact. Its agenda holds the matches of all rules that have not
fired yet: larger salience first, then rules in the order of their terminals, then matches in the
order of evaluation. Firing runs the consequences of the agenda until nothing is left; a match
fires once, whether or not its consequence fails.

Which matches were run is told by their terminals and tokens. Where only a 64-bit key of the two is
kept, this takes the key to be injective: no match has the key of another one.

* `agenda`: the matches that would fire now;
* `fireAll`: fires them, within the bound on the number of activations;
* `put`, `insert`, `insertAll`, `retract`: changes of working memory.
-/

import RuleNet.KnowledgeBase
import RuleNet.Match.Evaluator

namespace RuleNet

/-- A run of the rules over facts. -/
structure Session where
  kb : KnowledgeBase
  memory : WorkingMemory
  /-- The number of activations that may fire. -/
  bound : Nat
  /-- The matches whose consequence was run, successfully or not, oldest first. -/
  started : Array Activation
  /-- The matches whose consequence succeeded, oldest first. -/
  history : Array Activation

/-- What came of a session step: the answer, the session, the log, and the callbacks that ran. -/
structure Reply (α : Type) where
  outcome : Outcome α
  session : Session
  log : List LogLine
  calls : List Call

namespace Session

def defaultBound : Nat := 10000

/-- Opens a session over a knowledge base. -/
def openOver (kb : KnowledgeBase) (bound : Nat) : Session where
  kb := kb
  memory := (WorkingMemory.empty.put (.entryPoint defaultEntryPoint) Fact.initial.toValue).2
  bound := bound
  started := #[]
  history := #[]

def openingLine (kb : KnowledgeBase) : LogLine :=
  ⟨.debug, "session opened over " ++ toString kb.rules.length ++ " rule(s)"⟩

/-! ### Working memory -/

/-- An answer that ran no callback. -/
def reply {α : Type} (outcome : Outcome α) (session : Session) (log : List LogLine) : Reply α :=
  ⟨outcome, session, log, []⟩

/-- The rules read a source, or it is the default entry point. -/
def knows (session : Session) : Source → Bool
  | .entryPoint name => name = defaultEntryPoint || (session.kb.entryPoint? name).isSome
  | .stream name => (session.kb.streamRoot? name).isSome

/-- The log line of an object that entered. -/
def enteredLine (handle : Handle) : Source → LogLine
  | .entryPoint name => ⟨.trace, "inserted " ++ handle.text ++ " into " ++ name⟩
  | .stream name => ⟨.trace, "emitted " ++ handle.text ++ " on " ++ name⟩

/-- **An object enters a source**, if the session knows the source. -/
def put (session : Session) (source : Source) (value : Value) : Reply Handle :=
  if session.knows source then
    let (handle, memory) := session.memory.put source value
    reply (.ok handle) { session with memory := memory } [enteredLine handle source]
  else reply (Fault.unknownSource source.name).fail session []

/-- A fact enters the default entry point. -/
def insert (session : Session) (value : Value) : Reply Handle :=
  session.put (.entryPoint defaultEntryPoint) value

/-- Facts enter the default entry point one after the other. -/
def insertAll (session : Session) : List Value → Reply (List Handle)
  | [] => reply (.ok []) session []
  | value :: rest =>
    let first := session.insert value
    match first.outcome with
    | .error failure => reply (.error failure) first.session first.log
    | .ok handle =>
      let others := insertAll first.session rest
      reply (others.outcome.map (handle :: ·)) others.session (first.log ++ others.log)

/-- **An object leaves.** Answers whether there was one. -/
def retract (session : Session) (handle : Handle) : Reply Bool :=
  match session.memory.retract handle with
  | (some _, memory) =>
    reply (.ok true) { session with memory := memory } [⟨.trace, "retracted " ++ handle.text⟩]
  | (none, _) => reply (.ok false) session []

/-! ### Agenda -/

/-- The arguments that a terminal's consequence gets for a token. -/
def arguments (terminal : Terminal) (token : Token) : Outcome (List Value) :=
  terminal.bindings.mapM fun offset =>
    match token.values[offset]? with
    | some value => .ok value
    | none => (Structural.bindingOutside offset token.width).fail

/-- A match at a terminal. -/
def activation (terminal : Terminal) (id : NodeId) (token : Token) : Outcome Activation := do
  let bindings ← arguments terminal token
  .ok ⟨terminal.rule, terminal.salience, id, bindings, token⟩

/-- A computation whose failure is placed in a rule. -/
def inRule {α : Type} (rule : String) (compute : Evaluation α) : Evaluation α :=
  tryCatch compute fun failure => throw (failure.located (.inRule rule))

/-- All matches at one node, if it is a terminal. -/
def matchesAt (network : Network) (memory : WorkingMemory) (id : NodeId) :
    Evaluation (List Activation) :=
  match network.node? id with
  | some { kind := .terminal terminal, tupleParent, .. } =>
    inRule terminal.rule do
      match tupleParent with
      | none => Evaluation.malformed (.noTupleParent .terminal id)
      | some parent =>
        let tokens ← network.tokens memory parent
        match tokens.mapM (activation terminal id) with
        | .ok matching => pure matching
        | .error failure => throw failure
  | _ => pure []

/-- All matches at several nodes, in order. -/
def matchesAll (network : Network) (memory : WorkingMemory) :
    List NodeId → Evaluation (List Activation)
  | [] => pure []
  | id :: rest => do
    let first ← matchesAt network memory id
    let others ← matchesAll network memory rest
    pure (first ++ others)

/-- The match was run before: one at the same terminal, with the same token. Keys of matches are
injective here. -/
def hasStarted (session : Session) (activation : Activation) : Bool :=
  session.started.any activation.sameMatch

/-- The matches that were not run before. Signatures only spare comparisons. -/
def unstarted (session : Session) (found : List Activation) : List Activation :=
  let started := session.started.map fun earlier => (earlier.signature, earlier)
  found.filter fun activation =>
    let signature := activation.signature
    !started.any fun earlier => earlier.1 = signature && activation.sameMatch earlier.2

theorem unstarted_eq_filter (session : Session) (found : List Activation) :
    session.unstarted found = found.filter fun activation => !session.hasStarted activation := by
  unfold unstarted hasStarted
  refine List.filter_congr fun activation _ => ?_
  simp only [Array.any_map]
  congr 2
  funext earlier
  cases same : activation.sameMatch earlier with
  | false => simp [same]
  | true => simp [same, Activation.signature_eq same]

/-- An activation that goes before another or beside it: larger salience first, then the terminal
that was made earlier. -/
def goesBefore (a b : Activation) : Bool :=
  b.salience < a.salience || (a.salience = b.salience && a.terminal.index ≤ b.terminal.index)

/-- Matches in the order they fire. Matches that go beside each other keep their order. -/
def inFiringOrder (activations : List Activation) : List Activation :=
  activations.mergeSort goesBefore

/-- **The matches that would fire now.** -/
def agenda (session : Session) : Reply (List Activation) :=
  let network := session.kb.network
  let (answer, state) := (matchesAll network session.memory network.terminals).run.run .fresh
  { outcome := answer.map fun found => inFiringOrder (session.unstarted found)
    session := session
    log := []
    calls := state.calls.map Prod.snd }

/-! ### Firing -/

/-- The log line of a consequence that is about to run. -/
def firingLine (activation : Activation) : LogLine :=
  ⟨.trace, "firing " ++ activation.rule ++ " with "
    ++ Text.bracketed (activation.bindings.map Value.quotedText)⟩

/-- The consequence of the terminal that a match ended at. -/
def consequence? (session : Session) (activation : Activation) : Option Consequence :=
  match session.kb.network.node? activation.terminal with
  | some { kind := .terminal terminal, .. } => some terminal.consequence
  | _ => none

/-- Notes that the consequence of a match is run. -/
def start (session : Session) (activation : Activation) : Session :=
  { session with started := session.started.push activation }

/-- Notes that the consequence of a match succeeded. -/
def succeed (session : Session) (activation : Activation) : Session :=
  { session with history := session.history.push activation }

/-- **Fires one match**, if the bound allows one more. -/
def fire (session : Session) (activation : Activation) : Reply Unit :=
  if session.bound ≤ session.history.size then
    reply (Fault.limit (.activations (session.bound % UInt32.size) (some activation.rule))).fail
      session []
  else
    match session.consequence? activation with
    | none => reply (.ok ()) ((session.start activation).succeed activation) []
    | some consequence =>
      match consequence.run activation.bindings with
      | .ok () =>
        reply (.ok ()) ((session.start activation).succeed activation) [firingLine activation]
      | .error failure =>
        reply (.error (failure.located (.inRule activation.rule))) (session.start activation)
          [firingLine activation]

/-- Fires matches in order, up to the first that fails. -/
def fireEach (session : Session) : List Activation → Reply Unit
  | [] => reply (.ok ()) session []
  | activation :: rest =>
    let first := session.fire activation
    match first.outcome with
    | .error failure => { first with outcome := .error failure }
    | .ok () =>
      let others := fireEach first.session rest
      { others with log := first.log ++ others.log, calls := first.calls ++ others.calls }

/-- A match that fired lengthens the history, which was below the bound. -/
theorem fire_ok {session : Session} {activation : Activation}
    (fired : (session.fire activation).outcome = .ok ()) :
    session.history.size < session.bound ∧
      (session.fire activation).session.history.size = session.history.size + 1 ∧
      (session.fire activation).session.bound = session.bound := by
  unfold fire at fired ⊢
  split
  · rename_i full
    simp [full, reply, Fault.fail] at fired
  · rename_i room
    refine ⟨by omega, ?_⟩
    simp only [room, if_false] at fired
    split
    · simp [reply, start, succeed]
    · rename_i consequence found
      simp only [found] at fired
      split
      · simp [reply, start, succeed]
      · rename_i failure failing
        simp [failing, reply] at fired

theorem fireEach_ok {session : Session} {activations : List Activation}
    (fired : (session.fireEach activations).outcome = .ok ()) :
    (session.fireEach activations).session.history.size =
        session.history.size + activations.length ∧
      (session.fireEach activations).session.bound = session.bound ∧
      (activations ≠ [] → session.history.size < session.bound) := by
  induction activations generalizing session with
  | nil => simp [fireEach, reply]
  | cons activation rest hypothesis =>
    unfold fireEach at fired ⊢
    cases first : (session.fire activation).outcome with
    | error failure => simp [first] at fired
    | ok done =>
      simp only [first] at fired ⊢
      have step := fire_ok first
      have tail := hypothesis fired
      refine ⟨?_, ?_, fun _ => step.1⟩
      · rw [tail.1, step.2.1]; simp; omega
      · rw [tail.2.1, step.2.2]

/-- Fires the agenda, and again, until it is empty; `count` matches have fired before. A round that
succeeds lengthens the history, so the bound ends the rounds. -/
def fireRounds (session : Session) (count : Nat) : Reply Nat :=
  let found := session.agenda
  match found.outcome with
  | .error failure => ⟨.error failure, session, [], found.calls⟩
  | .ok [] =>
    ⟨.ok count, session, [⟨.debug, "fired " ++ toString count ++ " activation(s)"⟩], found.calls⟩
  | .ok (activation :: rest) =>
    let round := session.fireEach (activation :: rest)
    match _fired : round.outcome with
    | .error failure => ⟨.error failure, round.session, round.log, found.calls ++ round.calls⟩
    | .ok () =>
      let others := fireRounds round.session (count + (activation :: rest).length)
      { others with
        log := round.log ++ others.log
        calls := found.calls ++ round.calls ++ others.calls }
termination_by session.bound - session.history.size
decreasing_by
  have grown := fireEach_ok _fired
  have below := grown.2.2 (by simp)
  rw [grown.1, grown.2.1]
  simp only [List.length_cons]
  omega

/-- **Fires all rules** until no match is left. Answers with the number of matches fired. -/
def fireAll (session : Session) : Reply Nat :=
  session.fireRounds 0

/-- The names of the rules that fired, oldest first. -/
def firedRules (session : Session) : List String :=
  session.history.toList.map Activation.rule

end Session

end RuleNet
