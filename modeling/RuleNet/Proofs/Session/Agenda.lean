/-
**The agenda as a function of working memory.**

An agenda is computed by one evaluator, terminal by terminal. What comes out does not depend on what
the evaluator remembers on the way.

* `Session.matchesGiven`: the matches at a node, from the feeds of the network;
* `matchesAt_computes`, `matchesAll_computes`: **the evaluator finds these**, and in a layered
  network only a callback makes it fail;
* `agenda_eq`: **the agenda is a function of the feeds**;
* `agenda_charged`: in a layered network only a callback makes it fail.
-/

import RuleNet.Proofs.Match.Evaluation
import RuleNet.Session

namespace RuleNet

open Stateful Evaluation

namespace Session

variable {network : Network} {memory : WorkingMemory} {state : EvaluatorState}

/-- A failure that is placed in a rule. -/
def placedIn {α : Type} (rule : String) (outcome : Outcome α) : Outcome α :=
  match outcome with
  | .ok value => .ok value
  | .error failure => .error (failure.located (.inRule rule))

/-- **The matches at a node**, from the feeds of the network. -/
def matchesGiven (network : Network) (memory : WorkingMemory) (id : NodeId) :
    Outcome (List Activation) :=
  match network.node? id with
  | some node =>
    match node.kind with
    | .terminal terminal => placedIn terminal.rule do
      let tokens ← node.tokensRead (feedAt network.nodes) memory
      tokens.mapM (activation terminal id)
    | _ => .ok []
  | none => .ok []

/-- The places of a terminal inside a token have values. -/
theorem activation_ok {terminal : Terminal} {token : Token}
    (inside : ∀ offset ∈ terminal.bindings, offset < token.width) (id : NodeId) :
    activation terminal id token = .ok ⟨terminal.rule, terminal.salience, id,
      terminal.bindings.map fun offset => token.values.getD offset .nil, token⟩ := by
  have given : arguments terminal token =
      .ok (terminal.bindings.map fun offset => token.values.getD offset .nil) := by
    refine Outcome.mapM_eq_ok_map fun offset member => ?_
    have there : offset < token.values.length := inside offset member
    simp [List.getElem?_eq_getElem there, List.getD_eq_getElem?_getD]
  simp only [activation, given, Outcome.ok_bind]

/-- The evaluator places failures in the rule. -/
theorem computes_inRule {α : Type} {whole : List Node} {safe : Prop} {step : Evaluation α}
    {outcome : Outcome α} (computes : Computes memory whole safe step state outcome)
    (rule : String) :
    Computes memory whole safe (inRule rule step) state (placedIn rule outcome) := by
  unfold inRule Computes
  simp only [ensures_tryCatch, ensures_throw]
  refine Ensures.mono computes (fun value after ended => ?_) fun failure after ended => ?_
  · obtain ⟨rfl, sound⟩ := ended
    exact ⟨rfl, sound⟩
  · obtain ⟨rfl, sound, charged⟩ := ended
    refine ⟨rfl, sound, fun promised => ?_⟩
    obtain ⟨node, member, cause, same, blame⟩ := charged promised
    exact ⟨node, member, cause, same, blame⟩

/-- **The evaluator finds the matches at a node.** -/
theorem matchesAt_computes (distinct : (network.nodes.map Node.id).Nodup)
    (sound : state.Sound memory network.nodes) (id : NodeId) :
    Computes memory network.nodes (Layered network.nodes) (matchesAt network memory id) state
      (matchesGiven network memory id) := by
  unfold matchesAt matchesGiven
  cases found : network.node? id with
  | none => exact computes_pure sound _
  | some node =>
    obtain ⟨own, kind, object, tuple, children⟩ := node
    cases kind with
    | terminal terminal =>
      have named : own = id := Network.node?_id found
      have member := Network.node?_mem found
      refine computes_inRule ?_ terminal.rule
      simp only [Node.tokensRead, Node.needTuple]
      cases tuple with
      | none =>
        subst named
        refine computes_malformed sound _ fun layered => ?_
        obtain ⟨parent, width, none, _⟩ := (layered.fits member).tupleParent rfl
        cases none
      | some parent =>
        simp only [Outcome.ok_bind]
        have evaluates := @tokensAt_computes memory network.nodes state network.nodes parent
          distinct (List.suffix_refl _) sound
        refine computes_bind evaluates (fun layered => ?_) fun tokens after found kept => ?_
        · obtain ⟨above, width, same, given, _⟩ := (layered.fits member).tupleParent rfl
          cases same
          exact ⟨layered, width, given⟩
        cases matched : tokens.mapM (activation terminal id) with
        | ok matching => exact computes_pure kept _
        | error failure =>
          refine ⟨rfl, kept, fun layered => ?_⟩
          -- every token has the places that the terminal reads
          obtain ⟨above, width, same, given, within⟩ := (layered.fits member).tupleParent rfl
          cases same
          have wide := layered.tokens_width given found
          have succeeds := Outcome.mapM_eq_ok_map fun token (member : token ∈ tokens) =>
            activation_ok (fun offset listed => wide token member ▸ within offset listed) id
          rw [succeeds] at matched
          cases matched
    | _ => exact computes_pure sound _

/-- **The evaluator finds all matches.** -/
theorem matchesAll_computes (distinct : (network.nodes.map Node.id).Nodup)
    (sound : state.Sound memory network.nodes) (ids : List NodeId) :
    Computes memory network.nodes (Layered network.nodes) (matchesAll network memory ids) state
      ((ids.mapM (matchesGiven network memory)).map List.flatten) := by
  induction ids generalizing state with
  | nil => exact computes_pure sound _
  | cons id rest hypothesis =>
    have same : ((id :: rest).mapM (matchesGiven network memory)).map List.flatten =
        matchesGiven network memory id >>= fun first =>
          (rest.mapM (matchesGiven network memory)).map List.flatten >>= fun others =>
            .ok (first ++ others) := by
      rw [List.mapM_cons]
      cases matchesGiven network memory id with
      | error failure => rfl
      | ok first => cases rest.mapM (matchesGiven network memory) <;> rfl
    rw [same]
    refine computes_bind (matchesAt_computes distinct sound id) (fun layered => layered)
      fun first mid _ kept => ?_
    refine computes_bind (hypothesis kept) (fun layered => layered) fun others after _ last => ?_
    exact computes_pure last _

variable {session : Session}

/-- The matches of all terminals, as the evaluator of an agenda finds them. -/
theorem agenda_computes (distinct : (session.kb.network.nodes.map Node.id).Nodup) :
    Computes session.memory session.kb.network.nodes (Layered session.kb.network.nodes)
      (matchesAll session.kb.network session.memory session.kb.network.terminals) .fresh
      ((session.kb.network.terminals.mapM
        (matchesGiven session.kb.network session.memory)).map List.flatten) :=
  matchesAll_computes distinct (EvaluatorState.sound_fresh _ _) _

/-- **The agenda is a function of the feeds**: the matches of all terminals that were not run
before, in firing order. -/
theorem agenda_eq (distinct : (session.kb.network.nodes.map Node.id).Nodup) :
    session.agenda.outcome = (session.kb.network.terminals.mapM
        (matchesGiven session.kb.network session.memory)).map fun found =>
          inFiringOrder (session.unstarted found.flatten) := by
  have found := (agenda_computes distinct).outcome
  show (result (matchesAll session.kb.network session.memory session.kb.network.terminals)
    .fresh).1.map _ = _
  rw [found, Outcome.map_map]
  rfl

/-- **In a layered network only a callback makes an agenda fail**, and its call is on record. -/
theorem agenda_charged (layered : Layered session.kb.network.nodes) {failure : Failure}
    (failed : session.agenda.outcome = .error failure) :
    ∃ node ∈ session.kb.network.nodes, ∃ cause : Failure, cause.fault = failure.fault ∧
      Blame node.kind.callbacks session.agenda.calls cause := by
  have computes := @agenda_computes session layered.distinct
  exact (computes.of_error (Outcome.map_eq_error.mp failed)).2.2 layered

end Session

end RuleNet
