/-
**What an evaluator remembers cannot be seen from outside.**

An evaluator is asked for the objects or the tokens of nodes, one query after the other. Earlier
queries leave remembered results behind, also those that failed halfway.

* `Query.ask`, `Network.answers`: one query, and a run of queries over one evaluator;
* `callsAt`: the callback evaluations that one evaluation of a node makes, a function of working
  memory as its feed is;
* `EvaluatorState.InOrder`: the invariant. What is remembered is the feed of its node, and the calls
  on record for a remembered node are those of exactly one evaluation;
* `Grown.answers_cached`: **every query is answered as by a fresh evaluator**, and a node whose
  evaluation succeeds has its callbacks run at most once.
-/

import RuleNet.Proofs.Build.Distinct
import RuleNet.Proofs.Build.Meaning

namespace RuleNet

open Stateful

/-! ### Queries -/

/-- What an evaluator is asked for. -/
inductive Query where
  | objects (id : NodeId)
  | tokens (id : NodeId)
deriving DecidableEq, Repr

/-- What it answers. -/
inductive Answer where
  | objects (found : Outcome (List Held))
  | tokens (found : Outcome (List Token))

/-- The query was answered by a value. -/
def Answer.succeeds : Answer → Bool
  | .objects (.ok _) | .tokens (.ok _) => true
  | _ => false

namespace Query

/-- The node that is asked for. -/
def node : Query → NodeId
  | objects id | tokens id => id

/-- **Asks an evaluator**, which remembers. -/
def ask (network : Network) (memory : WorkingMemory) (state : EvaluatorState) :
    Query → Answer × EvaluatorState
  | objects id =>
    let ended := result (network.objects memory id) state
    (.objects ended.1, ended.2)
  | tokens id =>
    let ended := result (network.tokens memory id) state
    (.tokens ended.1, ended.2)

end Query

/-- **A run of queries over one evaluator**: the answers, and what it knows in the end. -/
def Network.answers (network : Network) (memory : WorkingMemory) :
    List Query → EvaluatorState → List Answer × EvaluatorState
  | [], state => ([], state)
  | query :: rest, state =>
    let first := query.ask network memory state
    let others := network.answers memory rest first.2
    (first.1 :: others.1, others.2)

theorem Network.answers_append (network : Network) (memory : WorkingMemory)
    (earlier later : List Query) (state : EvaluatorState) :
    (network.answers memory (earlier ++ later) state).2 =
      (network.answers memory later (network.answers memory earlier state).2).2 := by
  induction earlier generalizing state with
  | nil => rfl
  | cons query rest hypothesis => exact hypothesis _

/-! ### The calls of one evaluation -/

/-- The callback evaluations that a node asks for, from what its parents give. -/
def Node.callsGiven (input : NodeId → Feed) (node : Node) (memory : WorkingMemory) : List Call :=
  let objects := Traced.ofOutcome (node.objectsRead input memory)
  let tokens := Traced.ofOutcome (node.tokensRead input memory)
  match node.kind with
  | .alpha predicate arity => (objects >>= Operator.alphaObjects predicate arity).calls
  | .join constraints =>
    (tokens >>= fun tokens => objects >>= Operator.joinTokens constraints tokens).calls
  | .existential quantifier constraints =>
    (tokens >>= fun tokens => objects >>=
      Operator.existentialTokens quantifier constraints tokens).calls
  | .accumulate source results functions =>
    (tokens >>= fun tokens => objects >>=
      Operator.accumulateTokens source results functions tokens).calls
  | .invoker invocation args constraints =>
    (tokens >>= Operator.invokerTokens invocation args constraints).calls
  | _ => []

/-- **The callback evaluations of a node**, along the arena as `feedAt` goes. -/
def callsAt (memory : WorkingMemory) : List Node → NodeId → List Call
  | [], _ => []
  | node :: older, id =>
    if node.id = id then node.callsGiven (feedAt older) memory else callsAt memory older id

theorem callsAt_self (memory : WorkingMemory) (node : Node) (older : List Node) :
    callsAt memory (node :: older) node.id = node.callsGiven (feedAt older) memory := by
  simp [callsAt]

/-- The calls of a node of a tail are those in the whole arena. -/
theorem callsAt_suffix {memory : WorkingMemory} {whole nodes : List Node}
    (distinct : (whole.map Node.id).Nodup) (tail : nodes <:+ whole) {node : Node}
    (member : node ∈ nodes) : callsAt memory whole node.id = callsAt memory nodes node.id := by
  induction whole with
  | nil =>
    rw [List.suffix_nil.mp tail] at member
    cases member
  | cons newest rest hypothesis =>
    rcases List.suffix_cons_iff.mp tail with rfl | later
    · rfl
    · rw [List.map_cons, List.nodup_cons] at distinct
      have different : newest.id ≠ node.id := fun same =>
        distinct.1 (same ▸ List.mem_map_of_mem (later.subset member))
      rw [callsAt, if_neg different]
      exact hypothesis distinct.2 later

/-- The node gives objects, or it gives tokens. -/
def Feed.Succeeds (feed : Feed) (memory : WorkingMemory) : Prop :=
  (∃ objects, feed.objects memory = .ok objects) ∨ ∃ tokens, feed.tokens memory = .ok tokens

/-- A node that returns objects gives objects. -/
theorem stream_of_objects {nodes : List Node} {id : NodeId} {memory : WorkingMemory}
    {objects : List Held} (found : (feedAt nodes id).objects memory = .ok objects) :
    (feedAt nodes id).stream = some .objects := by
  induction nodes with
  | nil => cases found
  | cons node older hypothesis =>
    by_cases same : node.id = id
    · subst same
      rw [feedAt_self] at found ⊢
      simp only [Node.feed] at found ⊢
      unfold Node.objectsGiven at found
      cases kind : node.kind with
      | entryPoint _ | stream _ _ | objectType _ | alpha _ _ => rfl
      | _ =>
        rw [kind] at found
        cases found
    · rw [feedAt_older same] at found ⊢
      exact hypothesis found

/-- A node that gives objects succeeds by objects. -/
theorem Feed.succeeds_objects {nodes : List Node} {id : NodeId} {memory : WorkingMemory}
    (given : (feedAt nodes id).stream = some .objects) :
    (feedAt nodes id).Succeeds memory ↔
      ∃ objects, (feedAt nodes id).objects memory = .ok objects := by
  refine or_iff_left ?_
  rintro ⟨tokens, found⟩
  obtain ⟨width, other⟩ := stream_of_tokens found
  rw [given] at other
  cases other

/-- A node that gives tuples succeeds by tokens. -/
theorem Feed.succeeds_tokens {nodes : List Node} {id : NodeId} {memory : WorkingMemory} {width : Nat}
    (given : (feedAt nodes id).stream = some (.tuples width)) :
    (feedAt nodes id).Succeeds memory ↔
      ∃ tokens, (feedAt nodes id).tokens memory = .ok tokens := by
  refine or_iff_right ?_
  rintro ⟨objects, found⟩
  rw [stream_of_objects found] at given
  cases given

/-! ### The invariant -/

namespace EvaluatorState

variable {memory : WorkingMemory} {whole nodes older : List Node} {id : NodeId}
  {state before mid after : EvaluatorState}

/-- The callback evaluations on record for a node, oldest first. -/
def callsOf (state : EvaluatorState) (id : NodeId) : List Call :=
  (state.calls.filter (·.1 = id)).map Prod.snd

/-- A result of the node is remembered. -/
def Remembers (state : EvaluatorState) (id : NodeId) : Prop :=
  (∃ found, state.objects.lookup id = some found) ∨ ∃ found, state.tokens.lookup id = some found

/-- **What is remembered is right, and was computed once.** Nodes that are `busy` are being
evaluated: their calls may be on record before there is a result. -/
structure InOrder (memory : WorkingMemory) (nodes : List Node) (busy : List NodeId)
    (state : EvaluatorState) : Prop where
  sound : state.Sound memory nodes
  once : ∀ id, state.Remembers id → state.callsOf id = callsAt memory nodes id
  idle : ∀ id, id ∉ busy → ¬ state.Remembers id → (feedAt nodes id).Succeeds memory →
    state.callsOf id = []

theorem inOrder_fresh (memory : WorkingMemory) (nodes : List Node) :
    fresh.InOrder memory nodes [] where
  sound := sound_fresh memory nodes
  once := by
    rintro id (⟨_, known⟩ | ⟨_, known⟩) <;> cases known
  idle _ _ _ _ := rfl

/-- **What a step over some nodes may change**: it remembers more of them, and makes calls for them
and, besides, `made` for one more. -/
structure Within (older : List Node) (id : NodeId) (made : List Call)
    (before after : EvaluatorState) : Prop where
  kept : ∀ other, before.Remembers other → after.Remembers other
  outside : ∀ other ∉ older.map Node.id, after.Remembers other → before.Remembers other
  calls : ∀ other ∉ older.map Node.id,
    after.callsOf other = before.callsOf other ++ if other = id then made else []

/-- **A result of a node is added** to what is remembered. -/
structure Recalls (id : NodeId) (before after : EvaluatorState) : Prop where
  known : after.Remembers id
  others : ∀ other, other ≠ id → (after.Remembers other ↔ before.Remembers other)
  calls : after.calls = before.calls

theorem recalls_objects (state : EvaluatorState) (id : NodeId) (found : List Held) :
    Recalls id state { state with objects := (id, found) :: state.objects } where
  known := .inl ⟨found, by simp⟩
  others other apart := by simp [Remembers, List.lookup_cons, beq_false_of_ne apart]
  calls := rfl

theorem recalls_tokens (state : EvaluatorState) (id : NodeId) (found : List Token) :
    Recalls id state { state with tokens := (id, found) :: state.tokens } where
  known := .inr ⟨found, by simp⟩
  others other apart := by simp [Remembers, List.lookup_cons, beq_false_of_ne apart]
  calls := rfl

theorem Recalls.callsOf (recalls : Recalls id before after) (other : NodeId) :
    after.callsOf other = before.callsOf other := by
  rw [EvaluatorState.callsOf, recalls.calls, EvaluatorState.callsOf]

namespace Within

variable {made more : List Call}

theorem still (older : List Node) (id : NodeId) (state : EvaluatorState) :
    Within older id [] state state :=
  ⟨fun _ known => known, fun _ _ known => known, fun _ _ => by simp⟩

theorem trans (first : Within older id made before mid) (second : Within older id more mid after) :
    Within older id (made ++ more) before after where
  kept other known := second.kept other (first.kept other known)
  outside other apart known := first.outside other apart (second.outside other apart known)
  calls other apart := by
    rw [second.calls other apart, first.calls other apart, List.append_assoc]
    split <;> simp

variable {node : Node}

/-- With its own node added, a step has made no other calls. -/
theorem own (step : Within older node.id made before after) (other : NodeId) :
    Within (node :: older) other [] before after := by
  refine ⟨step.kept, fun third apart => ?_, fun third apart => ?_⟩
  all_goals rw [List.map_cons, List.mem_cons, not_or] at apart
  · exact step.outside third apart.2
  · rw [step.calls third apart.2, if_neg apart.1, ite_self]

/-- The result of the node is remembered. -/
theorem remembered (step : Within older node.id made before mid) (recalls : Recalls node.id mid after)
    (other : NodeId) : Within (node :: older) other [] before after := by
  refine ⟨fun third known => ?_, fun third apart known => ?_, fun third apart => ?_⟩
  · by_cases same : third = node.id
    · exact same ▸ recalls.known
    · exact (recalls.others third same).mpr (step.kept third known)
  · rw [List.map_cons, List.mem_cons, not_or] at apart
    exact step.outside third apart.2 ((recalls.others third apart.1).mp known)
  · rw [recalls.callsOf]
    exact (step.own other).calls third apart

end Within

namespace InOrder

/-- A node can always be taken for busy. -/
theorem occupy (inOrder : state.InOrder memory whole []) (id : NodeId) :
    state.InOrder memory whole [id] :=
  { inOrder with idle := fun other _ => inOrder.idle other List.not_mem_nil }

/-- **The evaluation of a node fails**: nothing was remembered for it. -/
theorem abandon (inOrder : state.InOrder memory whole [id])
    (fails : ¬ (feedAt whole id).Succeeds memory) : state.InOrder memory whole [] := by
  refine { inOrder with idle := fun other _ unknown succeeds => ?_ }
  refine inOrder.idle other (fun busy => ?_) unknown succeeds
  rw [List.mem_singleton.mp busy] at succeeds
  exact fails succeeds

/-- **The evaluation of a node succeeds**, and the node is remembered with its calls on record. -/
theorem finish (inOrder : mid.InOrder memory whole [id]) (recalls : Recalls id mid after)
    (sound : after.Sound memory whole) (made : mid.callsOf id = callsAt memory whole id) :
    after.InOrder memory whole [] := by
  refine ⟨sound, fun other known => ?_, fun other _ unknown succeeds => ?_⟩
  · rw [recalls.callsOf]
    by_cases same : other = id
    · rw [same, made]
    · exact inOrder.once other ((recalls.others other same).mp known)
  · rw [recalls.callsOf]
    have apart : other ≠ id := fun same => unknown (same ▸ recalls.known)
    exact inOrder.idle other (fun busy => apart (List.mem_singleton.mp busy))
      (fun known => unknown ((recalls.others other apart).mpr known)) succeeds

end InOrder

end EvaluatorState

/-! ### Steps of the evaluator -/

namespace Evaluation

open EvaluatorState

variable {memory : WorkingMemory} {whole nodes older : List Node} {id : NodeId}
  {before : EvaluatorState} {α β : Type}

/-- **A whole step over some nodes**: it ends as the outcome says and leaves everything in order. -/
structure Reads (memory : WorkingMemory) (whole older : List Node) (step : Evaluation α)
    (before : EvaluatorState) (outcome : Outcome α) : Prop where
  outcome : (result step before).1 = outcome
  inOrder : (result step before).2.InOrder memory whole []
  within : ∀ id, EvaluatorState.Within older id [] before (result step before).2

/-- **A part of the evaluation of a node**: it ends as the traced computation does, and the calls of
that are put on record for the node. -/
structure Evaluates (memory : WorkingMemory) (whole older : List Node) (id : NodeId)
    (step : Evaluation α) (before : EvaluatorState) (traced : Traced α) : Prop where
  outcome : (result step before).1 = traced.outcome
  inOrder : (result step before).2.InOrder memory whole [id]
  within : EvaluatorState.Within older id traced.calls before (result step before).2

theorem reads_ofOutcome (inOrder : before.InOrder memory whole []) {step : Evaluation α}
    {outcome : Outcome α} (ends : result step before = (outcome, before)) :
    Reads memory whole older step before outcome := by
  refine ⟨?_, ?_, fun id => ?_⟩ <;> rw [ends]
  · exact inOrder
  · exact .still older id before

theorem reads_pure (inOrder : before.InOrder memory whole []) (value : α) :
    Reads memory whole older (pure value) before (.ok value) :=
  reads_ofOutcome inOrder rfl

/-- One step after the other. -/
theorem reads_bind {first : Evaluation α} {outcome : Outcome α} {next : α → Evaluation β}
    {onward : α → Outcome β} (head : Reads memory whole older first before outcome)
    (tail : ∀ value after, outcome = .ok value → after.InOrder memory whole [] →
      Reads memory whole older (next value) after (onward value)) :
    Reads memory whole older (first >>= next) before (outcome >>= onward) := by
  obtain ⟨answer, inOrder, within⟩ := head
  have ends := result_bind first next before
  cases ended : result first before with
  | mk found mid =>
    rw [ended] at answer inOrder within ends
    simp only at answer inOrder within ends
    subst answer
    cases found with
    | error failure =>
      refine ⟨?_, ?_, fun id => ?_⟩ <;> rw [ends]
      · rfl
      · exact inOrder
      · exact within id
    | ok value =>
      have last := tail value mid rfl inOrder
      refine ⟨?_, ?_, fun id => ?_⟩ <;> rw [ends]
      · exact last.outcome
      · exact last.inOrder
      · exact (within id).trans (last.within id)

/-- **A parent is read first**, which makes no calls for the node itself. -/
theorem evaluates_bind {first : Evaluation α} {outcome : Outcome α} {next : α → Evaluation β}
    {onward : α → Traced β} (unknown : ¬ before.Remembers id) (outside : id ∉ older.map Node.id)
    (head : Reads memory whole older first before outcome)
    (tail : ∀ value after, after.InOrder memory whole [] → ¬ after.Remembers id →
      Evaluates memory whole older id (next value) after (onward value)) :
    Evaluates memory whole older id (first >>= next) before
      (Traced.ofOutcome outcome >>= onward) := by
  obtain ⟨answer, inOrder, within⟩ := head
  have ends := result_bind first next before
  cases ended : result first before with
  | mk found mid =>
    rw [ended] at answer inOrder within ends
    simp only at answer inOrder within ends
    subst answer
    cases found with
    | error failure =>
      rw [Traced.bind_of_error rfl]
      refine ⟨?_, ?_, ?_⟩ <;> rw [ends]
      · exact inOrder.occupy id
      · exact within id
    | ok value =>
      have last := tail value mid inOrder fun known =>
        unknown ((within id).outside id outside known)
      rw [Traced.bind_of_ok rfl]
      refine ⟨?_, ?_, ?_⟩ <;> rw [ends]
      · exact last.outcome
      · exact last.inOrder
      · exact (within id).trans last.within

/-- **The operator of the node is run last.** -/
theorem evaluates_operate (inOrder : before.InOrder memory whole []) (unknown : ¬ before.Remembers id)
    (traced : Traced α) : Evaluates memory whole older id (operate id traced) before traced := by
  have ends : result (operate id traced) before = (traced.outcome,
      { before with calls := before.calls ++ traced.calls.map (id, ·) }) := by
    unfold operate
    rw [result_bind, result_modify]
    cases traced.outcome <;> rfl
  have made : ∀ other, ({ before with
      calls := before.calls ++ traced.calls.map (id, ·) } : EvaluatorState).callsOf other =
        before.callsOf other ++ if other = id then traced.calls else [] := by
    intro other
    simp only [callsOf, List.filter_append, List.filter_map, List.map_append, List.map_map]
    by_cases own : other = id
    · simp [own, Function.comp_def]
    · have apart : id ≠ other := fun same => own same.symm
      simp [own, apart, Function.comp_def]
  refine ⟨?_, ?_, ?_⟩ <;> rw [ends]
  · refine ⟨{ inOrder.sound with }, fun other known => ?_, fun other free unknown succeeds => ?_⟩
    · have apart : other ≠ id := by
        rintro rfl
        exact unknown known
      rw [made, if_neg apart, List.append_nil]
      exact inOrder.once other known
    · have apart : other ≠ id := fun own => free (List.mem_singleton.mpr own)
      rw [made, if_neg apart, List.append_nil]
      exact inOrder.idle other List.not_mem_nil unknown succeeds
  · exact ⟨fun _ known => known, fun _ _ known => known, fun other _ => made other⟩

/-- What is read is a part of the evaluation that makes no calls. -/
theorem Reads.evaluates {step : Evaluation α} {outcome : Outcome α}
    (reads : Reads memory whole older step before outcome) :
    Evaluates memory whole older id step before (Traced.ofOutcome outcome) :=
  ⟨reads.outcome, reads.inOrder.occupy id, reads.within id⟩

/-! ### Nodes -/

variable {node : Node}

/-- **A node is evaluated**: the result of a success is remembered. -/
theorem reads_remembered {step compute : Evaluation α} {traced : Traced α}
    (inOrder : before.InOrder memory whole []) (unknown : ¬ before.Remembers node.id)
    (outside : node.id ∉ older.map Node.id)
    (evaluates : Evaluates memory whole older node.id compute before traced)
    (calls : callsAt memory whole node.id = traced.calls)
    (succeeds : (feedAt whole node.id).Succeeds memory ↔ ∃ value, traced.outcome = .ok value)
    (failed : ∀ failure mid, result compute before = (.error failure, mid) →
      result step before = (.error failure, mid))
    (remembered : ∀ value mid, result compute before = (.ok value, mid) →
      ∃ after, result step before = (.ok value, after) ∧ Recalls node.id mid after ∧
        (traced.outcome = .ok value → mid.Sound memory whole → after.Sound memory whole)) :
    Reads memory whole (node :: older) step before traced.outcome := by
  obtain ⟨answer, last, within⟩ := evaluates
  cases ended : result compute before with
  | mk found mid =>
    rw [ended] at answer last within
    cases found with
    | error failure =>
      refine ⟨?_, ?_, fun id => ?_⟩ <;> rw [failed failure mid ended]
      · exact answer
      · refine last.abandon fun good => ?_
        obtain ⟨value, found⟩ := succeeds.mp good
        rw [← answer] at found
        cases found
      · exact within.own id
    | ok value =>
      obtain ⟨after, same, recalls, sound⟩ := remembered value mid ended
      refine ⟨?_, ?_, fun id => ?_⟩ <;> rw [same]
      · exact answer
      · refine last.finish recalls (sound answer.symm last.sound) ?_
        have good := succeeds.mpr ⟨value, answer.symm⟩
        rw [within.calls node.id outside, inOrder.idle node.id List.not_mem_nil unknown good,
          if_pos rfl, List.nil_append, calls]
      · exact within.remembered recalls id

theorem result_objectsOnce (id : NodeId) (compute : Evaluation (List Held))
    (before : EvaluatorState) :
    result (objectsOnce id compute) before =
      match before.objects.lookup id with
      | some known => (.ok known, before)
      | none => match result compute before with
        | (.ok found, mid) => (.ok found, { mid with objects := (id, found) :: mid.objects })
        | (.error failure, mid) => (.error failure, mid) := by
  unfold objectsOnce
  rw [result_bind, result_get]
  cases listed : before.objects.lookup id with
  | some known => simp only [listed, result_pure]
  | none =>
    simp only [listed, result_bind compute]
    cases result compute before with
    | mk found mid => cases found <;> rfl

theorem result_tokensOnce (id : NodeId) (compute : Evaluation (List Token))
    (before : EvaluatorState) :
    result (tokensOnce id compute) before =
      match before.tokens.lookup id with
      | some known => (.ok known, before)
      | none => match result compute before with
        | (.ok found, mid) => (.ok found, { mid with tokens := (id, found) :: mid.tokens })
        | (.error failure, mid) => (.error failure, mid) := by
  unfold tokensOnce
  rw [result_bind, result_get]
  cases listed : before.tokens.lookup id with
  | some known => simp only [listed, result_pure]
  | none =>
    simp only [listed, result_bind compute]
    cases result compute before with
    | mk found mid => cases found <;> rfl

/-- Objects that are computed once. -/
theorem reads_objectsOnce {compute : Evaluation (List Held)} {traced : Traced (List Held)}
    (inOrder : before.InOrder memory whole []) (outside : node.id ∉ older.map Node.id)
    (given : (feedAt whole node.id).stream = some .objects)
    (feed : (feedAt whole node.id).objects memory = traced.outcome)
    (calls : callsAt memory whole node.id = traced.calls)
    (evaluates : ¬ before.Remembers node.id →
      Evaluates memory whole older node.id compute before traced) :
    Reads memory whole (node :: older) (objectsOnce node.id compute) before
      ((feedAt whole node.id).objects memory) := by
  have ends := result_objectsOnce node.id compute before
  cases listed : before.objects.lookup node.id with
  | some found =>
    simp only [listed] at ends
    rw [inOrder.sound.objects _ _ listed]
    exact reads_ofOutcome inOrder ends
  | none =>
    simp only [listed] at ends
    have unknown : ¬ before.Remembers node.id := by
      rintro (⟨found, known⟩ | ⟨found, known⟩)
      · rw [listed] at known
        cases known
      · obtain ⟨width, other⟩ := stream_of_tokens (inOrder.sound.tokens _ _ known)
        rw [given] at other
        cases other
    rw [feed]
    refine reads_remembered inOrder unknown outside (evaluates unknown) calls
      (feed ▸ Feed.succeeds_objects given) (fun failure mid ended => ?_) fun found mid ended => ?_
    · rw [ends, ended]
    · rw [ended] at ends
      exact ⟨_, ends, recalls_objects mid node.id found, fun good sound =>
        sound.objects_cons (feed.trans good)⟩

/-- Tokens that are computed once. -/
theorem reads_tokensOnce {compute : Evaluation (List Token)} {traced : Traced (List Token)}
    {width : Nat} (inOrder : before.InOrder memory whole []) (outside : node.id ∉ older.map Node.id)
    (given : (feedAt whole node.id).stream = some (.tuples width))
    (feed : (feedAt whole node.id).tokens memory = traced.outcome)
    (calls : callsAt memory whole node.id = traced.calls)
    (evaluates : ¬ before.Remembers node.id →
      Evaluates memory whole older node.id compute before traced) :
    Reads memory whole (node :: older) (tokensOnce node.id compute) before
      ((feedAt whole node.id).tokens memory) := by
  have ends := result_tokensOnce node.id compute before
  cases listed : before.tokens.lookup node.id with
  | some found =>
    simp only [listed] at ends
    rw [inOrder.sound.tokens _ _ listed]
    exact reads_ofOutcome inOrder ends
  | none =>
    simp only [listed] at ends
    have unknown : ¬ before.Remembers node.id := by
      rintro (⟨found, known⟩ | ⟨found, known⟩)
      · rw [stream_of_objects (inOrder.sound.objects _ _ known)] at given
        cases given
      · rw [listed] at known
        cases known
    rw [feed]
    refine reads_remembered inOrder unknown outside (evaluates unknown) calls
      (feed ▸ Feed.succeeds_tokens given) (fun failure mid ended => ?_) fun found mid ended => ?_
    · rw [ends, ended]
    · rw [ended] at ends
      exact ⟨_, ends, recalls_tokens mid node.id found, fun good sound =>
        sound.tokens_cons (feed.trans good)⟩

/-- A node that gives no objects is asked for them. -/
theorem reads_noObjects (inOrder : before.InOrder memory whole []) {what : Structural}
    (feed : (feedAt whole id).objects memory = what.fail) :
    Reads memory whole older (objectsOnce id (malformed what)) before what.fail := by
  refine reads_ofOutcome inOrder ?_
  rw [result_objectsOnce]
  cases listed : before.objects.lookup id with
  | some found =>
    rw [inOrder.sound.objects _ _ listed] at feed
    cases feed
  | none => rfl

/-- A node that gives no tokens is asked for them. -/
theorem reads_noTokens (inOrder : before.InOrder memory whole []) {what : Structural}
    (feed : (feedAt whole id).tokens memory = what.fail) :
    Reads memory whole older (tokensOnce id (malformed what)) before what.fail := by
  refine reads_ofOutcome inOrder ?_
  rw [result_tokensOnce]
  cases listed : before.tokens.lookup id with
  | some found =>
    rw [inOrder.sound.tokens _ _ listed] at feed
    cases feed
  | none => rfl

/-- **Reading the object parent.** -/
theorem objectsRead_reads (inOrder : before.InOrder memory whole []) (node : Node)
    (above : ∀ id before, before.InOrder memory whole [] →
      Reads memory whole older (objectsAt memory older id) before
        ((feedAt older id).objects memory)) :
    Reads memory whole older (objectParent node >>= objectsAt memory older) before
      (node.objectsRead (feedAt older) memory) := by
  refine reads_bind (reads_ofOutcome inOrder ?_) fun parent after _ kept => above parent after kept
  unfold objectParent Node.needObject
  cases node.objectParent <;> rfl

/-- **Reading the tuple parent.** -/
theorem tokensRead_reads (inOrder : before.InOrder memory whole []) (node : Node)
    (above : ∀ id before, before.InOrder memory whole [] →
      Reads memory whole older (tokensAt memory older id) before
        ((feedAt older id).tokens memory)) :
    Reads memory whole older (tupleParent node >>= tokensAt memory older) before
      (node.tokensRead (feedAt older) memory) := by
  refine reads_bind (reads_ofOutcome inOrder ?_) fun parent after _ kept => above parent after kept
  unfold tupleParent Node.needTuple
  cases node.tupleParent <;> rfl

/-- Objects are read before the rest of the evaluation. -/
theorem evaluates_objectsRead (unknown : ¬ before.Remembers id) (outside : id ∉ older.map Node.id)
    (read : Reads memory whole older (objectParent node >>= objectsAt memory older) before
      (node.objectsRead (feedAt older) memory))
    {next : List Held → Evaluation α} {onward : List Held → Traced α}
    (tail : ∀ objects after, after.InOrder memory whole [] → ¬ after.Remembers id →
      Evaluates memory whole older id (next objects) after (onward objects)) :
    Evaluates memory whole older id
      (objectParent node >>= fun parent => objectsAt memory older parent >>= next) before
      (Traced.ofOutcome (node.objectsRead (feedAt older) memory) >>= onward) := by
  rw [← bind_assoc]
  exact evaluates_bind unknown outside read tail

/-- Tokens are read before the rest of the evaluation. -/
theorem evaluates_tokensRead (unknown : ¬ before.Remembers id) (outside : id ∉ older.map Node.id)
    (read : Reads memory whole older (tupleParent node >>= tokensAt memory older) before
      (node.tokensRead (feedAt older) memory))
    {next : List Token → Evaluation α} {onward : List Token → Traced α}
    (tail : ∀ tokens after, after.InOrder memory whole [] → ¬ after.Remembers id →
      Evaluates memory whole older id (next tokens) after (onward tokens)) :
    Evaluates memory whole older id
      (tupleParent node >>= fun parent => tokensAt memory older parent >>= next) before
      (Traced.ofOutcome (node.tokensRead (feedAt older) memory) >>= onward) := by
  rw [← bind_assoc]
  exact evaluates_bind unknown outside read tail

/-- **Evaluating the objects of a node** gives its feed and leaves everything in order. -/
theorem objectsAt_reads (distinct : (whole.map Node.id).Nodup) (tail : nodes <:+ whole)
    (inOrder : before.InOrder memory whole []) :
    Reads memory whole nodes (objectsAt memory nodes id) before
      ((feedAt nodes id).objects memory) := by
  induction nodes generalizing id before with
  | nil => exact reads_ofOutcome inOrder rfl
  | cons node older hypothesis =>
    have rest : older <:+ whole := (List.suffix_cons node older).trans tail
    have above : ∀ id before, before.InOrder memory whole [] →
        Reads memory whole older (objectsAt memory older id) before
          ((feedAt older id).objects memory) := fun _ _ inOrder => hypothesis rest inOrder
    have read := objectsRead_reads inOrder node above
    unfold objectsAt
    by_cases same : node.id = id
    · rw [if_pos same]
      subst same
      have outside : node.id ∉ older.map Node.id := by
        have apart := (tail.sublist.map Node.id).nodup distinct
        rw [List.map_cons, List.nodup_cons] at apart
        exact apart.1
      have feed := feedAt_suffix distinct tail List.mem_cons_self
      have calls := @callsAt_suffix memory _ _ distinct tail _ List.mem_cons_self
      rw [feedAt_self] at feed ⊢
      rw [callsAt_self] at calls
      have stream := congrArg Feed.stream feed
      have answer := congrFun (congrArg Feed.objects feed) memory
      rw [← answer]
      simp only [Node.feed, Node.objectsGiven, Node.callsGiven] at stream answer calls
      cases kind : node.kind with
      | entryPoint name =>
        rw [kind] at stream answer calls
        exact reads_objectsOnce inOrder outside stream answer calls fun _ =>
          (reads_pure inOrder _).evaluates
      | stream name type =>
        rw [kind] at stream answer calls
        exact reads_objectsOnce inOrder outside stream answer calls fun _ =>
          (reads_pure inOrder _).evaluates
      | objectType type =>
        rw [kind] at stream answer calls
        have narrowed := reads_bind read fun input _ _ kept =>
          reads_pure kept (Operator.narrow type input)
        rw [bind_assoc] at narrowed
        exact reads_objectsOnce inOrder outside stream answer calls fun _ => narrowed.evaluates
      | alpha predicate arity =>
        rw [kind] at stream answer calls
        refine reads_objectsOnce inOrder outside stream ?_ calls fun unknown =>
          evaluates_objectsRead unknown outside read fun objects _ kept free =>
            evaluates_operate kept free (Operator.alphaObjects predicate arity objects)
        rw [answer, Traced.outcome_bind]
        rfl
      | _ =>
        rw [kind] at answer
        rw [answer]
        exact reads_noObjects inOrder answer
    · rw [if_neg same, feedAt_older same]
      have found := above id before inOrder
      exact ⟨found.outcome, found.inOrder, (found.within node.id).own⟩

/-- **Evaluating the tokens of a node** gives its feed and leaves everything in order. -/
theorem tokensAt_reads (distinct : (whole.map Node.id).Nodup) (tail : nodes <:+ whole)
    (inOrder : before.InOrder memory whole []) :
    Reads memory whole nodes (tokensAt memory nodes id) before
      ((feedAt nodes id).tokens memory) := by
  induction nodes generalizing id before with
  | nil => exact reads_ofOutcome inOrder rfl
  | cons node older hypothesis =>
    have rest : older <:+ whole := (List.suffix_cons node older).trans tail
    have above : ∀ id before, before.InOrder memory whole [] →
        Reads memory whole older (tokensAt memory older id) before
          ((feedAt older id).tokens memory) := fun _ _ inOrder => hypothesis rest inOrder
    have read := tokensRead_reads inOrder node above
    have objectsRead : ∀ before, before.InOrder memory whole [] →
        Reads memory whole older (objectParent node >>= objectsAt memory older) before
          (node.objectsRead (feedAt older) memory) := fun _ inOrder =>
      objectsRead_reads inOrder node fun _ _ inOrder => objectsAt_reads distinct rest inOrder
    unfold tokensAt
    by_cases same : node.id = id
    · rw [if_pos same]
      subst same
      have outside : node.id ∉ older.map Node.id := by
        have apart := (tail.sublist.map Node.id).nodup distinct
        rw [List.map_cons, List.nodup_cons] at apart
        exact apart.1
      have feed := feedAt_suffix distinct tail List.mem_cons_self
      have calls := @callsAt_suffix memory _ _ distinct tail _ List.mem_cons_self
      rw [feedAt_self] at feed ⊢
      rw [callsAt_self] at calls
      have stream := congrArg Feed.stream feed
      have answer := congrFun (congrArg Feed.tokens feed) memory
      rw [← answer]
      simp only [Node.feed, Node.tokensGiven, Node.callsGiven] at stream answer calls
      cases kind : node.kind with
      | adapter =>
        rw [kind] at stream answer calls
        have adapted := reads_bind (objectsRead before inOrder) fun objects _ _ kept =>
          reads_pure kept (objects.map Token.ofHeld)
        rw [bind_assoc] at adapted
        exact reads_tokensOnce inOrder outside stream answer calls fun _ => adapted.evaluates
      | join constraints =>
        rw [kind] at stream answer calls
        refine reads_tokensOnce inOrder outside stream ?_ calls fun unknown =>
          evaluates_tokensRead unknown outside read fun tokens mid kept free =>
            evaluates_objectsRead free outside (objectsRead mid kept) fun objects _ last apart =>
              evaluates_operate last apart (Operator.joinTokens constraints tokens objects)
        simp only [answer, Traced.outcome_bind, Traced.outcome_ofOutcome]
      | existential quantifier constraints =>
        rw [kind] at stream answer calls
        refine reads_tokensOnce inOrder outside stream ?_ calls fun unknown =>
          evaluates_tokensRead unknown outside read fun tokens mid kept free =>
            evaluates_objectsRead free outside (objectsRead mid kept) fun objects _ last apart =>
              evaluates_operate last apart
                (Operator.existentialTokens quantifier constraints tokens objects)
        simp only [answer, Traced.outcome_bind, Traced.outcome_ofOutcome]
      | accumulate source results functions =>
        rw [kind] at stream answer calls
        refine reads_tokensOnce inOrder outside stream ?_ calls fun unknown =>
          evaluates_tokensRead unknown outside read fun tokens mid kept free =>
            evaluates_objectsRead free outside (objectsRead mid kept) fun objects _ last apart =>
              evaluates_operate last apart
                (Operator.accumulateTokens source results functions tokens objects)
        simp only [answer, Traced.outcome_bind, Traced.outcome_ofOutcome]
      | invoker invocation args constraints =>
        rw [kind] at stream answer calls
        refine reads_tokensOnce inOrder outside stream ?_ calls fun unknown =>
          evaluates_tokensRead unknown outside read fun tokens _ kept free =>
            evaluates_operate kept free
              (Operator.invokerTokens invocation args constraints tokens)
        simp only [answer, Traced.outcome_bind, Traced.outcome_ofOutcome]
      | _ =>
        rw [kind] at answer
        rw [answer]
        exact reads_noTokens inOrder answer
    · rw [if_neg same, feedAt_older same]
      have found := above id before inOrder
      exact ⟨found.outcome, found.inOrder, (found.within node.id).own⟩

/-- Objects that were found are remembered. -/
theorem objectsAt_remembers {found : List Held}
    (ends : (result (objectsAt memory nodes id) before).1 = .ok found) :
    (result (objectsAt memory nodes id) before).2.objects.lookup id = some found := by
  induction nodes with
  | nil => cases ends
  | cons node older hypothesis =>
    unfold objectsAt at ends ⊢
    split at ends
    · rename_i same
      rw [if_pos same]
      rw [result_objectsOnce] at ends ⊢
      cases listed : before.objects.lookup id with
      | some known =>
        simp only [listed, Except.ok.injEq] at ends ⊢
        exact congrArg some ends
      | none =>
        simp only [listed] at ends ⊢
        split at ends
        · cases ends
          simp
        · cases ends
    · rename_i other
      rw [if_neg other]
      exact hypothesis ends

/-- Tokens that were found are remembered. -/
theorem tokensAt_remembers {found : List Token}
    (ends : (result (tokensAt memory nodes id) before).1 = .ok found) :
    (result (tokensAt memory nodes id) before).2.tokens.lookup id = some found := by
  induction nodes with
  | nil => cases ends
  | cons node older hypothesis =>
    unfold tokensAt at ends ⊢
    split at ends
    · rename_i same
      rw [if_pos same]
      rw [result_tokensOnce] at ends ⊢
      cases listed : before.tokens.lookup id with
      | some known =>
        simp only [listed, Except.ok.injEq] at ends ⊢
        exact congrArg some ends
      | none =>
        simp only [listed] at ends ⊢
        split at ends
        · cases ends
          simp
        · cases ends
    · rename_i other
      rw [if_neg other]
      exact hypothesis ends

end Evaluation

/-! ### Runs of queries -/

section

open EvaluatorState

variable {network : Network} {memory : WorkingMemory} {state : EvaluatorState}

/-- **The answer of a query**, a function of working memory alone. -/
def Query.given (network : Network) (memory : WorkingMemory) : Query → Answer
  | objects id => .objects ((feedAt network.nodes id).objects memory)
  | tokens id => .tokens ((feedAt network.nodes id).tokens memory)

/-- **One query**: the answer is given by working memory, the evaluator stays in order, what was
remembered stays remembered, and what was found is remembered. -/
theorem Query.ask_ends (distinct : (network.nodes.map Node.id).Nodup)
    (inOrder : state.InOrder memory network.nodes []) (query : Query) :
    (query.ask network memory state).1 = query.given network memory ∧
      (query.ask network memory state).2.InOrder memory network.nodes [] ∧
      (∀ id, state.Remembers id → (query.ask network memory state).2.Remembers id) ∧
      ((query.ask network memory state).1.succeeds = true →
        (query.ask network memory state).2.Remembers query.node) := by
  cases query with
  | objects id =>
    have read : Evaluation.Reads memory network.nodes network.nodes (network.objects memory id)
        state _ := Evaluation.objectsAt_reads distinct (List.suffix_refl _) inOrder
    refine ⟨congrArg Answer.objects read.outcome, read.inOrder, (read.within id).kept, ?_⟩
    intro succeeds
    simp only [ask] at succeeds ⊢
    cases ended : (result (network.objects memory id) state).1 with
    | ok found => exact .inl ⟨found, Evaluation.objectsAt_remembers ended⟩
    | error failure =>
      rw [ended] at succeeds
      cases succeeds
  | tokens id =>
    have read : Evaluation.Reads memory network.nodes network.nodes (network.tokens memory id)
        state _ := Evaluation.tokensAt_reads distinct (List.suffix_refl _) inOrder
    refine ⟨congrArg Answer.tokens read.outcome, read.inOrder, (read.within id).kept, ?_⟩
    intro succeeds
    simp only [ask] at succeeds ⊢
    cases ended : (result (network.tokens memory id) state).1 with
    | ok found => exact .inr ⟨found, Evaluation.tokensAt_remembers ended⟩
    | error failure =>
      rw [ended] at succeeds
      cases succeeds

/-- The answer succeeds if the node does. -/
theorem Query.succeeds_given {query : Query}
    (succeeds : (query.given network memory).succeeds = true) :
    (feedAt network.nodes query.node).Succeeds memory := by
  cases query with
  | objects id =>
    simp only [given, Answer.succeeds] at succeeds
    cases found : (feedAt network.nodes id).objects memory with
    | ok objects => exact .inl ⟨objects, found⟩
    | error failure => simp [found] at succeeds
  | tokens id =>
    simp only [given, Answer.succeeds] at succeeds
    cases found : (feedAt network.nodes id).tokens memory with
    | ok tokens => exact .inr ⟨tokens, found⟩
    | error failure => simp [found] at succeeds

/-- **A run of queries**, by induction on the queries: what one query keeps, all of them keep. -/
theorem Network.answers_ends (distinct : (network.nodes.map Node.id).Nodup)
    (inOrder : state.InOrder memory network.nodes []) (queries : List Query) :
    (network.answers memory queries state).1 = queries.map (Query.given network memory) ∧
      (network.answers memory queries state).2.InOrder memory network.nodes [] ∧
      (∀ id, state.Remembers id → (network.answers memory queries state).2.Remembers id) ∧
      ∀ query ∈ queries, (query.given network memory).succeeds = true →
        (network.answers memory queries state).2.Remembers query.node := by
  induction queries generalizing state with
  | nil => exact ⟨rfl, inOrder, fun _ known => known, fun _ listed => nomatch listed⟩
  | cons query rest hypothesis =>
    obtain ⟨answer, mid, kept, found⟩ := query.ask_ends distinct inOrder
    obtain ⟨answers, last, remains, others⟩ := hypothesis mid
    refine ⟨?_, last, fun id known => remains id (kept id known), fun other listed succeeds => ?_⟩
    · rw [List.map_cons, ← answer, ← answers]
      rfl
    · rcases List.mem_cons.mp listed with rfl | later
      · exact remains other.node (found (answer ▸ succeeds))
      · exact others other later succeeds

end

namespace KnowledgeBase

/-- **What an evaluator remembers cannot be seen from outside.** Over every network that rules were
compiled into, with or without failures, and in every run of queries over one evaluator:

* every query, also after others that failed, is answered as by a fresh evaluator;
* a node that was asked for with success is remembered, and of a remembered node no callback is run
  by any later query;
* the callbacks of a node whose evaluation succeeds, asked for or needed on the way to others, are
  run as one evaluation runs them, or not at all. -/
theorem Grown.answers_cached {config : BuildConfig} {factory : NodeFactory}
    {attempts : List (Rule × Outcome RuleHandle)} {kb : KnowledgeBase}
    (grown : Grown config factory attempts kb) (memory : WorkingMemory) (queries : List Query) :
    (kb.network.answers memory queries .fresh).1 =
        queries.map (fun query => (query.ask kb.network memory .fresh).1) ∧
      (∀ earlier later, queries = earlier ++ later →
        (∀ query ∈ earlier, (query.ask kb.network memory .fresh).1.succeeds = true →
          (kb.network.answers memory earlier .fresh).2.Remembers query.node) ∧
        ∀ id, (kb.network.answers memory earlier .fresh).2.Remembers id →
          (kb.network.answers memory queries .fresh).2.callsOf id =
            (kb.network.answers memory earlier .fresh).2.callsOf id) ∧
      ∀ query : Query, (query.ask kb.network memory .fresh).1.succeeds = true →
        (kb.network.answers memory queries .fresh).2.callsOf query.node = [] ∨
          (kb.network.answers memory queries .fresh).2.callsOf query.node =
            (query.ask kb.network memory .fresh).2.callsOf query.node := by
  have distinct : (kb.network.nodes.map Node.id).Nodup := grown.distinct
  have fresh := EvaluatorState.inOrder_fresh memory kb.network.nodes
  have alone : ∀ query : Query,
      (query.ask kb.network memory .fresh).1 = query.given kb.network memory := fun query =>
    (query.ask_ends distinct fresh).1
  obtain ⟨answers, last, _, _⟩ := Network.answers_ends distinct fresh queries
  refine ⟨?_, fun earlier later whole => ?_, fun query succeeds => ?_⟩
  · rw [answers]
    exact List.map_congr_left fun query _ => (alone query).symm
  · obtain ⟨_, mid, _, found⟩ := Network.answers_ends distinct fresh earlier
    refine ⟨fun query listed succeeds => found query listed (alone query ▸ succeeds),
      fun id known => ?_⟩
    have kept := (Network.answers_ends distinct mid later).2.2.1 id known
    rw [← Network.answers_append, ← whole] at kept
    rw [last.once id kept, mid.once id known]
  · obtain ⟨_, once, _, found⟩ := query.ask_ends distinct fresh
    rw [once.once query.node (found succeeds)]
    by_cases known : (kb.network.answers memory queries .fresh).2.Remembers query.node
    · exact .inr (last.once query.node known)
    · exact .inl (last.idle query.node List.not_mem_nil known
        (Query.succeeds_given (alone query ▸ succeeds)))

/-- The rules about every person and about two persons, which share nodes. -/
def personRules : KnowledgeBase :=
  (((KnowledgeBase.new default .standard).addRule everyPerson).after.addRule twoPersons).after

/-- A memory of two persons. -/
def coupleMemory : WorkingMemory :=
  let source := Source.entryPoint defaultEntryPoint
  ((WorkingMemory.empty.put source (Fact.named "Person").toValue).2.put source
    (Fact.named "Person").toValue).2

/-- The join of two persons is asked for, then a terminal, which gives nothing, and then the join
again: its four tests are made once. -/
theorem twoPersons_joined_once :
    let join := Query.tokens ⟨5⟩
    let terminal := Query.tokens ⟨3⟩
    let run := personRules.network.answers coupleMemory [join, terminal, join] .fresh
    run.1.map Answer.succeeds = [true, false, true] ∧ (run.2.callsOf ⟨5⟩).length = 4 := by
  intro join terminal run
  have grown : Grown default .standard _ personRules :=
    (Grown.new.addRule everyPerson).addRule twoPersons
  have first : (join.ask personRules.network coupleMemory .fresh).1.succeeds = true := by
    decide +kernel
  have other : (terminal.ask personRules.network coupleMemory .fresh).1.succeeds = false := by
    decide +kernel
  obtain ⟨answers, remembered, _⟩ :=
    grown.answers_cached coupleMemory [join, terminal, join]
  obtain ⟨known, kept⟩ := remembered [join] [terminal, join] rfl
  refine ⟨?_, ?_⟩
  · rw [answers]
    simp only [List.map_cons, List.map_nil, first, other]
  · rw [kept ⟨5⟩ (known join List.mem_cons_self first)]
    decide +kernel

end KnowledgeBase

end RuleNet
