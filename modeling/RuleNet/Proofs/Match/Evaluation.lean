/-
**What the evaluator remembers is right, and only callbacks make it fail.**

* `EvaluatorState.Sound`: everything remembered is what the node gives;
* `Evaluation.Computes`: a step of an evaluator ends as a given outcome does, whatever was
  remembered before, and leaves a sound memory. If it fails in an arena where it must not fail by
  itself, the failure is that of a callback, and the call is on record;
* `objectsAt_computes`, `tokensAt_computes`: **evaluating a node computes its feed.**
-/

import RuleNet.Proofs.Match.Operators
import RuleNet.Proofs.Stateful

namespace RuleNet

open Stateful

/-- **Everything that is remembered is what the node gives.** -/
structure EvaluatorState.Sound (memory : WorkingMemory) (nodes : List Node)
    (state : EvaluatorState) : Prop where
  objects : ∀ id found, state.objects.lookup id = some found →
    (feedAt nodes id).objects memory = .ok found
  tokens : ∀ id found, state.tokens.lookup id = some found →
    (feedAt nodes id).tokens memory = .ok found

theorem EvaluatorState.sound_fresh (memory : WorkingMemory) (nodes : List Node) :
    fresh.Sound memory nodes := by
  constructor <;> intro id found listed <;> cases listed

namespace EvaluatorState.Sound

variable {memory : WorkingMemory} {nodes : List Node} {state : EvaluatorState} {id : NodeId}

/-- Remembering the objects of a node. -/
theorem objects_cons {found : List Held} (sound : state.Sound memory nodes)
    (answer : (feedAt nodes id).objects memory = .ok found) :
    ({ state with objects := (id, found) :: state.objects } : EvaluatorState).Sound memory
      nodes := by
  refine ⟨fun other listed remembered => ?_, sound.tokens⟩
  rw [List.lookup_cons] at remembered
  split at remembered
  · rename_i same
    cases remembered
    rw [eq_of_beq same]
    exact answer
  · exact sound.objects other listed remembered

/-- Remembering the tokens of a node. -/
theorem tokens_cons {found : List Token} (sound : state.Sound memory nodes)
    (answer : (feedAt nodes id).tokens memory = .ok found) :
    ({ state with tokens := (id, found) :: state.tokens } : EvaluatorState).Sound memory
      nodes := by
  refine ⟨sound.objects, fun other listed remembered => ?_⟩
  rw [List.lookup_cons] at remembered
  split at remembered
  · rename_i same
    cases remembered
    rw [eq_of_beq same]
    exact answer
  · exact sound.tokens other listed remembered

end EvaluatorState.Sound

/-- The failure is that of a callback of one of the nodes, wherever it is placed. -/
def Charged (nodes : List Node) (state : EvaluatorState) (failure : Failure) : Prop :=
  ∃ node ∈ nodes, ∃ cause : Failure, cause.fault = failure.fault ∧
    Blame node.kind.callbacks (state.calls.map Prod.snd) cause

namespace Evaluation

variable {memory : WorkingMemory} {whole : List Node} {state : EvaluatorState} {safe : Prop}
  {α β : Type}

/-- **The step ends as the outcome says**, and what it remembers is right. If it is `safe`, it fails
only through a callback. -/
def Computes (memory : WorkingMemory) (whole : List Node) (safe : Prop) (step : Evaluation α)
    (state : EvaluatorState) (outcome : Outcome α) : Prop :=
  Ensures step state (fun value after => outcome = .ok value ∧ after.Sound memory whole)
    fun failure after => outcome = .error failure ∧ after.Sound memory whole ∧
      (safe → Charged whole after failure)

theorem computes_pure (sound : state.Sound memory whole) (value : α) :
    Computes memory whole safe (pure value) state (.ok value) :=
  ⟨rfl, sound⟩

/-- A failure of the network's shape, where the shape is not promised. -/
theorem computes_malformed (sound : state.Sound memory whole) (what : Structural)
    (flawed : ¬ safe) :
    Computes memory whole safe (malformed what : Evaluation α) state what.fail :=
  ⟨rfl, sound, fun promised => absurd promised flawed⟩

theorem computes_bind {step : Evaluation α} {outcome : Outcome α} {next : α → Evaluation β}
    {onward : α → Outcome β} {first : Prop} (head : Computes memory whole first step state outcome)
    (implied : safe → first)
    (tail : ∀ value after, outcome = .ok value → after.Sound memory whole →
      Computes memory whole safe (next value) after (onward value)) :
    Computes memory whole safe (step >>= next) state (outcome >>= onward) := by
  refine (ensures_bind step next).mpr (head.mono (fun value after ended => ?_)
    fun failure after ended => ?_)
  · obtain ⟨rfl, sound⟩ := ended
    exact tail value after rfl sound
  · obtain ⟨rfl, sound, charged⟩ := ended
    exact ⟨rfl, sound, fun promised => charged (implied promised)⟩

/-- Running an operator for a node. -/
theorem computes_operate (sound : state.Sound memory whole) {node : Node} (member : node ∈ whole)
    {traced : Traced α} (blames : safe → traced.Blames node.kind.callbacks) :
    Computes memory whole safe (operate node.id traced) state traced.outcome := by
  unfold operate Computes
  simp only [ensures_bind, ensures_modify]
  split
  · rename_i value ended
    exact ⟨ended, { sound with }⟩
  · rename_i failure ended
    refine ⟨ended, { sound with }, fun promised => ⟨node, member, failure, rfl, ?_⟩⟩
    refine (blames promised failure ended).mono (fun _ known => known) fun call made => ?_
    rw [List.map_append, List.map_map]
    exact List.mem_append_right _ (List.mem_map.mpr ⟨call, made, rfl⟩)

/-- Objects that are computed once. -/
theorem computes_objectsOnce (sound : state.Sound memory whole) {id : NodeId}
    {compute : Evaluation (List Held)}
    (computes : Computes memory whole safe compute state ((feedAt whole id).objects memory)) :
    Computes memory whole safe (objectsOnce id compute) state
      ((feedAt whole id).objects memory) := by
  unfold objectsOnce Computes
  simp only [ensures_bind, ensures_get]
  split
  · rename_i known remembered
    exact ⟨sound.objects id known remembered, sound⟩
  · simp only [ensures_bind, ensures_modify]
    refine computes.mono (fun found after ended => ?_) fun _ _ ended => ended
    obtain ⟨answer, kept⟩ := ended
    exact ⟨answer, kept.objects_cons answer⟩

/-- Tokens that are computed once. -/
theorem computes_tokensOnce (sound : state.Sound memory whole) {id : NodeId}
    {compute : Evaluation (List Token)}
    (computes : Computes memory whole safe compute state ((feedAt whole id).tokens memory)) :
    Computes memory whole safe (tokensOnce id compute) state
      ((feedAt whole id).tokens memory) := by
  unfold tokensOnce Computes
  simp only [ensures_bind, ensures_get]
  split
  · rename_i known remembered
    exact ⟨sound.tokens id known remembered, sound⟩
  · simp only [ensures_bind, ensures_modify]
    refine computes.mono (fun found after ended => ?_) fun _ _ ended => ended
    obtain ⟨answer, kept⟩ := ended
    exact ⟨answer, kept.tokens_cons answer⟩

/-! ### Parents -/

section

variable {node : Node} {older : List Node}

theorem computes_objectParent (sound : state.Sound memory whole)
    (named : safe → ∃ parent, node.objectParent = some parent) :
    Computes memory whole safe (objectParent node) state node.needObject := by
  unfold objectParent Node.needObject
  cases known : node.objectParent with
  | some parent => exact computes_pure sound parent
  | none =>
    refine computes_malformed sound _ fun promised => ?_
    obtain ⟨parent, named⟩ := named promised
    rw [known] at named
    cases named

theorem computes_tupleParent (sound : state.Sound memory whole)
    (named : safe → ∃ parent, node.tupleParent = some parent) :
    Computes memory whole safe (tupleParent node) state node.needTuple := by
  unfold tupleParent Node.needTuple
  cases known : node.tupleParent with
  | some parent => exact computes_pure sound parent
  | none =>
    refine computes_malformed sound _ fun promised => ?_
    obtain ⟨parent, named⟩ := named promised
    rw [known] at named
    cases named

/-- **Reading the object parent**, whose feed is computed. -/
theorem computes_objectsRead (sound : state.Sound memory whole)
    (above : ∀ id state, state.Sound memory whole →
      Computes memory whole (Layered older ∧ (feedAt older id).stream = some .objects)
        (objectsAt memory older id) state ((feedAt older id).objects memory))
    (promised : safe → Layered (node :: older) ∧ node.kind.readsObjects = true)
    {next : List Held → Evaluation α} {onward : List Held → Outcome α}
    (tail : ∀ objects after, after.Sound memory whole →
      Computes memory whole safe (next objects) after (onward objects)) :
    Computes memory whole safe (objectParent node >>= fun parent =>
        objectsAt memory older parent >>= next) state
      (node.objectsRead (feedAt older) memory >>= onward) := by
  have parents : safe → ∃ parent, node.objectParent = some parent ∧
      (feedAt older parent).stream = some .objects := fun safe =>
    (promised safe).1.2.1.objectParent (promised safe).2
  rw [Node.objectsRead, bind_assoc]
  refine computes_bind (computes_objectParent sound fun safe => ?_) id
    fun parent after named kept => ?_
  · obtain ⟨parent, named, _⟩ := parents safe
    exact ⟨parent, named⟩
  · refine computes_bind (above parent after kept) (fun safe => ?_) fun objects last _ sound =>
      tail objects last sound
    obtain ⟨known, same, given⟩ := parents safe
    simp only [Node.needObject, same, Except.ok.injEq] at named
    exact ⟨(promised safe).1.2.2, named ▸ given⟩

/-- **Reading the tuple parent**, whose feed is computed. -/
theorem computes_tokensRead (sound : state.Sound memory whole)
    (above : ∀ id state, state.Sound memory whole →
      Computes memory whole
        (Layered older ∧ ∃ width, (feedAt older id).stream = some (.tuples width))
        (tokensAt memory older id) state ((feedAt older id).tokens memory))
    (promised : safe → Layered (node :: older) ∧ node.kind.readsTuples = true)
    {next : List Token → Evaluation α} {onward : List Token → Outcome α}
    (tail : ∀ tokens after, after.Sound memory whole →
      (safe → node.kind.Within (node.widthRead (feedAt older)) ∧
        ∀ token ∈ tokens, token.width = node.widthRead (feedAt older)) →
      Computes memory whole safe (next tokens) after (onward tokens)) :
    Computes memory whole safe (tupleParent node >>= fun parent =>
        tokensAt memory older parent >>= next) state
      (node.tokensRead (feedAt older) memory >>= onward) := by
  have parents : safe → ∃ parent width, node.tupleParent = some parent ∧
      (feedAt older parent).stream = some (.tuples width) := fun safe => by
    obtain ⟨parent, width, named, given, _⟩ := (promised safe).1.2.1.tupleParent (promised safe).2
    exact ⟨parent, width, named, given⟩
  rw [Node.tokensRead, bind_assoc]
  refine computes_bind (computes_tupleParent sound fun safe => ?_) id
    fun parent after named kept => ?_
  · obtain ⟨parent, _, named, _⟩ := parents safe
    exact ⟨parent, named⟩
  · refine computes_bind (above parent after kept) (fun safe => ?_) fun tokens last found sound =>
      tail tokens last sound fun safe => ?_
    · obtain ⟨known, width, same, given⟩ := parents safe
      simp only [Node.needTuple, same, Except.ok.injEq] at named
      exact ⟨(promised safe).1.2.2, width, named ▸ given⟩
    · have read : node.tokensRead (feedAt older) memory = .ok tokens := by
        simp only [Node.tokensRead, named]
        exact found
      exact (promised safe).1.2.1.tokensRead_width (promised safe).2
        (fun _ _ _ given found => (promised safe).1.2.2.tokens_width given found) read

end

/-! ### Nodes -/

variable {nodes : List Node} {id : NodeId}

/-- **Evaluating the objects of a node computes its feed.** In a layered arena, where the node gives
objects, only a callback makes it fail. -/
theorem objectsAt_computes (distinct : (whole.map Node.id).Nodup) (tail : nodes <:+ whole)
    (sound : state.Sound memory whole) :
    Computes memory whole (Layered nodes ∧ (feedAt nodes id).stream = some .objects)
      (objectsAt memory nodes id) state ((feedAt nodes id).objects memory) := by
  induction nodes generalizing id state with
  | nil => exact computes_malformed sound _ fun promised => by cases promised.2
  | cons node older hypothesis =>
    have rest : older <:+ whole := (List.suffix_cons node older).trans tail
    have above : ∀ id state, state.Sound memory whole →
        Computes memory whole (Layered older ∧ (feedAt older id).stream = some .objects)
          (objectsAt memory older id) state ((feedAt older id).objects memory) :=
      fun _ _ sound => hypothesis rest sound
    have member : node ∈ whole := tail.subset List.mem_cons_self
    unfold objectsAt
    by_cases same : node.id = id
    · rw [if_pos same]
      subst same
      have feed := feedAt_suffix distinct tail List.mem_cons_self
      rw [← feed]
      refine computes_objectsOnce sound ?_
      rw [feed, feedAt_self]
      simp only [Node.feed, Node.objectsGiven]
      cases kind : node.kind with
      | entryPoint name => exact computes_pure sound _
      | stream name type => exact computes_pure sound _
      | objectType type =>
        refine computes_objectsRead sound above (fun safe => ⟨safe.1, by rw [kind]; rfl⟩) ?_
        exact fun objects after kept => computes_pure kept _
      | alpha predicate arity =>
        refine computes_objectsRead sound above (fun safe => ⟨safe.1, by rw [kind]; rfl⟩) ?_
        intro objects after kept
        refine computes_operate kept member fun _ => ?_
        rw [kind]
        exact Operator.blames_alpha predicate arity objects
      | _ =>
        refine computes_malformed sound _ fun safe => ?_
        simp [NodeKind.gives] at safe
    · rw [if_neg same, feedAt_older same]
      refine (above id state sound).mono (fun _ _ ended => ended) fun failure after ended => ?_
      exact ⟨ended.1, ended.2.1, fun safe => ended.2.2 ⟨safe.1.2.2, safe.2⟩⟩

/-- **Evaluating the tokens of a node computes its feed.** In a layered arena, where the node gives
tuples, only a callback makes it fail. -/
theorem tokensAt_computes (distinct : (whole.map Node.id).Nodup) (tail : nodes <:+ whole)
    (sound : state.Sound memory whole) :
    Computes memory whole (Layered nodes ∧ ∃ width, (feedAt nodes id).stream = some (.tuples width))
      (tokensAt memory nodes id) state ((feedAt nodes id).tokens memory) := by
  induction nodes generalizing id state with
  | nil =>
    refine computes_malformed sound _ fun promised => ?_
    obtain ⟨_, _, given⟩ := promised
    cases given
  | cons node older hypothesis =>
    have rest : older <:+ whole := (List.suffix_cons node older).trans tail
    have above : ∀ id state, state.Sound memory whole →
        Computes memory whole
          (Layered older ∧ ∃ width, (feedAt older id).stream = some (.tuples width))
          (tokensAt memory older id) state ((feedAt older id).tokens memory) :=
      fun _ _ sound => hypothesis rest sound
    have objects : ∀ id state, state.Sound memory whole →
        Computes memory whole (Layered older ∧ (feedAt older id).stream = some .objects)
          (objectsAt memory older id) state ((feedAt older id).objects memory) :=
      fun _ _ sound => objectsAt_computes distinct rest sound
    have member : node ∈ whole := tail.subset List.mem_cons_self
    unfold tokensAt
    by_cases same : node.id = id
    · rw [if_pos same]
      subst same
      have feed := feedAt_suffix distinct tail List.mem_cons_self
      rw [← feed]
      refine computes_tokensOnce sound ?_
      rw [feed, feedAt_self]
      simp only [Node.feed, Node.tokensGiven]
      cases kind : node.kind with
      | adapter =>
        refine computes_objectsRead sound objects (fun safe => ⟨safe.1, by rw [kind]; rfl⟩) ?_
        exact fun objects after kept => computes_pure kept _
      | join constraints =>
        refine computes_tokensRead sound above (fun safe => ⟨safe.1, by rw [kind]; rfl⟩) ?_
        intro tokens mid kept wide
        refine computes_objectsRead kept objects (fun safe => ⟨safe.1, by rw [kind]; rfl⟩) ?_
        intro objects after sound
        refine computes_operate sound member fun safe => ?_
        rw [kind] at wide ⊢
        exact Operator.blames_join (wide safe).1 (wide safe).2
      | existential quantifier constraints =>
        refine computes_tokensRead sound above (fun safe => ⟨safe.1, by rw [kind]; rfl⟩) ?_
        intro tokens mid kept wide
        refine computes_objectsRead kept objects (fun safe => ⟨safe.1, by rw [kind]; rfl⟩) ?_
        intro objects after sound
        refine computes_operate sound member fun safe => ?_
        rw [kind] at wide ⊢
        exact Operator.blames_existential (wide safe).1 (wide safe).2
      | accumulate source results functions =>
        refine computes_tokensRead sound above (fun safe => ⟨safe.1, by rw [kind]; rfl⟩) ?_
        intro tokens mid kept wide
        refine computes_objectsRead kept objects (fun safe => ⟨safe.1, by rw [kind]; rfl⟩) ?_
        intro objects after sound
        refine computes_operate sound member fun safe => ?_
        rw [kind] at wide ⊢
        obtain ⟨⟨within, rfl, _⟩, widths⟩ := wide safe
        simpa [NodeKind.callbacks, BoundConstraint.callbacks] using
          Operator.blames_accumulate within widths
      | invoker invocation args constraints =>
        refine computes_tokensRead sound above (fun safe => ⟨safe.1, by rw [kind]; rfl⟩) ?_
        intro tokens after sound wide
        refine computes_operate sound member fun safe => ?_
        rw [kind] at wide ⊢
        exact Operator.blames_invoker (wide safe).1.1 (wide safe).1.2 (wide safe).2
      | _ =>
        refine computes_malformed sound _ fun safe => ?_
        simp [NodeKind.gives] at safe
    · rw [if_neg same, feedAt_older same]
      refine (above id state sound).mono (fun _ _ ended => ended) fun failure after ended => ?_
      exact ⟨ended.1, ended.2.1, fun safe => ended.2.2 ⟨safe.1.2.2, safe.2⟩⟩

/-- The outcome is the one that the step computes. -/
theorem Computes.outcome {step : Evaluation α} {outcome : Outcome α}
    (computes : Computes memory whole safe step state outcome) :
    (result step state).1 = outcome := by
  cases ended : (result step state).1 with
  | ok value => exact (computes.of_ok ended).1.symm
  | error failure => exact (computes.of_error ended).1.symm

theorem Computes.sound {step : Evaluation α} {outcome : Outcome α}
    (computes : Computes memory whole safe step state outcome) :
    (result step state).2.Sound memory whole :=
  (computes.mono (fun _ _ ended => ended.2) fun _ _ ended => ended.2.1).either

/-- **The evaluators that can be reached** over a network and a memory: some nodes were evaluated
before, with or without success. -/
inductive Reached (network : Network) (memory : WorkingMemory) : EvaluatorState → Prop
  | fresh : Reached network memory .fresh
  | objects {state : EvaluatorState} (before : Reached network memory state) (id : NodeId) :
      Reached network memory (result (network.objects memory id) state).2
  | tokens {state : EvaluatorState} (before : Reached network memory state) (id : NodeId) :
      Reached network memory (result (network.tokens memory id) state).2

/-- Whatever was evaluated before, what is remembered is right. -/
theorem Reached.sound {network : Network} (distinct : (network.nodes.map Node.id).Nodup)
    (reached : Reached network memory state) : state.Sound memory network.nodes := by
  induction reached with
  | fresh => exact EvaluatorState.sound_fresh memory network.nodes
  | objects _ id hypothesis =>
    exact (objectsAt_computes distinct (List.suffix_refl _) hypothesis).sound
  | tokens _ id hypothesis =>
    exact (tokensAt_computes distinct (List.suffix_refl _) hypothesis).sound

/-- **What was evaluated before does not matter**: the tokens of a node are its feed. -/
theorem Reached.tokens_eq {network : Network} (distinct : (network.nodes.map Node.id).Nodup)
    (reached : Reached network memory state) (id : NodeId) :
    (result (network.tokens memory id) state).1 = (feedAt network.nodes id).tokens memory :=
  (tokensAt_computes distinct (List.suffix_refl _) (reached.sound distinct)).outcome

end Evaluation

end RuleNet
