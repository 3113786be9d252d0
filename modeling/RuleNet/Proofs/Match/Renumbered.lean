/-
**Evaluation under other node ids.**

The evaluator looks nodes up by id, and remembers results and lists callbacks under ids. Over a
network with other ids it therefore runs the same callbacks in the same order, and finds the same
objects and tokens.

* `Renumbering.state`: what an evaluator knows, under other ids;
* `Evaluation.Renumbers`: **the first computation ends as the second one does**, up to ids, and so
  do the states they leave. Sequences of such computations correspond (`Renumbers.bind`);
* `objectsAt_renumbers`, `tokensAt_renumbers`: every node of a layered arena evaluates alike.
-/

import RuleNet.Proofs.Match.Feed
import RuleNet.Proofs.Network.Renumbering
import RuleNet.Proofs.Stateful

namespace RuleNet

open Stateful

namespace Renumbering

variable (numbers : Renumbering)

/-- **What an evaluator knows, and what it has done**, under other ids. -/
def state (state : EvaluatorState) : EvaluatorState where
  objects := state.objects.map fun entry => (numbers.nodeId entry.1, entry.2)
  tokens := state.tokens.map fun entry => (numbers.nodeId entry.1, entry.2)
  calls := state.calls.map fun entry => (numbers.nodeId entry.1, entry.2)

theorem lookup_map {α : Type} (known : List (NodeId × α)) (id : NodeId) :
    (known.map fun entry => (numbers.nodeId entry.1, entry.2)).lookup (numbers.nodeId id) =
      known.lookup id := by
  induction known with
  | nil => rfl
  | cons entry rest hypothesis =>
    rw [List.map_cons, List.lookup_cons, List.lookup_cons, hypothesis]
    by_cases same : id = entry.1
    · rw [same, beq_self_eq_true, beq_self_eq_true]
    · rw [beq_false_of_ne same, beq_false_of_ne fun equal => same (numbers.nodeId_injective equal)]

end Renumbering

namespace Evaluation

variable {numbers : Renumbering} {α β γ δ : Type}

/-- **The first computation ends as the second one does**: `view` turns the value of the second into
that of the first, the failures are the same, and so are the states up to ids. -/
def Renumbers (numbers : Renumbering) (view : β → α) (step : Evaluation α)
    (replay : Evaluation β) : Prop :=
  ∀ state, result step (numbers.state state) =
    ((result replay state).1.map view, numbers.state (result replay state).2)

namespace Renumbers

variable {view : β → α} {other : δ → γ} {step : Evaluation α} {replay : Evaluation β}

theorem pure (view : β → α) (value : β) :
    Renumbers numbers view (Pure.pure (view value)) (Pure.pure value) :=
  fun _ => rfl

theorem throw (failure : Failure) (view : β → α) :
    Renumbers numbers view (MonadExcept.throw failure) (MonadExcept.throw failure) :=
  fun _ => rfl

/-- **Sequences correspond.** -/
theorem bind {next : α → Evaluation γ} {more : β → Evaluation δ}
    (first : Renumbers numbers view step replay)
    (rest : ∀ value, Renumbers numbers other (next (view value)) (more value)) :
    Renumbers numbers other (step >>= next) (replay >>= more) := by
  intro state
  rw [result_bind, result_bind, first state]
  cases result replay state with
  | mk outcome after =>
    cases outcome with
    | ok value => exact rest value after
    | error failure => rfl

/-- The same for values that are the same. -/
theorem follow {next : β → Evaluation γ} {more : β → Evaluation δ} {again : Evaluation β}
    (first : Renumbers numbers id again replay)
    (rest : ∀ value, Renumbers numbers other (next value) (more value)) :
    Renumbers numbers other (again >>= next) (replay >>= more) :=
  first.bind rest

/-- A failure that is caught on both sides is handled on both sides. -/
theorem tryCatch {handle : Failure → Evaluation α} {caught : Failure → Evaluation β}
    (first : Renumbers numbers view step replay)
    (handles : ∀ failure, Renumbers numbers view (handle failure) (caught failure)) :
    Renumbers numbers view (MonadExcept.tryCatch step handle)
      (MonadExcept.tryCatch replay caught) := by
  intro state
  rw [result_tryCatch, result_tryCatch, first state]
  cases result replay state with
  | mk outcome after =>
    cases outcome with
    | ok value => rfl
    | error failure => exact handles failure after

end Renumbers

/-! ### Steps of the evaluator -/

/-- Running an operator lists its callbacks under the other id. -/
theorem operate_renumbers (node : NodeId) (traced : Traced α) :
    Renumbers numbers id (operate (numbers.nodeId node) traced) (operate node traced) := by
  intro state
  have recorded : (numbers.state state).calls ++ traced.calls.map (numbers.nodeId node, ·) =
      (state.calls ++ traced.calls.map (node, ·)).map fun entry =>
        (numbers.nodeId entry.1, entry.2) := by
    rw [List.map_append, List.map_map]
    rfl
  unfold operate
  rw [result_bind, result_bind, result_modify, result_modify]
  simp only [recorded]
  cases traced.outcome <;> rfl

/-- Objects that are computed once are remembered under the other id. -/
theorem objectsOnce_renumbers (node : NodeId) {compute again : Evaluation (List Held)}
    (computes : Renumbers numbers id again compute) :
    Renumbers numbers id (objectsOnce (numbers.nodeId node) again) (objectsOnce node compute) := by
  intro state
  have known : (numbers.state state).objects.lookup (numbers.nodeId node) =
      state.objects.lookup node := numbers.lookup_map _ _
  unfold objectsOnce
  rw [result_bind, result_bind, result_get, result_get]
  simp only [known]
  cases state.objects.lookup node with
  | some found => rfl
  | none => exact computes.follow (fun found state => rfl) state

/-- Tokens that are computed once are remembered under the other id. -/
theorem tokensOnce_renumbers (node : NodeId) {compute again : Evaluation (List Token)}
    (computes : Renumbers numbers id again compute) :
    Renumbers numbers id (tokensOnce (numbers.nodeId node) again) (tokensOnce node compute) := by
  intro state
  have known : (numbers.state state).tokens.lookup (numbers.nodeId node) =
      state.tokens.lookup node := numbers.lookup_map _ _
  unfold tokensOnce
  rw [result_bind, result_bind, result_get, result_get]
  simp only [known]
  cases state.tokens.lookup node with
  | some found => rfl
  | none => exact computes.follow (fun found state => rfl) state

/-! ### Nodes -/

section

variable {memory : WorkingMemory} {node : Node} {older nodes : List Node}

/-- **Reading the object parent**, which evaluates alike. -/
theorem objectsRead_renumbers {next more : List Held → Evaluation α}
    (fits : node.Fits fun parent => (feedAt older parent).stream)
    (reads : node.kind.readsObjects = true)
    (above : ∀ parent, (feedAt older parent).stream = some .objects →
      Renumbers numbers id (objectsAt memory (older.map numbers.node) (numbers.nodeId parent))
        (objectsAt memory older parent))
    (rest : ∀ objects, Renumbers numbers id (next objects) (more objects)) :
    Renumbers numbers id
      (objectParent (numbers.node node) >>= fun parent =>
        objectsAt memory (older.map numbers.node) parent >>= next)
      (objectParent node >>= fun parent => objectsAt memory older parent >>= more) := by
  obtain ⟨parent, named, given⟩ := fits.objectParent reads
  have other : (numbers.node node).objectParent = some (numbers.nodeId parent) := by
    simp only [Renumbering.node, named, Option.map_some]
  simp only [objectParent, named, other, pure_bind]
  exact (above parent given).follow rest

/-- **Reading the tuple parent**, which evaluates alike. -/
theorem tokensRead_renumbers {next more : List Token → Evaluation α}
    (fits : node.Fits fun parent => (feedAt older parent).stream)
    (reads : node.kind.readsTuples = true)
    (above : ∀ parent width, (feedAt older parent).stream = some (.tuples width) →
      Renumbers numbers id (tokensAt memory (older.map numbers.node) (numbers.nodeId parent))
        (tokensAt memory older parent))
    (rest : ∀ tokens, Renumbers numbers id (next tokens) (more tokens)) :
    Renumbers numbers id
      (tupleParent (numbers.node node) >>= fun parent =>
        tokensAt memory (older.map numbers.node) parent >>= next)
      (tupleParent node >>= fun parent => tokensAt memory older parent >>= more) := by
  obtain ⟨parent, width, named, given, _⟩ := fits.tupleParent reads
  have other : (numbers.node node).tupleParent = some (numbers.nodeId parent) := by
    simp only [Renumbering.node, named, Option.map_some]
  simp only [tupleParent, named, other, pure_bind]
  exact (above parent width given).follow rest

/-- **The objects of a node** of a layered arena evaluate alike. -/
theorem objectsAt_renumbers (layered : Layered nodes) {wanted : NodeId}
    (given : (feedAt nodes wanted).stream = some .objects) :
    Renumbers numbers id (objectsAt memory (nodes.map numbers.node) (numbers.nodeId wanted))
      (objectsAt memory nodes wanted) := by
  induction nodes generalizing wanted with
  | nil => cases given
  | cons node older hypothesis =>
    have above := fun parent => @hypothesis layered.2.2 parent
    unfold objectsAt
    by_cases same : node.id = wanted
    · subst same
      rw [feedAt_self] at given
      rw [List.map_cons]
      simp only [if_true, Renumbering.id_node, Renumbering.kind_node]
      refine objectsOnce_renumbers node.id ?_
      cases kind : node.kind with
      | entryPoint _ | stream _ _ => exact Renumbers.pure id _
      | objectType type =>
        exact objectsRead_renumbers layered.2.1 (by rw [kind]; rfl) above fun objects =>
          Renumbers.pure id _
      | alpha predicate arity =>
        exact objectsRead_renumbers layered.2.1 (by rw [kind]; rfl) above fun objects =>
          operate_renumbers _ _
      | _ => simp [Node.feed, kind, NodeKind.gives] at given
    · rw [feedAt_older same] at given
      rw [List.map_cons]
      simp only [Renumbering.id_node, Renumbering.nodeId_inj, if_neg same]
      exact above wanted given

/-- **The tokens of a node** of a layered arena evaluate alike. -/
theorem tokensAt_renumbers (layered : Layered nodes) {wanted : NodeId} {width : Nat}
    (given : (feedAt nodes wanted).stream = some (.tuples width)) :
    Renumbers numbers id (tokensAt memory (nodes.map numbers.node) (numbers.nodeId wanted))
      (tokensAt memory nodes wanted) := by
  induction nodes generalizing wanted width with
  | nil => cases given
  | cons node older hypothesis =>
    have above := fun parent width => @hypothesis layered.2.2 parent width
    have objects := fun parent =>
      @objectsAt_renumbers numbers memory older layered.2.2 parent
    unfold tokensAt
    by_cases same : node.id = wanted
    · subst same
      rw [feedAt_self] at given
      rw [List.map_cons]
      simp only [if_true, Renumbering.id_node, Renumbering.kind_node]
      refine tokensOnce_renumbers node.id ?_
      cases kind : node.kind with
      | adapter =>
        exact objectsRead_renumbers layered.2.1 (by rw [kind]; rfl) objects fun found =>
          Renumbers.pure id _
      | join _ | existential _ _ | accumulate _ _ _ =>
        exact tokensRead_renumbers layered.2.1 (by rw [kind]; rfl) above fun tokens =>
          objectsRead_renumbers layered.2.1 (by rw [kind]; rfl) objects fun found =>
            operate_renumbers _ _
      | invoker invocation args constraints =>
        exact tokensRead_renumbers layered.2.1 (by rw [kind]; rfl) above fun tokens =>
          operate_renumbers _ _
      | _ => simp [Node.feed, kind, NodeKind.gives] at given
    · rw [feedAt_older same] at given
      rw [List.map_cons]
      simp only [Renumbering.id_node, Renumbering.nodeId_inj, if_neg same]
      exact above wanted width given

end

end Evaluation

end RuleNet
