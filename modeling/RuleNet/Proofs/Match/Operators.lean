/-
**The operators on tuples of one width.**

* `width_join`, …, `width_invoker`: the width of what each operator returns;
* `arguments_eq`, `invocationArguments_eq`: places inside the tuple are read;
* `blames_join`, …, `blames_invoker`: **an operator whose places are inside its tuples fails only
  through its callbacks**.
-/

import RuleNet.Proofs.Callback.Blame
import RuleNet.Proofs.Match.Feed

namespace RuleNet

/-- Reading several places that are all there. -/
theorem Outcome.mapM_of_some {α β : Type} {step : α → Outcome β} {read : α → Option β}
    {items : List α}
    (present : ∀ item ∈ items, ∃ value, read item = some value ∧ step item = .ok value) :
    items.mapM step = .ok (items.filterMap read) := by
  induction items with
  | nil => rfl
  | cons item rest hypothesis =>
    obtain ⟨value, found, returned⟩ := present item List.mem_cons_self
    rw [List.mapM_cons, returned, List.filterMap_cons_some found,
      hypothesis fun later member => present later (List.mem_cons_of_mem _ member)]
    rfl

/-! ### Reading places -/

namespace BoundConstraint

variable {constraint : BoundConstraint} {constraints : List BoundConstraint} {tuple : List Value}

/-- **Places inside the tuple are read.** -/
theorem arguments_eq (within : constraint.Within tuple.length) (value : Value) :
    constraint.arguments tuple (some value) =
      .ok (constraint.slots.filterMap fun slot => slot.read tuple (some value)) := by
  refine Outcome.mapM_of_some fun slot member => ?_
  cases slot with
  | object => exact ⟨value, rfl, rfl⟩
  | tuple offset =>
    have inside := within offset member
    have found : Slot.read tuple (some value) (.tuple offset) = some tuple[offset] := by
      simp [Slot.read, inside]
    exact ⟨tuple[offset], found, by simp only [found]⟩

theorem evaluate_eq (within : constraint.Within tuple.length) (value : Value) :
    (constraint.evaluate tuple (some value)).outcome =
      (constraint.predicate.test
        (constraint.slots.filterMap fun slot => slot.read tuple (some value))).outcome := by
  simp only [evaluate, Traced.outcome_bind, Traced.outcome_ofOutcome, arguments_eq within]
  rfl

/-- The predicates of constraints. -/
def callbacks (constraints : List BoundConstraint) : List Callback :=
  constraints.map fun constraint => .predicate constraint.predicate

theorem blames_evaluate (within : constraint.Within tuple.length) (value : Value) :
    (constraint.evaluate tuple (some value)).Blames [.predicate constraint.predicate] :=
  Traced.blames_bind (Traced.blames_of_ok (arguments_eq within value))
    fun args _ => constraint.predicate.blames_test args

theorem blames_allHold (within : ∀ constraint ∈ constraints, constraint.Within tuple.length)
    (value : Value) : (allHold constraints tuple (some value)).Blames (callbacks constraints) := by
  refine Traced.blames_all fun constraint member => ?_
  refine (blames_evaluate (within constraint member) value).mono fun callback known => ?_
  rw [List.mem_singleton.mp known]
  exact List.mem_map_of_mem member

end BoundConstraint

namespace Operator

variable {constraints : List BoundConstraint} {tokens found : List Token} {objects : List Held}
  {width : Nat}

theorem invocationArguments_eq {invocation : Invocation} {args : List Nat} {token : Token}
    (within : ∀ offset ∈ args, offset < token.width) :
    invocationArguments invocation args token =
      .ok (args.filterMap fun offset => token.values[offset]?) := by
  refine Outcome.mapM_of_some fun offset member => ?_
  have inside : offset < token.values.length := within offset member
  have there : token.values[offset]? = some token.values[offset] := List.getElem?_eq_getElem inside
  exact ⟨token.values[offset], there, by simp only [there]⟩

/-! ### Widths -/

theorem width_join (run : (joinTokens constraints tokens objects).outcome = .ok found)
    (wide : ∀ token ∈ tokens, token.width = width) : ∀ token ∈ found, token.width = width + 1 := by
  intro extended member
  obtain ⟨token, given, results, step, listed⟩ := Traced.expand_ok_mem run member
  rw [Traced.outcome_bind] at step
  obtain ⟨matching, _, answer⟩ := Outcome.bind_eq_ok.mp step
  cases answer
  obtain ⟨held, _, rfl⟩ := List.mem_map.mp listed
  rw [Token.width_extend, wide token given]

theorem width_existential {quantifier : Quantifier}
    (run : (existentialTokens quantifier constraints tokens objects).outcome = .ok found)
    (wide : ∀ token ∈ tokens, token.width = width) : ∀ token ∈ found, token.width = width + 1 := by
  intro extended member
  obtain ⟨token, given, result, step, listed⟩ := Traced.expand_ok_mem run member
  rw [Traced.outcome_bind] at step
  obtain ⟨answer, _, passed⟩ := Outcome.bind_eq_ok.mp step
  have kept : result = [token.extend .nil none] ∨ result = [] := by
    cases passed
    cases quantifier <;> cases answer <;> simp
  rcases kept with rfl | rfl
  · rw [List.mem_singleton.mp listed, Token.width_extend, wide token given]
  · cases listed

theorem width_accumulate {source results : List BoundConstraint} {functions : List PlacedAggregate}
    (run : (accumulateTokens source results functions tokens objects).outcome = .ok found)
    (wide : ∀ token ∈ tokens, token.width = width) :
    ∀ token ∈ found, token.width = width + functions.length := by
  intro extended member
  obtain ⟨token, given, lists, step, listed⟩ := Traced.expand_ok_mem run member
  rw [Traced.outcome_bind] at step
  obtain ⟨matching, _, step⟩ := Outcome.bind_eq_ok.mp step
  rw [Traced.outcome_bind, Traced.outcome_each] at step
  obtain ⟨folded, mapped, step⟩ := Outcome.bind_eq_ok.mp step
  rw [Traced.outcome_bind] at step
  obtain ⟨passes, _, answer⟩ := Outcome.bind_eq_ok.mp step
  cases answer
  have long : folded.length = functions.length := (Outcome.mapM_ok_mem mapped).2
  split at listed
  · rw [List.mem_singleton.mp listed]
    show (token.values ++ folded).length = _
    rw [List.length_append, long]
    exact congrArg (· + functions.length) (wide token given)
  · cases listed

theorem width_invoker {invocation : Invocation} {args : List Nat}
    (run : (invokerTokens invocation args constraints tokens).outcome = .ok found)
    (wide : ∀ token ∈ tokens, token.width = width) : ∀ token ∈ found, token.width = width + 1 := by
  intro extended member
  obtain ⟨token, given, results, step, listed⟩ := Traced.expand_ok_mem run member
  simp only [Traced.outcome_bind] at step
  obtain ⟨params, _, step⟩ := Outcome.bind_eq_ok.mp step
  obtain ⟨result, _, step⟩ := Outcome.bind_eq_ok.mp step
  obtain ⟨values, _, step⟩ := Outcome.bind_eq_ok.mp step
  obtain ⟨matching, _, answer⟩ := Outcome.bind_eq_ok.mp step
  cases answer
  obtain ⟨value, _, rfl⟩ := List.mem_map.mp listed
  rw [Token.width_extend, wide token given]

/-! ### Failures -/

theorem blames_meets {token : Token} (within : ∀ constraint ∈ constraints, constraint.Within width)
    (wide : token.width = width) (value : Value) :
    (meets constraints token value).Blames (BoundConstraint.callbacks constraints) := by
  have same : token.values.length = width := wide
  exact BoundConstraint.blames_allHold (fun constraint member => same ▸ within constraint member)
    value

theorem blames_alpha (predicate : Predicate) (arity : Nat) (objects : List Held) :
    (alphaObjects predicate arity objects).Blames [.predicate predicate] :=
  Traced.blames_select fun _ _ => predicate.blames_test _

theorem blames_join (within : ∀ constraint ∈ constraints, constraint.Within width)
    (wide : ∀ token ∈ tokens, token.width = width) :
    (joinTokens constraints tokens objects).Blames (BoundConstraint.callbacks constraints) := by
  refine Traced.blames_expand fun token member => ?_
  refine Traced.blames_bind ?_ fun _ _ => Traced.blames_pure _
  exact Traced.blames_select fun held _ => blames_meets within (wide token member) held.value

theorem blames_existential {quantifier : Quantifier}
    (within : ∀ constraint ∈ constraints, constraint.Within width)
    (wide : ∀ token ∈ tokens, token.width = width) :
    (existentialTokens quantifier constraints tokens objects).Blames
      (BoundConstraint.callbacks constraints) := by
  refine Traced.blames_expand fun token member => ?_
  refine Traced.blames_bind ?_ fun _ _ => Traced.blames_pure _
  exact Traced.blames_any fun held _ => blames_meets within (wide token member) held.value

theorem blames_accumulate {source : List BoundConstraint} {functions : List PlacedAggregate}
    (within : ∀ constraint ∈ source, constraint.Within width)
    (wide : ∀ token ∈ tokens, token.width = width) :
    (accumulateTokens source [] functions tokens objects).Blames
      (BoundConstraint.callbacks source ++
        functions.map fun placed => .aggregate placed.function) := by
  refine Traced.blames_expand fun token member => ?_
  refine Traced.blames_bind ?_ fun matching _ => Traced.blames_bind ?_ fun folded _ =>
    Traced.blames_bind (Traced.blames_pure true) fun _ _ => Traced.blames_pure _
  · refine Traced.blames_select fun held _ => ?_
    exact (blames_meets within (wide token member) held.value).mono fun _ known =>
      List.mem_append_left _ known
  · refine Traced.blames_each fun placed listed => ?_
    refine (placed.function.blames_run _).mono fun callback known => ?_
    rw [List.mem_singleton.mp known]
    exact List.mem_append_right _ (List.mem_map_of_mem listed)

theorem blames_invoker {invocation : Invocation} {args : List Nat}
    (reads : ∀ offset ∈ args, offset < width)
    (within : ∀ constraint ∈ constraints, constraint.Within width)
    (wide : ∀ token ∈ tokens, token.width = width) :
    (invokerTokens invocation args constraints tokens).Blames
      (.invocation invocation :: BoundConstraint.callbacks constraints) := by
  refine Traced.blames_expand fun token member => ?_
  have inside : ∀ offset ∈ args, offset < token.width := fun offset listed =>
    wide token member ▸ reads offset listed
  refine Traced.blames_bind (Traced.blames_of_ok (invocationArguments_eq inside))
    fun params _ => ?_
  have own : ∀ callback ∈ [Callback.invocation invocation],
      callback ∈ .invocation invocation :: BoundConstraint.callbacks constraints :=
    fun callback known => List.mem_singleton.mp known ▸ List.mem_cons_self
  refine Traced.blames_bind ((invocation.blames_call params).mono own) fun result returned => ?_
  refine Traced.blames_bind ((Invocation.blames_candidates returned).mono own) fun values _ => ?_
  refine Traced.blames_bind (Traced.blames_select fun value _ => ?_) fun _ _ => Traced.blames_pure _
  exact (blames_meets within (wide token member) value).mono fun _ known =>
    List.mem_cons_of_mem _ known

end Operator

/-! ### Operators by kind -/

/-- What a node of a kind does with tokens and objects. -/
def NodeKind.operate (kind : NodeKind) (tokens : List Token) (objects : List Held) :
    Traced (List Token) :=
  match kind with
  | join constraints => Operator.joinTokens constraints tokens objects
  | existential quantifier constraints =>
    Operator.existentialTokens quantifier constraints tokens objects
  | accumulate source results functions =>
    Operator.accumulateTokens source results functions tokens objects
  | invoker invocation args constraints =>
    Operator.invokerTokens invocation args constraints tokens
  | _ => pure []

/-- **The tokens of a node that extends tuples**: its operator, run on what its parents give. -/
theorem Node.tokensGiven_eq {node : Node} (beta : node.kind.isBeta = true) (input : NodeId → Feed)
    (memory : WorkingMemory) :
    node.tokensGiven input memory =
      (node.tokensRead input memory >>= fun tokens =>
        (if node.kind.readsObjects then node.objectsRead input memory else .ok []) >>=
          fun objects => (node.kind.operate tokens objects).outcome) := by
  unfold Node.tokensGiven
  cases kind : node.kind with
  | join constraints => rfl
  | existential quantifier constraints => rfl
  | accumulate source results functions => rfl
  | invoker invocation args constraints => rfl
  | _ =>
    rw [kind] at beta
    cases beta

/-! ### Feeds -/

/-- The callbacks of a node. -/
def NodeKind.callbacks : NodeKind → List Callback
  | alpha test _ => [.predicate test]
  | join constraints | existential _ constraints => BoundConstraint.callbacks constraints
  | accumulate source results functions =>
    BoundConstraint.callbacks source ++ BoundConstraint.callbacks results ++
      functions.map fun placed => .aggregate placed.function
  | invoker function _ constraints =>
    .invocation function :: BoundConstraint.callbacks constraints
  | _ => []

/-- The tokens that a node reads have the width of its tuple parent. -/
theorem Node.Fits.tokensRead_width {node : Node} {input : NodeId → Feed} {memory : WorkingMemory}
    (fits : node.Fits fun id => (input id).stream) (reads : node.kind.readsTuples = true)
    (above : ∀ id width tokens, (input id).stream = some (.tuples width) →
      (input id).tokens memory = .ok tokens → ∀ token ∈ tokens, token.width = width)
    {tokens : List Token} (read : node.tokensRead input memory = .ok tokens) :
    node.kind.Within (node.widthRead input) ∧
      ∀ token ∈ tokens, token.width = node.widthRead input := by
  obtain ⟨parent, width, named, given, within⟩ := fits.tupleParent reads
  have wide : node.widthRead input = width := by
    simp only [Node.widthRead, named, Feed.width_of_stream given]
  simp only [Node.tokensRead, Node.needTuple, named] at read
  rw [wide]
  exact ⟨within, above parent width tokens given read⟩

/-- **Every token of a node has the width that the node gives.** -/
theorem Layered.tokens_width {nodes : List Node} (layered : Layered nodes) {id : NodeId}
    {width : Nat} {memory : WorkingMemory} {tokens : List Token}
    (given : (feedAt nodes id).stream = some (.tuples width))
    (found : (feedAt nodes id).tokens memory = .ok tokens) :
    ∀ token ∈ tokens, token.width = width := by
  induction nodes generalizing id width tokens with
  | nil => cases given
  | cons node older hypothesis =>
    by_cases same : node.id = id
    · subst same
      rw [feedAt_self] at given found
      have above : ∀ id width tokens, (feedAt older id).stream = some (.tuples width) →
          (feedAt older id).tokens memory = .ok tokens → ∀ token ∈ tokens, token.width = width :=
        fun _ _ _ given found => hypothesis layered.2.2 given found
      simp only [Node.feed] at given found
      unfold Node.tokensGiven at found
      cases kind : node.kind with
      | adapter =>
        simp only [kind, NodeKind.gives, Option.some.injEq, Stream.tuples.injEq] at given found
        obtain ⟨objects, _, answer⟩ := Outcome.bind_eq_ok.mp found
        cases answer
        intro token member
        obtain ⟨held, _, rfl⟩ := List.mem_map.mp member
        exact given
      | join constraints =>
        simp only [kind, NodeKind.gives, Option.some.injEq, Stream.tuples.injEq] at given found
        obtain ⟨read, here, found⟩ := Outcome.bind_eq_ok.mp found
        obtain ⟨objects, _, found⟩ := Outcome.bind_eq_ok.mp found
        have wide := layered.2.1.tokensRead_width (by rw [kind]; rfl) above here
        exact given ▸ Operator.width_join found wide.2
      | existential quantifier constraints =>
        simp only [kind, NodeKind.gives, Option.some.injEq, Stream.tuples.injEq] at given found
        obtain ⟨read, here, found⟩ := Outcome.bind_eq_ok.mp found
        obtain ⟨objects, _, found⟩ := Outcome.bind_eq_ok.mp found
        have wide := layered.2.1.tokensRead_width (by rw [kind]; rfl) above here
        exact given ▸ Operator.width_existential found wide.2
      | accumulate source results functions =>
        simp only [kind, NodeKind.gives, Option.some.injEq, Stream.tuples.injEq] at given found
        obtain ⟨read, here, found⟩ := Outcome.bind_eq_ok.mp found
        obtain ⟨objects, _, found⟩ := Outcome.bind_eq_ok.mp found
        have wide := layered.2.1.tokensRead_width (by rw [kind]; rfl) above here
        exact given ▸ Operator.width_accumulate found wide.2
      | invoker invocation args constraints =>
        simp only [kind, NodeKind.gives, Option.some.injEq, Stream.tuples.injEq] at given found
        obtain ⟨read, here, found⟩ := Outcome.bind_eq_ok.mp found
        have wide := layered.2.1.tokensRead_width (by rw [kind]; rfl) above here
        exact given ▸ Operator.width_invoker found wide.2
      | _ => simp [kind, NodeKind.gives] at given
    · rw [feedAt_older same] at given found
      exact hypothesis layered.2.2 given found

end RuleNet
