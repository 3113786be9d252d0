/-
**Where a token can come up twice.**

Objects have handles of their own, so adapters and joins tell their tokens apart. Existential and
accumulate nodes make at most one token of one. Only an invoker can make the same token twice, if
its function returns a vector in which a value stands twice.

* `Traced.expand_nodup`: what is collected from distinct items is distinct, if it shows where it
  comes from;
* `nodup_join`, …, `nodup_invoker`: the operators;
* `Node.Doubles`: an invoker that makes a token twice;
* `tokens_nodup`: **a node gives distinct tokens, unless some invoker doubles**.
-/

import RuleNet.Proofs.Handles
import RuleNet.Proofs.Match.Feed

namespace RuleNet

/-! ### Collecting -/

/-- **What is collected from distinct items is distinct**, if every result shows its origin. -/
theorem Traced.expand_nodup {α β : Type} {step : α → Traced (List β)} {items : List α}
    {found : List β} (origin : β → α) (succeeds : (expand step items).outcome = .ok found)
    (distinct : items.Nodup)
    (each : ∀ item ∈ items, ∀ results, (step item).outcome = .ok results →
      results.Nodup ∧ ∀ result ∈ results, origin result = item) : found.Nodup := by
  induction items generalizing found with
  | nil =>
    cases succeeds
    exact List.nodup_nil
  | cons item rest hypothesis =>
    rw [expand_cons, outcome_bind] at succeeds
    obtain ⟨first, here, others⟩ := Outcome.bind_eq_ok.mp succeeds
    rw [outcome_map] at others
    obtain ⟨later, there, rfl⟩ := Outcome.map_eq_ok.mp others
    obtain ⟨unseen, distinct⟩ := List.nodup_cons.mp distinct
    have head := each item List.mem_cons_self first here
    have tail := hypothesis there distinct fun other member =>
      each other (List.mem_cons_of_mem _ member)
    rw [List.nodup_append]
    refine ⟨head.1, tail, fun result listed other member same => ?_⟩
    subst same
    obtain ⟨source, inside, results, answer, given⟩ := expand_ok_mem there member
    have one := (each source (List.mem_cons_of_mem _ inside) results answer).2 result given
    rw [head.2 result listed] at one
    exact unseen (one ▸ inside)

/-- A selection is a sublist. -/
theorem Traced.select_sublist {α : Type} {test : α → Traced Bool} {items kept : List α}
    (succeeds : (select test items).outcome = .ok kept) : kept.Sublist items := by
  rw [select_of_ok succeeds]
  exact List.filter_sublist

/-- What is made of one item, or not. -/
theorem Traced.nodup_guarded {β : Type} (passes : Bool) {result : β} {good : β → Prop}
    (holds : good result) :
    (if passes then [result] else []).Nodup ∧
      ∀ other ∈ if passes then [result] else [], good other := by
  cases passes with
  | false => exact ⟨List.nodup_nil, fun _ member => nomatch member⟩
  | true =>
    refine ⟨List.pairwise_singleton _ _, fun other member => ?_⟩
    rw [List.mem_singleton.mp member]
    exact holds

/-! ### Operators -/

namespace Operator

variable {tokens found : List Token} {objects : List Held}

theorem nodup_adapter (distinct : (objects.map Held.handle).Nodup) :
    (objects.map Token.ofHeld).Nodup := by
  refine List.pairwise_map.mpr ((List.pairwise_map.mp distinct).imp fun different same => ?_)
  exact different (List.cons.inj (congrArg Token.handles same)).1

/-- **Joined tokens are told apart by the last handle.** -/
theorem nodup_join {constraints : List BoundConstraint}
    (succeeds : (joinTokens constraints tokens objects).outcome = .ok found)
    (distinct : tokens.Nodup) (handles : (objects.map Held.handle).Nodup) : found.Nodup := by
  refine Traced.expand_nodup (fun token => ⟨token.values.dropLast, token.handles.dropLast⟩) succeeds
    distinct fun token _ results step => ?_
  simp only [Traced.outcome_bind] at step
  obtain ⟨kept, selected, answer⟩ := Outcome.bind_eq_ok.mp step
  cases answer
  have own := ((Traced.select_sublist selected).map Held.handle).nodup handles
  constructor
  · refine List.pairwise_map.mpr ((List.pairwise_map.mp own).imp fun different same => ?_)
    have last := congrArg (fun token => Token.handles token |>.getLast?) same
    simp only [Token.extend, Option.toList_some, List.getLast?_concat, Option.some.injEq] at last
    exact different last
  · intro result member
    obtain ⟨held, _, rfl⟩ := List.mem_map.mp member
    simp [Token.extend]

theorem nodup_existential {quantifier : Quantifier} {constraints : List BoundConstraint}
    (succeeds : (existentialTokens quantifier constraints tokens objects).outcome = .ok found)
    (distinct : tokens.Nodup) : found.Nodup := by
  refine Traced.expand_nodup (fun token => ⟨token.values.dropLast, token.handles⟩) succeeds distinct
    fun token _ results step => ?_
  simp only [Traced.outcome_bind] at step
  obtain ⟨some, _, answer⟩ := Outcome.bind_eq_ok.mp step
  cases answer
  exact Traced.nodup_guarded _ (by simp [Token.extend])

theorem nodup_accumulate {source results : List BoundConstraint} {functions : List PlacedAggregate}
    (succeeds : (accumulateTokens source results functions tokens objects).outcome = .ok found)
    (distinct : tokens.Nodup) : found.Nodup := by
  refine Traced.expand_nodup (fun token =>
      ⟨token.values.take (token.values.length - functions.length), token.handles⟩) succeeds distinct
    fun token _ widened step => ?_
  simp only [Traced.outcome_bind] at step
  obtain ⟨kept, _, step⟩ := Outcome.bind_eq_ok.mp step
  obtain ⟨folded, run, step⟩ := Outcome.bind_eq_ok.mp step
  obtain ⟨passes, _, answer⟩ := Outcome.bind_eq_ok.mp step
  cases answer
  rw [Traced.outcome_each] at run
  have length := (Outcome.mapM_ok_mem run).2
  exact Traced.nodup_guarded _ (by simp [length])

/-- **The function returns a vector, and among the items that meet the constraints with the token a
value stands twice.** -/
def Doubles (invocation : Invocation) (args : List Nat) (constraints : List BoundConstraint)
    (token : Token) : Prop :=
  invocation.iterable = true ∧ ∃ params items,
    invocationArguments invocation args token = .ok params ∧
    invocation.body params = .ok (.vec items) ∧
    ¬ (items.filter fun value => (meets constraints token value).holds).Nodup

/-- **The tokens of an invoker are told apart by the last value**, unless it stands twice in a
vector. -/
theorem nodup_invoker {invocation : Invocation} {args : List Nat}
    {constraints : List BoundConstraint}
    (succeeds : (invokerTokens invocation args constraints tokens).outcome = .ok found)
    (distinct : tokens.Nodup)
    (single : ∀ token ∈ tokens, ¬ Doubles invocation args constraints token) : found.Nodup := by
  refine Traced.expand_nodup (fun token => ⟨token.values.dropLast, token.handles⟩) succeeds distinct
    fun token member results step => ?_
  simp only [Traced.outcome_bind, Traced.outcome_ofOutcome] at step
  obtain ⟨params, read, step⟩ := Outcome.bind_eq_ok.mp step
  obtain ⟨result, called, step⟩ := Outcome.bind_eq_ok.mp step
  obtain ⟨values, promised, step⟩ := Outcome.bind_eq_ok.mp step
  obtain ⟨kept, selected, answer⟩ := Outcome.bind_eq_ok.mp step
  cases answer
  have own : kept.Nodup := by
    rw [Traced.select_of_ok selected]
    unfold candidates at promised
    by_cases iterable : invocation.iterable = true
    · rw [if_pos iterable] at promised
      split at promised
      · rename_i items
        cases promised
        refine Classical.byContradiction fun twice => ?_
        exact single token member ⟨iterable, params, _, read, called, twice⟩
      · cases promised
        exact List.nodup_nil
      · cases promised
    · rw [if_neg iterable] at promised
      cases promised
      exact List.filter_sublist.nodup (List.pairwise_singleton _ _)
  constructor
  · refine List.pairwise_map.mpr (own.imp fun different same => ?_)
    have last := congrArg (fun token => Token.values token |>.getLast?) same
    simp only [Token.extend, List.getLast?_concat, Option.some.injEq] at last
    exact different last
  · intro result listed
    obtain ⟨value, _, rfl⟩ := List.mem_map.mp listed
    simp [Token.extend]

end Operator

/-! ### Feeds -/

/-- **An invoker makes a token twice**: for some tuple that it reads, its function doubles. -/
def Node.Doubles (input : NodeId → Feed) (memory : WorkingMemory) (node : Node) : Prop :=
  ∃ invocation args constraints tokens, node.kind = .invoker invocation args constraints ∧
    node.tokensRead input memory = .ok tokens ∧
    ∃ token ∈ tokens, Operator.Doubles invocation args constraints token

section

variable {memory : WorkingMemory} {nodes : List Node} {id : NodeId}

/-- The objects of a node have distinct handles. -/
theorem objects_nodup (numbered : memory.Numbered) {objects : List Held}
    (found : (feedAt nodes id).objects memory = .ok objects) :
    (objects.map Held.handle).Nodup := by
  induction nodes generalizing id objects with
  | nil => cases found
  | cons node older hypothesis =>
    by_cases same : node.id = id
    · subst same
      rw [feedAt_self] at found
      simp only [Node.feed, Node.objectsGiven] at found
      have above : ∀ read, node.objectsRead (feedAt older) memory = .ok read →
          (read.map Held.handle).Nodup := by
        intro read given
        obtain ⟨parent, _, given⟩ := Outcome.bind_eq_ok.mp given
        exact hypothesis given
      cases kind : node.kind with
      | entryPoint name =>
        rw [kind] at found
        cases found
        exact numbered.objects _
      | stream name type =>
        rw [kind] at found
        cases found
        exact (List.filter_sublist.map Held.handle).nodup (numbered.objects _)
      | objectType type =>
        rw [kind] at found
        obtain ⟨read, given, answer⟩ := Outcome.bind_eq_ok.mp found
        cases answer
        exact (List.filter_sublist.map Held.handle).nodup (above read given)
      | alpha predicate arity =>
        rw [kind] at found
        obtain ⟨read, given, answer⟩ := Outcome.bind_eq_ok.mp found
        exact ((Traced.select_sublist answer).map Held.handle).nodup (above read given)
      | _ =>
        rw [kind] at found
        cases found
    · rw [feedAt_older same] at found
      exact hypothesis found

/-- **The tokens of a node are distinct**, unless some invoker doubles. -/
theorem tokens_nodup (numbered : memory.Numbered)
    (single : ∀ node older, (node :: older) <:+ nodes → ¬ node.Doubles (feedAt older) memory)
    {tokens : List Token} (found : (feedAt nodes id).tokens memory = .ok tokens) :
    tokens.Nodup := by
  induction nodes generalizing id tokens with
  | nil => cases found
  | cons node older hypothesis =>
    have earlier := fun other rest (tail : (other :: rest) <:+ older) =>
      single other rest (tail.trans (List.suffix_cons node older))
    by_cases same : node.id = id
    · subst same
      rw [feedAt_self] at found
      simp only [Node.feed] at found
      unfold Node.tokensGiven at found
      have above : ∀ read, node.tokensRead (feedAt older) memory = .ok read → read.Nodup := by
        intro read given
        obtain ⟨parent, _, given⟩ := Outcome.bind_eq_ok.mp given
        exact hypothesis earlier given
      have aside : ∀ read, node.objectsRead (feedAt older) memory = .ok read →
          (read.map Held.handle).Nodup := by
        intro read given
        obtain ⟨parent, _, given⟩ := Outcome.bind_eq_ok.mp given
        exact objects_nodup numbered given
      cases kind : node.kind with
      | adapter =>
        rw [kind] at found
        obtain ⟨objects, given, answer⟩ := Outcome.bind_eq_ok.mp found
        cases answer
        exact Operator.nodup_adapter (aside objects given)
      | join constraints =>
        rw [kind] at found
        obtain ⟨read, given, found⟩ := Outcome.bind_eq_ok.mp found
        obtain ⟨objects, held, found⟩ := Outcome.bind_eq_ok.mp found
        exact Operator.nodup_join found (above read given) (aside objects held)
      | existential quantifier constraints =>
        rw [kind] at found
        obtain ⟨read, given, found⟩ := Outcome.bind_eq_ok.mp found
        obtain ⟨objects, _, found⟩ := Outcome.bind_eq_ok.mp found
        exact Operator.nodup_existential found (above read given)
      | accumulate source results functions =>
        rw [kind] at found
        obtain ⟨read, given, found⟩ := Outcome.bind_eq_ok.mp found
        obtain ⟨objects, _, found⟩ := Outcome.bind_eq_ok.mp found
        exact Operator.nodup_accumulate found (above read given)
      | invoker invocation args constraints =>
        rw [kind] at found
        obtain ⟨read, given, found⟩ := Outcome.bind_eq_ok.mp found
        refine Operator.nodup_invoker found (above read given) fun token member doubles => ?_
        exact single node older (List.suffix_refl _)
          ⟨invocation, args, constraints, read, kind, given, token, member, doubles⟩
      | _ =>
        rw [kind] at found
        cases found
    · rw [feedAt_older same] at found
      exact hypothesis earlier found

/-- The same, with what the whole network gives. -/
theorem Network.Distinct.tokens_nodup {network : Network} (distinct : network.Distinct)
    (numbered : memory.Numbered)
    (single : ∀ node ∈ network.nodes, ¬ node.Doubles (feedAt network.nodes) memory)
    {tokens : List Token} (found : (feedAt network.nodes id).tokens memory = .ok tokens) :
    tokens.Nodup := by
  refine RuleNet.tokens_nodup numbered (fun node older tail doubles => ?_) found
  obtain ⟨invocation, args, constraints, read, kind, given, rest⟩ := doubles
  refine single node (tail.subset List.mem_cons_self)
    ⟨invocation, args, constraints, read, kind, ?_, rest⟩
  obtain ⟨parent, named, given⟩ := Outcome.bind_eq_ok.mp given
  obtain ⟨width, stream⟩ := stream_of_tokens given
  obtain ⟨above, inside, rfl⟩ := mem_of_stream stream
  have same := feedAt_suffix distinct ((List.suffix_cons node older).trans tail) inside
  simp only [Node.tokensRead, named, Outcome.ok_bind, same, given]

end

end RuleNet
