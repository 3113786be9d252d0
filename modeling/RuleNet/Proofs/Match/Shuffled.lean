/-
**What nodes give does not depend on the order of the objects.**

Working memory can hold the same objects in another order. As long as callbacks answer, every object
node then gives the same objects in some order, and so does every tuple node with no fold above it:
a join pairs the same tokens with the same objects, and a search finds an object or finds none.

* `WorkingMemory.Shuffled`, `Outcome.Shuffled`: the same up to order;
* `Predicate.Answers`, `Invocation.Answers`, `NodeKind.Answers`: callbacks that never fail, for the
  numbers of arguments that they are given;
* `operate_shuffled`: **what a tuple node does to tokens and objects**;
* `Network.Answers`: no callback above a node fails, and then `Answers.objects_shuffled`;
* `Network.Unfolded`: a node with no fold above it;
* `Unfolded.tokens_shuffled`: **the tokens of such a node**.
-/

import Mathlib.Data.List.Perm.Basic
import RuleNet.Proofs.Match.Operators

namespace RuleNet

/-! ### The same up to order -/

/-- **The same objects under the same handles**, in every source in some order. -/
def WorkingMemory.Shuffled (memory other : WorkingMemory) : Prop :=
  ∀ source, (memory.objects source).Perm (other.objects source)

/-- **Both succeed**, with the same items in some order. -/
def Outcome.Shuffled {α : Type} (first second : Outcome (List α)) : Prop :=
  ∃ found again, first = .ok found ∧ second = .ok again ∧ found.Perm again

section

variable {α β : Type} {first second : Outcome (List α)}

theorem Outcome.Shuffled.ok {found again : List α} (shuffled : found.Perm again) :
    Outcome.Shuffled (.ok found) (.ok again) :=
  ⟨found, again, rfl, rfl, shuffled⟩

theorem Outcome.Shuffled.bind {next more : List α → Outcome (List β)}
    (shuffled : first.Shuffled second)
    (rest : ∀ found again, first = .ok found → second = .ok again → found.Perm again →
      (next found).Shuffled (more again)) : (first >>= next).Shuffled (second >>= more) := by
  obtain ⟨found, again, rfl, rfl, same⟩ := shuffled
  exact rest found again rfl rfl same

namespace Traced

/-- A test that answers passes or does not. -/
theorem outcome_holds {test : Traced Bool} (answers : ∃ passed, test.outcome = .ok passed) :
    test.outcome = .ok test.holds := by
  obtain ⟨passed, ran⟩ := answers
  rw [ran, holds_of_ok ran]

/-- **A selection keeps the same items**, in the order in which they come. -/
theorem select_shuffled {test : α → Traced Bool} {items others : List α}
    (answers : ∀ item, ∃ passed, (test item).outcome = .ok passed) (same : items.Perm others) :
    (select test items).outcome.Shuffled (select test others).outcome := by
  have decides := fun items => outcome_select_of_ok test (fun item => (test item).holds) items
    fun item _ => outcome_holds (answers item)
  rw [decides, decides]
  exact .ok (same.filter _)

/-- **A search does not depend on the order.** -/
theorem any_shuffled {test : α → Traced Bool} {items others : List α}
    (answers : ∀ item, ∃ passed, (test item).outcome = .ok passed) (same : items.Perm others) :
    ∃ passed, (any test items).outcome = .ok passed ∧ (any test others).outcome = .ok passed := by
  have decides := fun items => outcome_any_of_ok test (fun item => (test item).holds) items
    fun item _ => outcome_holds (answers item)
  refine ⟨items.any fun item => (test item).holds, decides items, ?_⟩
  rw [decides, same.any_eq]

/-- What a step returns, if it succeeds. -/
def returned (step : Traced (List β)) : List β :=
  step.outcome.toOption.getD []

/-- A loop whose steps succeed joins what they return. -/
theorem outcome_expand_of_ok {step : α → Traced (List β)} {items : List α}
    (succeeds : ∀ item ∈ items, ∃ found, (step item).outcome = .ok found) :
    (expand step items).outcome = .ok (items.flatMap fun item => (step item).returned) := by
  have each : ∀ item ∈ items, (step item).outcome = .ok (step item).returned := by
    intro item member
    obtain ⟨found, ran⟩ := succeeds item member
    rw [returned, ran]
    rfl
  rw [outcome_expand, Outcome.mapM_eq_ok_map each]
  rfl

/-- **A loop over the same items collects the same**, if each item gives the same. -/
theorem expand_shuffled {step other : α → Traced (List β)} {items others : List α}
    (same : items.Perm others)
    (each : ∀ item ∈ items, (step item).outcome.Shuffled (other item).outcome) :
    (expand step items).outcome.Shuffled (expand other others).outcome := by
  rw [outcome_expand_of_ok fun item member => ?first,
    outcome_expand_of_ok fun item member => ?second]
  case first =>
    obtain ⟨found, _, ran, _⟩ := each item member
    exact ⟨found, ran⟩
  case second =>
    obtain ⟨_, again, _, ran, _⟩ := each item (same.mem_iff.mpr member)
    exact ⟨again, ran⟩
  refine .ok (same.flatMap fun item member => ?_)
  obtain ⟨found, again, here, there, shuffled⟩ := each item member
  simp only [returned, here, there]
  exact shuffled

end Traced

end

/-! ### Callbacks that answer -/

/-- **The predicate never fails** when it is given so many arguments. -/
def Predicate.Answers (predicate : Predicate) (count : Nat) : Prop :=
  ∀ args, args.length = count → ∃ passed, (predicate.test args).outcome = .ok passed

/-- **The invocation never fails** when it is given so many arguments, and what it returns stands
for values: an iterable one returns a vector or nil. -/
def Invocation.Answers (invocation : Invocation) (count : Nat) : Prop :=
  ∀ args, args.length = count → ∃ result values, (invocation.call args).outcome = .ok result ∧
    Operator.candidates invocation result = .ok values

/-- The predicate answers for as many arguments as the constraint has places. -/
def BoundConstraint.Answers (constraint : BoundConstraint) : Prop :=
  constraint.predicate.Answers constraint.slots.length

/-- **The tests and the function of a node never fail.** Folds are not asked about. -/
def NodeKind.Answers : NodeKind → Prop
  | alpha predicate arity => predicate.Answers arity
  | join constraints | existential _ constraints => ∀ constraint ∈ constraints, constraint.Answers
  | invoker invocation args constraints =>
    invocation.Answers args.length ∧ ∀ constraint ∈ constraints, constraint.Answers
  | _ => True

namespace Operator

variable {constraints : List BoundConstraint} {token : Token} {width : Nat}

/-- **Constraints that read places of the token answer for every value.** -/
theorem meets_answers (answers : ∀ constraint ∈ constraints, constraint.Answers)
    (within : ∀ constraint ∈ constraints, constraint.Within width) (wide : token.width = width)
    (value : Value) : ∃ passed, (meets constraints token value).outcome = .ok passed := by
  unfold meets BoundConstraint.allHold
  induction constraints with
  | nil => exact ⟨true, rfl⟩
  | cons constraint rest hypothesis =>
    obtain ⟨later, ran⟩ := hypothesis
      (fun other member => answers other (List.mem_cons_of_mem _ member)) fun other member => within other (List.mem_cons_of_mem _ member)
    have inside : constraint.Within token.values.length :=
      (show token.values.length = width from wide) ▸ within constraint List.mem_cons_self
    have read := BoundConstraint.arguments_eq inside value
    obtain ⟨passed, tested⟩ :=
      answers constraint List.mem_cons_self _ (Outcome.mapM_ok_mem read).2
    rw [Traced.all_cons, Traced.outcome_bind, BoundConstraint.evaluate_eq inside, tested]
    cases passed
    · exact ⟨false, rfl⟩
    · exact ⟨later, ran⟩

/-- **An invocation whose arguments are places of the token** returns values to go through. -/
theorem candidates_answers {invocation : Invocation} {args : List Nat}
    (answers : invocation.Answers args.length) (reads : ∀ offset ∈ args, offset < width)
    (wide : token.width = width) :
    ∃ params result values, invocationArguments invocation args token = .ok params ∧
      (invocation.call params).outcome = .ok result ∧
        candidates invocation result = .ok values := by
  have inside : ∀ offset ∈ args, offset < token.width :=
    fun offset listed => wide ▸ reads offset listed
  have given := @invocationArguments_eq invocation _ _ inside
  obtain ⟨result, values, called, taken⟩ := answers _ (Outcome.mapM_ok_mem given).2
  exact ⟨_, result, values, given, called, taken⟩

end Operator

/-! ### Operators -/

namespace Operator

variable {constraints : List BoundConstraint} {tokens again : List Token}
  {objects others : List Held} {width : Nat}

/-- **A join of the same tokens with the same objects**, in any order. -/
theorem join_shuffled (answers : ∀ constraint ∈ constraints, constraint.Answers)
    (within : ∀ constraint ∈ constraints, constraint.Within width)
    (wide : ∀ token ∈ tokens, token.width = width) (tuples : tokens.Perm again)
    (same : objects.Perm others) :
    (joinTokens constraints tokens objects).outcome.Shuffled
      (joinTokens constraints again others).outcome := by
  unfold joinTokens
  refine Traced.expand_shuffled tuples fun token member => ?_
  rw [Traced.outcome_bind, Traced.outcome_bind]
  have kept := Traced.select_shuffled
    (fun held : Held => meets_answers answers within (wide token member) held.value) same
  exact kept.bind fun found again _ _ mixed => .ok (mixed.map _)

/-- **A search does not depend on the order of the objects**, so a token passes or does not. -/
theorem existential_shuffled (quantifier : Quantifier)
    (answers : ∀ constraint ∈ constraints, constraint.Answers)
    (within : ∀ constraint ∈ constraints, constraint.Within width)
    (wide : ∀ token ∈ tokens, token.width = width) (tuples : tokens.Perm again)
    (same : objects.Perm others) :
    (existentialTokens quantifier constraints tokens objects).outcome.Shuffled
      (existentialTokens quantifier constraints again others).outcome := by
  unfold existentialTokens
  refine Traced.expand_shuffled tuples fun token member => ?_
  obtain ⟨passed, here, there⟩ := Traced.any_shuffled
    (fun held : Held => meets_answers answers within (wide token member) held.value) same
  rw [Traced.outcome_bind, Traced.outcome_bind, here, there]
  exact .ok (.refl _)

/-- **A function is called for the same tokens.** -/
theorem invoker_shuffled {invocation : Invocation} {args : List Nat}
    (calls : invocation.Answers args.length)
    (answers : ∀ constraint ∈ constraints, constraint.Answers)
    (reads : ∀ offset ∈ args, offset < width)
    (within : ∀ constraint ∈ constraints, constraint.Within width)
    (wide : ∀ token ∈ tokens, token.width = width) (tuples : tokens.Perm again) :
    (invokerTokens invocation args constraints tokens).outcome.Shuffled
      (invokerTokens invocation args constraints again).outcome := by
  unfold invokerTokens
  refine Traced.expand_shuffled tuples fun token member => ?_
  obtain ⟨params, result, values, given, called, taken⟩ :=
    candidates_answers calls reads (wide token member)
  have kept := Traced.select_shuffled
    (fun value => meets_answers answers within (wide token member) value) (.refl values)
  rw [Traced.outcome_bind, Traced.outcome_ofOutcome, given, Outcome.ok_bind, Traced.outcome_bind,
    called, Outcome.ok_bind, Traced.outcome_bind, Traced.outcome_ofOutcome, taken, Outcome.ok_bind,
    Traced.outcome_bind]
  exact kept.bind fun found again _ _ mixed => .ok (mixed.map _)

end Operator

namespace NodeKind

/-- The node extends tuples, and folds no objects. -/
def isFoldless : NodeKind → Bool
  | join _ | existential _ _ | invoker _ _ _ => true
  | _ => false

theorem isFoldless_same {a b : NodeKind} (same : a.sharesWith b = true) :
    a.isFoldless = b.isFoldless := by
  cases a <;> cases b <;> simp_all [sharesWith, isFoldless]

theorem isBeta_of_isFoldless {kind : NodeKind} (foldless : kind.isFoldless = true) :
    kind.isBeta = true := by
  cases kind <;> first | rfl | cases foldless

theorem readsTuples_of_isFoldless {kind : NodeKind} (foldless : kind.isFoldless = true) :
    kind.readsTuples = true := by
  cases kind <;> first | rfl | cases foldless

/-- **A node that folds nothing does the same to the same tokens and objects**, in any order. -/
theorem operate_shuffled {kind : NodeKind} {tokens again : List Token} {objects others : List Held}
    {width : Nat} (foldless : kind.isFoldless = true) (answers : kind.Answers)
    (within : kind.Within width) (wide : ∀ token ∈ tokens, token.width = width)
    (tuples : tokens.Perm again) (same : objects.Perm others) :
    (kind.operate tokens objects).outcome.Shuffled (kind.operate again others).outcome := by
  cases kind with
  | join constraints => exact Operator.join_shuffled answers within wide tuples same
  | existential quantifier constraints =>
    exact Operator.existential_shuffled quantifier answers within wide tuples same
  | invoker invocation args constraints =>
    exact Operator.invoker_shuffled answers.1 answers.2 within.1 within.2 wide tuples
  | _ => cases foldless

end NodeKind

/-! ### Feeds -/

namespace Network

/-- **The callbacks of the node and of all nodes above it never fail.** -/
inductive Answers (network : Network) : NodeId → Prop
  | node {id : NodeId} {node : Node} (found : network.node? id = some node)
      (answers : node.kind.Answers)
      (above : ∀ parent ∈ node.parents, Answers network parent) : Answers network id

variable {network : Network} {id : NodeId} {memory other : WorkingMemory}

/-- What a node that answers reads. -/
theorem Answers.parents (answers : network.Answers id) {node : Node}
    (found : network.node? id = some node) :
    node.kind.Answers ∧ ∀ parent ∈ node.parents, network.Answers parent := by
  obtain ⟨there, own, above⟩ := answers
  obtain rfl := Option.some.inj (found.symm.trans there)
  exact ⟨own, above⟩

/-- **An object node gives the same objects in some order.** -/
theorem Answers.objects_shuffled (answers : network.Answers id) (layered : Layered network.nodes)
    (same : memory.Shuffled other)
    (given : (feedAt network.nodes id).stream = some .objects) :
    ((feedAt network.nodes id).objects memory).Shuffled
      ((feedAt network.nodes id).objects other) := by
  induction answers with
  | @node id node found answers _ hypothesis =>
    have member := node?_mem found
    have read : node.kind.readsObjects = true →
        (node.objectsRead (feedAt network.nodes) memory).Shuffled
          (node.objectsRead (feedAt network.nodes) other) := by
      intro reads
      obtain ⟨parent, named, stream⟩ := (layered.fits member).objectParent reads
      simp only [Node.objectsRead, Node.needObject, named, Outcome.ok_bind]
      exact hypothesis parent (by simp [Node.parents, named]) stream
    rw [← node?_id found, layered.feed_node member] at given ⊢
    simp only [Node.feed] at given ⊢
    unfold Node.objectsGiven
    cases kind : node.kind with
    | entryPoint name => exact .ok (same (.entryPoint name))
    | stream name type => exact .ok ((same (.stream name)).filter _)
    | objectType type =>
      exact (read (by rw [kind]; rfl)).bind fun found again _ _ kept => .ok (kept.filter _)
    | alpha predicate arity =>
      rw [kind] at answers
      refine (read (by rw [kind]; rfl)).bind fun found again _ _ kept => ?_
      exact Traced.select_shuffled (fun held =>
        answers _ (List.length_replicate (n := arity) (a := held.value))) kept
    | _ => simp [kind, NodeKind.gives] at given

/-- **A node with no fold above it**: it extends tuples without folding objects, down from the
adapter that starts them. -/
inductive Unfolded (network : Network) : NodeId → Prop
  | started {id : NodeId} {node : Node} (found : network.node? id = some node)
      (adapter : node.kind = .adapter) : Unfolded network id
  | extended {id tuple : NodeId} {node : Node} (found : network.node? id = some node)
      (foldless : node.kind.isFoldless = true) (parent : node.tupleParent = some tuple)
      (above : Unfolded network tuple) : Unfolded network id

/-- **Such a node gives the same tokens in some order.** -/
theorem Unfolded.tokens_shuffled (unfolded : network.Unfolded id)
    (layered : Layered network.nodes) (answers : network.Answers id)
    (same : memory.Shuffled other) :
    ((feedAt network.nodes id).tokens memory).Shuffled
      ((feedAt network.nodes id).tokens other) := by
  have read : ∀ node ∈ network.nodes, node.kind.readsObjects = true →
      (∀ parent ∈ node.parents, network.Answers parent) →
      (node.objectsRead (feedAt network.nodes) memory).Shuffled
        (node.objectsRead (feedAt network.nodes) other) := by
    intro node member reads above
    obtain ⟨parent, named, stream⟩ := (layered.fits member).objectParent reads
    simp only [Node.objectsRead, Node.needObject, named, Outcome.ok_bind]
    exact (above parent (by simp [Node.parents, named])).objects_shuffled layered same stream
  induction unfolded with
  | @started id node found adapter =>
    have member := node?_mem found
    rw [← node?_id found, layered.feed_node member]
    simp only [Node.feed, Node.tokensGiven, adapter]
    have objects := read node member (by rw [adapter]; rfl) (answers.parents found).2
    exact objects.bind fun _ _ _ _ kept => .ok (kept.map _)
  | @extended id tuple node found foldless parent _ hypothesis =>
    have member := node?_mem found
    have beta := NodeKind.isBeta_of_isFoldless foldless
    have fits := layered.fits member
    obtain ⟨own, above⟩ := answers.parents found
    rw [← node?_id found, layered.feed_node member]
    simp only [Node.feed]
    rw [Node.tokensGiven_eq beta, Node.tokensGiven_eq beta]
    have tuples : (node.tokensRead (feedAt network.nodes) memory).Shuffled
        (node.tokensRead (feedAt network.nodes) other) := by
      simp only [Node.tokensRead, Node.needTuple, parent, Outcome.ok_bind]
      exact hypothesis (above tuple (by simp [Node.parents, parent]))
    refine tuples.bind fun tokens again here _ kept => ?_
    obtain ⟨within, wide⟩ := fits.tokensRead_width (NodeKind.readsTuples_of_isFoldless foldless)
      (fun _ _ _ given found => layered.tokens_width given found) here
    have objects : (if node.kind.readsObjects = true
        then node.objectsRead (feedAt network.nodes) memory else .ok []).Shuffled
          (if node.kind.readsObjects = true
            then node.objectsRead (feedAt network.nodes) other else .ok []) := by
      by_cases reading : node.kind.readsObjects = true
      · rw [if_pos reading, if_pos reading]
        exact read node member reading above
      · rw [if_neg reading, if_neg reading]
        exact .ok .nil
    exact objects.bind fun found others _ _ mixed =>
      NodeKind.operate_shuffled foldless own within wide kept mixed

end Network

end RuleNet
