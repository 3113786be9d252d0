/-
**Adding a rule changes nothing for the nodes that are there.**

A node is evaluated from the nodes behind it. Nodes that are added stand in front, and all that they
change of the others are their lists of children, which the evaluator does not read.

* `objectsAt_adopted`, `tokensAt_adopted`: a new child is not seen by the evaluator;
* `Network.Evaluates`: the nodes of a network are evaluated in another one as they are in it;
* `evaluates_stepwise`: no change of the compiler is seen;
* `Grown.addRule_conservative`: **the nodes that are there before a rule is added stay, and are
  evaluated as they were**, call by call, whether the rule is accepted or fails.
-/

import RuleNet.Proofs.Build.Lasting

namespace RuleNet

open Stateful

namespace Evaluation

variable {memory : WorkingMemory} {child node : Node} {nodes : List Node} {id : NodeId}

/-! ### New children -/

theorem objectParent_adopted (child node : Node) :
    objectParent (Network.adopted child node) = objectParent node := by
  unfold Network.adopted Node.adopt
  repeat' split
  all_goals rfl

theorem tupleParent_adopted (child node : Node) :
    tupleParent (Network.adopted child node) = tupleParent node := by
  unfold Network.adopted Node.adopt
  repeat' split
  all_goals rfl

/-- **A new child is not seen** when objects are evaluated. -/
theorem objectsAt_adopted (memory : WorkingMemory) (child : Node) (nodes : List Node)
    (id : NodeId) :
    objectsAt memory (nodes.map (Network.adopted child)) id = objectsAt memory nodes id := by
  induction nodes generalizing id with
  | nil => rfl
  | cons node older hypothesis =>
    rw [List.map_cons]
    unfold objectsAt
    simp only [Network.id_adopted, Network.kind_adopted, objectParent_adopted, hypothesis]

/-- **A new child is not seen** when tokens are evaluated. -/
theorem tokensAt_adopted (memory : WorkingMemory) (child : Node) (nodes : List Node)
    (id : NodeId) :
    tokensAt memory (nodes.map (Network.adopted child)) id = tokensAt memory nodes id := by
  induction nodes generalizing id with
  | nil => rfl
  | cons node older hypothesis =>
    rw [List.map_cons]
    unfold tokensAt
    simp only [Network.id_adopted, Network.kind_adopted, objectParent_adopted, tupleParent_adopted,
      objectsAt_adopted, hypothesis]

end Evaluation

/-! ### Networks that grow -/

namespace Network

variable {network : Network} {node : Node} {id : NodeId}

/-- A node that is added is not seen by the others. -/
theorem objects_insert (new : network.contains node.id = false)
    (known : network.contains id = true) (memory : WorkingMemory) :
    (network.insert node).objects memory id = network.objects memory id := by
  show Evaluation.objectsAt memory (node :: network.nodes.map (adopted node)) id = _
  rw [Evaluation.objectsAt, if_neg (ne_of_contains new known), Evaluation.objectsAt_adopted]
  rfl

theorem tokens_insert (new : network.contains node.id = false)
    (known : network.contains id = true) (memory : WorkingMemory) :
    (network.insert node).tokens memory id = network.tokens memory id := by
  show Evaluation.tokensAt memory (node :: network.nodes.map (adopted node)) id = _
  rw [Evaluation.tokensAt, if_neg (ne_of_contains new known), Evaluation.tokensAt_adopted]
  rfl

/-- **The nodes of the first network are in the second one**, and evaluating them is the same
computation: the same answers and failures, and the same callbacks on the way. -/
def Evaluates (before after : Network) : Prop :=
  ∀ id, before.contains id = true → after.contains id = true ∧
    ∀ memory, after.objects memory id = before.objects memory id ∧
      after.tokens memory id = before.tokens memory id

theorem evaluates_of_nodes {before after : Network} (nodes : after.nodes = before.nodes) :
    before.Evaluates after := by
  intro id known
  refine ⟨(contains_of_nodes nodes id).trans known, fun memory => ?_⟩
  simp only [objects, tokens, nodes, and_self]

theorem Evaluates.trans {first second third : Network} (left : first.Evaluates second)
    (right : second.Evaluates third) : first.Evaluates third := by
  intro id known
  obtain ⟨there, same⟩ := left id known
  obtain ⟨last, again⟩ := right id there
  refine ⟨last, fun memory => ?_⟩
  rw [(again memory).1, (again memory).2]
  exact same memory

theorem Evaluates.insert {base : Network} (evaluates : base.Evaluates network)
    (new : network.contains node.id = false) : base.Evaluates (network.insert node) := by
  intro id known
  obtain ⟨there, same⟩ := evaluates id known
  refine ⟨contains_insert.mpr (Or.inr there), fun memory => ?_⟩
  rw [objects_insert new there, tokens_insert new there]
  exact same memory

end Network

/-- **No change of the compiler is seen** by the nodes that were there. -/
theorem Builder.evaluates_stepwise (base : Network) :
    Stepwise fun builder => base.Evaluates builder.network where
  asked _ _ _ evaluates := evaluates
  made _ _ _ new evaluates := evaluates.insert new
  shared _ _ evaluates := evaluates
  registered source root _ evaluates := by
    rw [network_register]
    exact evaluates
  aside _ evaluates := evaluates

/-! ### Histories -/

namespace KnowledgeBase

variable {config : BuildConfig} {attempts : List (Rule × Outcome RuleHandle)} {kb : KnowledgeBase}
  {id : NodeId}

/-- The nodes that are there are evaluated as they were, however a rule ends. -/
theorem Grown.evaluates_addRule (grown : Grown config .standard attempts kb) (rule : Rule) :
    kb.network.Evaluates (kb.addRule rule).after.network := by
  have start : kb.network.Evaluates (kb.opening rule).builder.network :=
    Network.evaluates_of_nodes (opening_nodes kb rule)
  have compiled : kb.network.Evaluates (kb.compiled rule).network :=
    (grown.compiled_of (Builder.evaluates_stepwise kb.network) start).2
  rcases grown.nodes_left rule with nodes | nodes
  · exact compiled.trans (Network.evaluates_of_nodes nodes)
  · exact Network.evaluates_of_nodes nodes

/-- **Adding a rule is conservative.** Whether it is accepted or fails, every node that was there is
there, with its kind and its parents, and evaluating its objects or its tokens over any working
memory gives what it gave, failures included. Nothing is assumed of callbacks or of their keys. -/
theorem Grown.addRule_conservative (grown : Grown config .standard attempts kb) (rule : Rule)
    (known : kb.network.contains id = true) :
    (∃ before children, kb.network.node? id = some before ∧
      (kb.addRule rule).after.network.node? id = some { before with children := children }) ∧
      ∀ memory state,
        result ((kb.addRule rule).after.network.objects memory id) state =
            result (kb.network.objects memory id) state ∧
          result ((kb.addRule rule).after.network.tokens memory id) state =
            result (kb.network.tokens memory id) state := by
  obtain ⟨node, found⟩ := Network.node?_isSome known
  obtain ⟨children, there⟩ := (grown.within_addRule rule).network.nodes id node found
  obtain ⟨_, same⟩ := grown.evaluates_addRule rule id known
  refine ⟨⟨node, children, found, there⟩, fun memory state => ?_⟩
  obtain ⟨objects, tokens⟩ := same memory
  rw [objects, tokens]
  exact ⟨rfl, rfl⟩

/-- A rule that fails over a type of another rule leaves its matches as they were. -/
theorem everyPerson_kept :
    let kb := ((KnowledgeBase.new default .standard).addRule everyPerson).after
    (kb.addRule twoPersonsOr).outcome.isOk = false ∧ kb.network.contains ⟨2⟩ = true ∧
      ∀ memory state,
        result ((kb.addRule twoPersonsOr).after.network.tokens memory ⟨2⟩) state =
          result (kb.network.tokens memory ⟨2⟩) state := by
  intro kb
  have grown : Grown default .standard _ kb := Grown.new.addRule everyPerson
  have fails : (kb.addRule twoPersonsOr).outcome.isOk = false := by decide +kernel
  have known : kb.network.contains ⟨2⟩ = true := by decide +kernel
  obtain ⟨_, same⟩ := grown.addRule_conservative twoPersonsOr known
  exact ⟨fails, known, fun memory state => (same memory state).2⟩

end KnowledgeBase

end RuleNet
