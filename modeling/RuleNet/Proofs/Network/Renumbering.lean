/-
**The network under other node ids.**

Ids are handed out in order and never given back, so a rule that fails leaves a gap, and all nodes
after it have larger ids than they would have without it. Nothing depends on that: the network only
compares ids for equality, and sorts by them.

* `Renumbering`: other numbers for the nodes, in the same order;
* `Renumbering.network`, `Renumbering.roots`: a network and the roots of sources under them;
* `node?_network`, `objectTypeRoot_network`, `equivalent?_network`, …: **every query of the network
  gives the renumbered answer**;
* `mirrors_attach`: so does attaching a node.
-/

import Mathlib.Order.WellFounded
import RuleNet.Proofs.Callback.Loops
import RuleNet.Proofs.Network.Growth

namespace RuleNet

/-- **Other numbers for the nodes**, in the same order. -/
structure Renumbering where
  number : Nat → Nat
  rises : StrictMono number

namespace Renumbering

variable (numbers : Renumbering)

def nodeId (id : NodeId) : NodeId :=
  ⟨numbers.number id.index⟩

def node (node : Node) : Node where
  id := numbers.nodeId node.id
  kind := node.kind
  objectParent := node.objectParent.map numbers.nodeId
  tupleParent := node.tupleParent.map numbers.nodeId
  children := node.children.map numbers.nodeId

def network (network : Network) : Network where
  nodes := network.nodes.map numbers.node
  roots := network.roots.map numbers.nodeId
  journal := network.journal.map (List.map numbers.nodeId)

def roots (roots : Roots) : Roots :=
  ⟨roots.byName.map fun entry => (entry.1, numbers.nodeId entry.2)⟩

/-! ### Ids and nodes -/

theorem le_number (index : Nat) : index ≤ numbers.number index :=
  StrictMono.le_apply numbers.rises

theorem nodeId_injective : Function.Injective numbers.nodeId := by
  rintro ⟨a⟩ ⟨b⟩ same
  exact congrArg NodeId.mk (numbers.rises.injective (NodeId.mk.inj same))

@[simp] theorem nodeId_inj {a b : NodeId} : numbers.nodeId a = numbers.nodeId b ↔ a = b :=
  numbers.nodeId_injective.eq_iff

@[simp] theorem id_node (node : Node) : (numbers.node node).id = numbers.nodeId node.id := rfl

@[simp] theorem kind_node (node : Node) : (numbers.node node).kind = node.kind := rfl

theorem parents_node (node : Node) :
    (numbers.node node).parents = node.parents.map numbers.nodeId := by
  simp only [Node.parents, Renumbering.node, Option.toList_map, List.map_append]

@[simp] theorem mem_map_nodeId {id : NodeId} {ids : List NodeId} :
    numbers.nodeId id ∈ ids.map numbers.nodeId ↔ id ∈ ids :=
  List.mem_map_of_injective numbers.nodeId_injective

theorem map_nodeId_inj {a b : Option NodeId} :
    a.map numbers.nodeId = b.map numbers.nodeId ↔ a = b :=
  (Option.map_injective numbers.nodeId_injective).eq_iff

theorem equivalent_node (a b : Node) :
    (numbers.node a).equivalent (numbers.node b) = a.equivalent b := by
  simp only [Node.equivalent, Renumbering.node, map_nodeId_inj]

theorem adopt_node (node : Node) (child : NodeId) :
    (numbers.node node).adopt (numbers.nodeId child) = numbers.node (node.adopt child) := by
  unfold Node.adopt
  simp only [Renumbering.node, mem_map_nodeId]
  split
  · rfl
  · simp only [List.map_append, List.map_cons, List.map_nil]

/-! ### Queries -/

section

variable (network : Network)

@[simp] theorem node?_network (id : NodeId) :
    (numbers.network network).node? (numbers.nodeId id) = (network.node? id).map numbers.node := by
  simp only [Network.node?, Renumbering.network, List.find?_map, Function.comp_def, id_node,
    nodeId_inj]

@[simp] theorem contains_network (id : NodeId) :
    (numbers.network network).contains (numbers.nodeId id) = network.contains id := by
  simp only [Network.contains, node?_network, Option.isSome_map]

theorem children_network (id : NodeId) :
    (numbers.network network).children (numbers.nodeId id) =
      (network.children id).map numbers.nodeId := by
  unfold Network.children
  rw [node?_network]
  cases network.node? id <;> rfl

theorem narrowedType?_network (id : NodeId) :
    (numbers.network network).narrowedType? (numbers.nodeId id) = network.narrowedType? id := by
  rw [Network.narrowedType?_eq, Network.narrowedType?_eq, node?_network]
  cases network.node? id <;> rfl

theorem objectTypeNode?_network (root : NodeId) (type : ObjectType) :
    (numbers.network network).objectTypeNode? (numbers.nodeId root) type =
      (network.objectTypeNode? root type).map numbers.nodeId := by
  simp only [Network.objectTypeNode?, Network.objectTypeNodes, children_network, List.filter_map,
    List.find?_map, Function.comp_def, narrowedType?_network]

theorem climb_network (steps : Nat) (id : NodeId) :
    (numbers.network network).climb steps (numbers.nodeId id) =
      (network.climb steps id).map numbers.nodeId := by
  induction steps generalizing id with
  | zero => rfl
  | succ steps hypothesis =>
    rw [Network.climb, Network.climb, node?_network]
    cases network.node? id with
    | none => rfl
    | some node =>
      simp only [Option.map_some]
      by_cases typed : node.kind.isObjectTypeRoot = true
      · rw [if_pos typed, if_pos (show (numbers.node node).kind.isObjectTypeRoot = true from typed)]
        rfl
      · have other : ¬ (numbers.node node).kind.isObjectTypeRoot = true := typed
        rw [if_neg typed, if_neg other]
        cases above : node.objectParent with
        | none => simp only [Renumbering.node, above, Option.map_none]
        | some parent =>
          simp only [Renumbering.node, above, Option.map_some]
          exact hypothesis parent

theorem objectTypeRoot_network (id : NodeId) :
    (numbers.network network).objectTypeRoot (numbers.nodeId id) =
      (network.objectTypeRoot id).map numbers.nodeId := by
  have size : (numbers.network network).size = network.size := List.length_map _
  rw [Network.objectTypeRoot, size, climb_network, Network.objectTypeRoot]

theorem equivalent?_network (node : Node) :
    (numbers.network network).equivalent? (numbers.node node) =
      (network.equivalent? node).map numbers.nodeId := by
  have siblings : (numbers.network network).siblings (numbers.node node) =
      (network.siblings node).map numbers.nodeId := by
    unfold Network.siblings
    have above : (numbers.node node).tupleParent.or (numbers.node node).objectParent =
        (node.tupleParent.or node.objectParent).map numbers.nodeId := Option.map_or.symm
    rw [above]
    cases node.tupleParent.or node.objectParent with
    | none => rfl
    | some parent => exact children_network numbers network parent
  unfold Network.equivalent?
  rw [siblings, List.find?_map]
  congr 2
  funext id
  simp only [Function.comp_apply, node?_network]
  cases network.node? id with
  | none => rfl
  | some existing => exact equivalent_node numbers existing node

/-- The order of the nodes stays, so the terminals do. -/
theorem terminals_network :
    (numbers.network network).terminals = network.terminals.map numbers.nodeId := by
  have ordered : (numbers.network network).byId = network.byId.map numbers.node := by
    refine (List.map_mergeSort fun a _ b _ => ?_).symm
    simp only [id_node, nodeId, numbers.rises.le_iff_le]
  unfold Network.terminals
  rw [ordered, List.filter_map, List.map_map, List.map_map]
  rfl

/-! ### Nodes that are added -/

theorem insert_network (node : Node) :
    (numbers.network network).insert (numbers.node node) =
      numbers.network (network.insert node) := by
  refine congr (congr (congrArg Network.mk ?_) ?_) ?_
  · simp only [Renumbering.network, Network.insert, List.map_cons, List.map_map]
    congr 2
    funext other
    simp only [Function.comp_apply, parents_node, id_node, mem_map_nodeId, adopt_node]
    split <;> rfl
  · by_cases root : node.kind.isRoot = true
    · rw [if_pos (show (numbers.node node).kind.isRoot = true from root)]
      simp only [Renumbering.network, Network.insert, if_pos root, List.map_append, List.map_cons,
        List.map_nil, id_node]
    · rw [if_neg (show ¬ (numbers.node node).kind.isRoot = true from root)]
      simp only [Renumbering.network, Network.insert, if_neg root]
  · simp only [Renumbering.network, Network.insert, Option.map_map]
    congr 1
    funext added
    simp only [Function.comp_apply, List.map_append, List.map_cons, List.map_nil, id_node]

/-- **Attaching a node** gives the renumbered answer. -/
theorem mirrors_attach (node : Node) (share : Bool) :
    Outcome.Mirrors ((numbers.network network).attach (numbers.node node) share)
      (network.attach node share) fun renumbered own =>
        renumbered.1.id = numbers.nodeId own.1.id ∧ renumbered.2 = numbers.network own.2 := by
  unfold Network.attach
  rw [id_node, contains_network, parents_node, List.find?_map]
  simp only [Function.comp_def, contains_network]
  split
  · exact .ok ⟨rfl, rfl⟩
  · cases node.parents.find? fun parent => !network.contains parent with
    | some parent => exact fun value never => nomatch never
    | none =>
      have found : (if share then (numbers.network network).equivalent? (numbers.node node)
          else none) = (if share then network.equivalent? node else none).map numbers.nodeId := by
        rw [equivalent?_network]
        cases share <;> rfl
      simp only [Option.map_none, found]
      cases (if share then network.equivalent? node else none) with
      | some existing => exact .ok ⟨rfl, rfl⟩
      | none => exact .ok ⟨rfl, insert_network numbers network node⟩

end

/-! ### Roots of sources -/

theorem get?_roots (roots : Roots) (name : String) :
    (numbers.roots roots).get? name = (roots.get? name).map numbers.nodeId := by
  obtain ⟨entries⟩ := roots
  simp only [Roots.get?, Renumbering.roots]
  induction entries with
  | nil => rfl
  | cons entry rest hypothesis =>
    simp only [List.map_cons, NameMap.get?]
    split
    · rfl
    · exact hypothesis

theorem insert_roots (roots : Roots) (name : String) (root : NodeId) :
    (numbers.roots roots).insert name (numbers.nodeId root) =
      numbers.roots (roots.insert name root) := by
  obtain ⟨entries⟩ := roots
  simp only [Roots.insert, Renumbering.roots, Roots.mk.injEq]
  induction entries with
  | nil => rfl
  | cons entry rest hypothesis =>
    simp only [List.map_cons, NameMap.set]
    split
    · rfl
    · split
      · rfl
      · rw [hypothesis, List.map_cons]

end Renumbering

end RuleNet
