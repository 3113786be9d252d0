/-
**The arena: all nodes of the network, shared between rules.**

Nodes are only ever added below nodes that are already there, so the arena is kept as a list with
the newest node first: the parents of a node stand behind it. A transaction remembers the nodes
added since it was opened, and can take them out again.

* `attach`: adds a node, or returns the node that is already there or can stand in for it;
* `begin`, `commit`, `rollback`: transactions;
* `node?`, `terminals`, `objectTypeRoot`, …: queries. Those that list nodes do so by id.
-/

import RuleNet.Network.Node

namespace RuleNet

/-- The nodes of all rules. -/
structure Network where
  /-- Newest first. -/
  nodes : List Node
  /-- The nodes without parents, oldest first. -/
  roots : List NodeId
  /-- The nodes added since the open transaction began, oldest first. -/
  journal : Option (List NodeId)

/-- The node that a request ended at. -/
structure Attached where
  id : NodeId
  /-- The node was there before. -/
  shared : Bool
deriving DecidableEq, Repr

namespace Network

def empty : Network :=
  ⟨[], [], none⟩

/-! ### Queries -/

def node? (network : Network) (id : NodeId) : Option Node :=
  network.nodes.find? (·.id = id)

def contains (network : Network) (id : NodeId) : Bool :=
  (network.node? id).isSome

def size (network : Network) : Nat :=
  network.nodes.length

def children (network : Network) (id : NodeId) : List NodeId :=
  match network.node? id with
  | some node => node.children
  | none => []

/-- The nodes in the order of their ids. -/
def byId (network : Network) : List Node :=
  network.nodes.mergeSort fun a b => a.id.index ≤ b.id.index

/-- The number of nodes of the kind with a given name. -/
def countNamed (network : Network) (name : String) : Nat :=
  network.nodes.countP fun node => node.kind.sort.text = name

/-- The terminals, in the order of their ids. -/
def terminals (network : Network) : List NodeId :=
  (network.byId.filter fun node => node.kind.isTerminal).map Node.id

/-- The type that a node narrows to, for object-type nodes. -/
def narrowedType? (network : Network) (id : NodeId) : Option ObjectType :=
  match network.node? id with
  | some { kind := .objectType type, .. } => some type
  | _ => none

/-- The object-type nodes below a root. -/
def objectTypeNodes (network : Network) (root : NodeId) : List NodeId :=
  (network.children root).filter fun child => (network.narrowedType? child).isSome

/-- The node below a root that narrows to a type. -/
def objectTypeNode? (network : Network) (root : NodeId) (type : ObjectType) : Option NodeId :=
  (network.objectTypeNodes root).find? fun child => network.narrowedType? child = some type

/-- Climbs along object parents to a node with a known object type, in at most `steps` nodes. -/
def climb (network : Network) : (steps : Nat) → NodeId → Option NodeId
  | 0, _ => none
  | steps + 1, id =>
    match network.node? id with
    | none => none
    | some node =>
      if node.kind.isObjectTypeRoot then some id
      else
        match node.objectParent with
        | some parent => climb network steps parent
        | none => none

/-- **The node whose object type a node inherits.** A chain of parents is at most as long as the
network. -/
def objectTypeRoot (network : Network) (id : NodeId) : Option NodeId :=
  network.climb (network.size + 1) id

/-! ### Adding nodes -/

/-- The nodes among which one equivalent to a new node would be: its siblings. -/
def siblings (network : Network) (node : Node) : List NodeId :=
  match node.tupleParent.or node.objectParent with
  | some parent => network.children parent
  | none => network.roots

/-- The oldest sibling that can stand in for a new node. -/
def equivalent? (network : Network) (node : Node) : Option NodeId :=
  (network.siblings node).find? fun id =>
    match network.node? id with
    | some existing => existing.equivalent node
    | none => false

/-- The network with a new node below its parents. -/
def insert (network : Network) (node : Node) : Network where
  nodes := node :: network.nodes.map fun other =>
    if other.id ∈ node.parents then other.adopt node.id else other
  roots := if node.kind.isRoot then network.roots ++ [node.id] else network.roots
  journal := network.journal.map (· ++ [node.id])

/-- **Adds a node.** An id that is taken answers with the node it names, a parent that is missing
is an error, and if sharing is asked for an equivalent sibling is used instead. -/
def attach (network : Network) (node : Node) (share : Bool) : Outcome (Attached × Network) :=
  if network.contains node.id then .ok (⟨node.id, true⟩, network)
  else
    match node.parents.find? fun parent => !network.contains parent with
    | some parent => (Structural.missingParent node.kind.sort node.id parent).fail
    | none =>
      match if share then network.equivalent? node else none with
      | some existing => .ok (⟨existing, true⟩, network)
      | none => .ok (⟨node.id, false⟩, network.insert node)

/-! ### Transactions -/

/-- Opens a transaction. One that is open already is kept and no longer remembered. -/
def begin (network : Network) : Network :=
  { network with journal := some [] }

/-- Keeps what was added. -/
def commit (network : Network) : Network :=
  { network with journal := none }

/-- The nodes without one of them, which its parents no longer name. -/
def detach (nodes : List Node) (id : NodeId) : List Node :=
  match nodes.find? (·.id = id) with
  | none => nodes
  | some node => (nodes.filter fun other => other.id ≠ id).map fun other =>
      if other.id ∈ node.parents then other.disown id else other

/-- **Takes out what was added since the transaction began**, and closes it. Answers with the nodes
taken out, oldest first. -/
def rollback (network : Network) : List NodeId × Network :=
  match network.journal with
  | none => ([], network)
  | some added =>
    (added,
      { nodes := added.reverse.foldl detach network.nodes
        roots := network.roots.filter fun id => id ∉ added
        journal := none })

/-! ### Small laws -/

theorem node?_id {network : Network} {id : NodeId} {node : Node}
    (found : network.node? id = some node) : node.id = id := by
  simpa using List.find?_some found

theorem node?_mem {network : Network} {id : NodeId} {node : Node}
    (found : network.node? id = some node) : node ∈ network.nodes :=
  List.mem_of_find?_eq_some found

@[simp] theorem size_insert (network : Network) (node : Node) :
    (network.insert node).size = network.size + 1 := by
  simp [size, insert]

/-- **An attach that answers with a node from before leaves the network as it was.** -/
theorem attach_shared {network after : Network} {node : Node} {share : Bool} {attached : Attached}
    (answer : network.attach node share = .ok (attached, after)) (shared : attached.shared) :
    after = network := by
  unfold attach at answer
  repeat' split at answer
  all_goals simp_all [Structural.fail, Fault.fail]
  all_goals grind

end Network

end RuleNet
