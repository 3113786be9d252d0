/-
**The arena is well formed, whatever transactions are run on it.**

Nodes come under any ids and with any parents, transactions are opened inside open ones, and rolling
back takes out nodes together with their parents. The links stay in order because parents stand
behind their children, and because an open transaction remembers a stretch of the newest nodes.

* `Transacted`: the arenas that can be reached, with the order in which their nodes were attached
  and the arena that the open transaction began with;
* `WellFormed`: every link of an arena leads both ways, in that order, and never in a circle;
* `InOrder`: the same along the list of nodes. A new node keeps it (`InOrder.insert`);
* `Undoes`: taking out what a transaction added leads back to its beginning;
* `Transacted.wellFormed`: **every arena that can be reached is well formed**, and rolling back leads
  exactly to where the transaction began.
-/

import Mathlib.Data.List.Nodup
import Mathlib.Logic.Relation
import RuleNet.Proofs.Build.Step

namespace RuleNet

open Stateful

namespace Network

variable {network after base : Network} {node : Node} {order earlier added : List NodeId}
  {id parent child : NodeId}

/-! ### Arenas -/

/-- **The arenas that transactions can reach**, with the ids of their nodes in the order they were
attached, and the arena that the open transaction began with. A node is attached without children;
an attach that is refused is no step. -/
inductive Transacted : List NodeId → Option Network → Network → Prop
  | empty : Transacted [] none .empty
  | attach {order : List NodeId} {base : Option Network} {network after : Network} {node : Node}
      {share : Bool} {attached : Attached} (run : Transacted order base network)
      (childless : node.children = []) (answer : network.attach node share = .ok (attached, after)) :
      Transacted (if attached.shared then order else order ++ [node.id]) base after
  | begin {order : List NodeId} {base : Option Network} {network : Network}
      (run : Transacted order base network) : Transacted order (some network) network.begin
  | commit {order : List NodeId} {base : Option Network} {network : Network}
      (run : Transacted order base network) : Transacted order none network.commit
  | rollback {order : List NodeId} {base : Option Network} {network : Network}
      (run : Transacted order base network) :
      Transacted (order.filter fun id => id ∉ network.rollback.1) none network.rollback.2

/-- The node under the second id names the first one as a parent. -/
def names (network : Network) (parent child : NodeId) : Bool :=
  (network.node? child).any fun node => parent ∈ node.parents

/-- The node under an id is of a kind without parents. -/
def rootAt (network : Network) (id : NodeId) : Bool :=
  (network.node? id).any fun node => node.kind.isRoot

/-- **Every link leads both ways**, in the order in which the nodes were attached, and no node is
above itself. -/
structure WellFormed (order : List NodeId) (network : Network) : Prop where
  present : ∀ id, id ∈ order ↔ network.contains id = true
  once : order.Nodup
  parents : ∀ id node, network.node? id = some node → ∀ parent ∈ node.parents,
    network.contains parent = true
  /-- The children of a node are those that name it, in order. -/
  children : ∀ id, network.children id = order.filter (network.names id)
  childrenOnce : ∀ id, (network.children id).Nodup
  roots : network.roots = order.filter network.rootAt
  rootsOnce : network.roots.Nodup
  acyclic : ∀ id, ¬ Relation.TransGen (fun child parent => network.names parent child) id id
  /-- What stands below a node of the open transaction was added by it, too. -/
  closed : ∀ added, network.journal = some added → ∀ id ∈ added, ∀ child ∈ network.children id,
    child ∈ added

/-! ### The list of nodes -/

/-- **Parents stand behind their children**, and each id stands once. -/
def Standing : List Node → Prop
  | [] => True
  | node :: older =>
    node.id ∉ older.map Node.id ∧ (∀ parent ∈ node.parents, parent ∈ older.map Node.id) ∧
      Standing older

/-- **The links agree with the list of nodes**, which holds the newest node first. -/
structure InOrder (order : List NodeId) (network : Network) : Prop where
  ids : network.nodes.map Node.id = order.reverse
  standing : Standing network.nodes
  children : ∀ node ∈ network.nodes, node.children =
    ((network.nodes.filter fun other => node.id ∈ other.parents).map Node.id).reverse
  roots : network.roots = ((network.nodes.filter fun node => node.kind.isRoot).map Node.id).reverse

theorem Standing.distinct {nodes : List Node} (standing : Standing nodes) :
    (nodes.map Node.id).Nodup := by
  induction nodes with
  | nil => exact List.nodup_nil
  | cons node older hypothesis =>
    exact List.nodup_cons.mpr ⟨standing.1, hypothesis standing.2.2⟩

/-- What keeps the ids and the parents of the nodes keeps their order. -/
theorem Standing.map {nodes : List Node} (standing : Standing nodes) {change : Node → Node}
    (id : ∀ node, (change node).id = node.id)
    (parents : ∀ node, (change node).parents = node.parents) : Standing (nodes.map change) := by
  induction nodes with
  | nil => trivial
  | cons other older hypothesis =>
    have ids : (older.map change).map Node.id = older.map Node.id := by simp [id]
    refine ⟨?_, ?_, hypothesis standing.2.2⟩
    · rw [ids, id]
      exact standing.1
    · rw [ids, parents]
      exact standing.2.1

theorem Standing.map_adopted {nodes : List Node} (standing : Standing nodes) (node : Node) :
    Standing (nodes.map (adopted node)) :=
  standing.map (id_adopted node) (parents_adopted node)

/-- **A new node stands in front of its parents.** -/
theorem Standing.insert (standing : Standing network.nodes) (new : network.contains node.id = false)
    (parents : ∀ parent ∈ node.parents, network.contains parent = true) :
    Standing (network.insert node).nodes := by
  have ids : (network.nodes.map (adopted node)).map Node.id = network.nodes.map Node.id := by simp
  rw [nodes_insert]
  refine ⟨?_, fun parent named => ?_, standing.map_adopted node⟩
  · rw [ids]
    intro listed
    obtain ⟨other, inside, same⟩ := List.mem_map.mp listed
    exact contains_eq_false.mp new other inside same
  · rw [ids]
    exact List.mem_map.mpr (contains_iff.mp (parents parent named))

/-- Every parent is there. -/
theorem Standing.contains_parent {nodes : List Node} (standing : Standing nodes) (member : node ∈ nodes)
    (named : parent ∈ node.parents) : parent ∈ nodes.map Node.id := by
  induction nodes with
  | nil => cases member
  | cons other older hypothesis =>
    rw [List.map_cons]
    rcases List.mem_cons.mp member with rfl | later
    · exact List.mem_cons_of_mem _ (standing.2.1 parent named)
    · exact List.mem_cons_of_mem _ (hypothesis standing.2.2 later)

/-- **Parents were attached before their children.** -/
theorem Standing.parent_first {nodes : List Node} (standing : Standing nodes)
    (member : node ∈ nodes) (named : parent ∈ node.parents) :
    (nodes.map Node.id).reverse.idxOf parent < (nodes.map Node.id).reverse.idxOf node.id := by
  induction nodes with
  | nil => cases member
  | cons other older hypothesis =>
    rw [List.map_cons, List.reverse_cons]
    rcases List.mem_cons.mp member with rfl | later
    · have above : parent ∈ (older.map Node.id).reverse :=
        List.mem_reverse.mpr (standing.2.1 parent named)
      have last : node.id ∉ (older.map Node.id).reverse := fun listed =>
        standing.1 (List.mem_reverse.mp listed)
      rw [List.idxOf_append_of_mem above, List.idxOf_append_of_notMem last]
      exact Nat.lt_of_lt_of_le (List.idxOf_lt_length_of_mem above) (Nat.le_add_right _ _)
    · have above : parent ∈ (older.map Node.id).reverse :=
        List.mem_reverse.mpr (standing.2.2.contains_parent later named)
      have own : node.id ∈ (older.map Node.id).reverse :=
        List.mem_reverse.mpr (List.mem_map_of_mem later)
      rw [List.idxOf_append_of_mem above, List.idxOf_append_of_mem own]
      exact hypothesis standing.2.2 later

/-- A parent that has not listed the new node yet lists it last. -/
theorem children_adopted {other : Node} (unlisted : node.id ∉ other.children) :
    (adopted node other).children =
      other.children ++ if other.id ∈ node.parents then [node.id] else [] := by
  unfold adopted Node.adopt
  rw [if_neg unlisted]
  split
  · rfl
  · exact (List.append_nil _).symm

/-- What a test of kinds and parents keeps of the nodes, after one was added. -/
theorem filter_adopted (test : Node → Bool) (nodes : List Node)
    (blind : ∀ other, test (adopted node other) = test other) :
    ((node :: nodes.map (adopted node)).filter test).map Node.id =
      (if test node then [node.id] else []) ++ (nodes.filter test).map Node.id := by
  have old : ((nodes.map (adopted node)).filter test).map Node.id =
      (nodes.filter test).map Node.id := by
    rw [List.filter_map, List.map_map]
    simp only [Function.comp_def, id_adopted, blind]
  rw [List.filter_cons]
  split
  · rw [List.map_cons, old]
    rfl
  · exact old

theorem inOrder_empty : empty.InOrder [] where
  ids := rfl
  standing := trivial
  children _ member := nomatch member
  roots := rfl

namespace InOrder

theorem mem_order (ordered : network.InOrder order) :
    id ∈ order ↔ network.contains id = true := by
  rw [contains_iff, ← List.mem_reverse, ← ordered.ids, List.mem_map]

theorem nodup (ordered : network.InOrder order) : order.Nodup := by
  have distinct := ordered.standing.distinct
  rwa [ordered.ids, List.nodup_reverse] at distinct

/-- The node under an id is in the list, and found. -/
theorem node?_of_mem (ordered : network.InOrder order) (member : node ∈ network.nodes) :
    network.node? node.id = some node :=
  find?_of_mem ordered.standing.distinct member

theorem tidy (ordered : network.InOrder order) : network.Tidy where
  distinct := ordered.standing.distinct
  children owner member id listed := by
    rw [ordered.children owner member, List.mem_reverse] at listed
    obtain ⟨child, kept, rfl⟩ := List.mem_map.mp listed
    obtain ⟨inside, names⟩ := List.mem_filter.mp kept
    exact ⟨child, inside, rfl, of_decide_eq_true names⟩
  roots id listed := by
    rw [ordered.roots, List.mem_reverse] at listed
    obtain ⟨root, kept, rfl⟩ := List.mem_map.mp listed
    exact contains_iff.mpr ⟨root, (List.mem_filter.mp kept).1, rfl⟩

/-- What a test keeps of the order, read off the nodes. -/
theorem filter_order (ordered : network.InOrder order) (test : Node → Bool) :
    order.filter (fun id => (network.node? id).any test) =
      ((network.nodes.filter test).map Node.id).reverse := by
  have here : (network.nodes.filter ((fun id => (network.node? id).any test) ∘ Node.id)) =
      network.nodes.filter test := by
    refine List.filter_congr fun node member => ?_
    simp only [Function.comp_apply, ordered.node?_of_mem member, Option.any_some]
  rw [← List.reverse_reverse order, ← ordered.ids, List.filter_reverse, List.filter_map, here]

/-- The children of any id, of one that is not there as well. -/
theorem children_eq (ordered : network.InOrder order) (id : NodeId) :
    network.children id = order.filter (network.names id) := by
  unfold names
  rw [ordered.filter_order, Network.children]
  cases found : network.node? id with
  | some owner =>
    have own := ordered.children owner (node?_mem found)
    rwa [node?_id found] at own
  | none =>
    -- nobody names a node that is not there
    have none : network.nodes.filter (fun other => id ∈ other.parents) = [] := by
      refine List.filter_eq_nil_iff.mpr fun other member named => ?_
      obtain ⟨owner, inside, same⟩ := List.mem_map.mp
        (ordered.standing.contains_parent member (of_decide_eq_true named))
      have there := ordered.node?_of_mem inside
      rw [same, found] at there
      cases there
    rw [none]
    rfl

/-- Whoever names a parent was attached after it. -/
theorem parent_first (ordered : network.InOrder order) (named : network.names parent child = true) :
    order.idxOf parent < order.idxOf child := by
  unfold names at named
  cases found : network.node? child with
  | none =>
    rw [found] at named
    cases named
  | some node =>
    rw [found] at named
    have first := ordered.standing.parent_first (node?_mem found) (of_decide_eq_true named)
    rwa [ordered.ids, List.reverse_reverse, node?_id found] at first

/-- **A new node goes to the end of the order.** -/
theorem insert (ordered : network.InOrder order) (new : network.contains node.id = false)
    (childless : node.children = [])
    (parents : ∀ parent ∈ node.parents, network.contains parent = true) :
    (network.insert node).InOrder (order ++ [node.id]) := by
  have unseen : node.id ∉ network.nodes.map Node.id := by
    intro listed
    obtain ⟨other, inside, same⟩ := List.mem_map.mp listed
    exact contains_eq_false.mp new other inside same
  have ids : (network.nodes.map (adopted node)).map Node.id = network.nodes.map Node.id := by simp
  refine ⟨?_, ordered.standing.insert new parents, ?_, ?_⟩
  · rw [nodes_insert, List.map_cons, ids, ordered.ids, List.reverse_append]
    rfl
  · rw [nodes_insert]
    intro owner member
    rw [filter_adopted _ _ fun other => by rw [parents_adopted], List.reverse_append]
    rcases List.mem_cons.mp member with rfl | old
    · -- nobody can have named the new node before
      have unnamed : network.nodes.filter (fun other => owner.id ∈ other.parents) = [] :=
        List.filter_eq_nil_iff.mpr fun other inside named =>
          unseen (ordered.standing.contains_parent inside (of_decide_eq_true named))
      have apart : owner.id ∉ owner.parents := fun named =>
        Bool.false_ne_true (new.symm.trans (parents _ named))
      simp [unnamed, apart, childless]
    · obtain ⟨other, inside, rfl⟩ := List.mem_map.mp old
      have own := ordered.children other inside
      have unlisted : node.id ∉ other.children := by
        intro listed
        obtain ⟨known, there, same, _⟩ := ordered.tidy.children other inside node.id listed
        exact contains_eq_false.mp new known there same
      rw [children_adopted unlisted, own, id_adopted]
      split <;> simp_all
  · have roots : (network.insert node).roots =
        network.roots ++ if node.kind.isRoot then [node.id] else [] := by
      simp only [Network.insert]
      split <;> simp
    rw [roots, nodes_insert, filter_adopted _ _ fun other => by rw [kind_adopted],
      List.reverse_append, ← ordered.roots]
    split <;> rfl

/-- Transactions do not touch the links. -/
theorem same (ordered : network.InOrder order) (nodes : after.nodes = network.nodes)
    (roots : after.roots = network.roots) : after.InOrder order := by
  obtain ⟨ids, standing, children, before⟩ := ordered
  refine ⟨?_, ?_, ?_, ?_⟩
  · rwa [nodes]
  · rwa [nodes]
  · rwa [nodes]
  · rwa [nodes, roots]

end InOrder

/-! ### Transactions -/

/-- **Taking out what was added leads back** to the arena at the beginning. -/
structure Undoes (base : Network) (added : List NodeId) (network : Network) : Prop where
  nodes : added.reverse.foldl detach network.nodes = base.nodes
  roots : (network.roots.filter fun id => id ∉ added) = base.roots

theorem undoes_nothing (network : Network) : network.Undoes [] network.begin :=
  ⟨rfl, by simp [Network.begin]⟩

/-- **A new node comes out first**, and leaves the arena as it was. -/
theorem Undoes.insert (undoes : base.Undoes added network) (tidy : network.Tidy)
    (new : network.contains node.id = false) :
    base.Undoes (added ++ [node.id]) (network.insert node) := by
  constructor
  · rw [List.reverse_append, List.reverse_singleton, List.singleton_append, List.foldl_cons,
      detach_insert tidy new]
    exact undoes.nodes
  · have old : (network.roots.filter fun id => id ∉ added ++ [node.id]) = base.roots := by
      rw [← undoes.roots]
      refine List.filter_congr fun id listed => ?_
      have different := (ne_of_contains new (tidy.roots id listed)).symm
      simp [different]
    simp only [Network.insert]
    split
    · rw [List.filter_append, old]
      simp
    · exact old

theorem Undoes.rollback (undoes : base.Undoes added network)
    (journaled : network.journal = some added) :
    network.rollback = (added, { base with journal := none }) := by
  simp only [Network.rollback, journaled, undoes.nodes, undoes.roots]

/-- **What holds of an arena and its open transaction.** The transaction added the newest nodes, and
they can be taken out again. -/
structure Journaled (order : List NodeId) (base : Option Network) (network : Network) : Prop where
  ordered : network.InOrder order
  undoes : ∀ added, network.journal = some added → ∃ before earlier, base = some before ∧
    before.InOrder earlier ∧ order = earlier ++ added ∧ before.Undoes added network

/-- **Every step of a transaction keeps this.** -/
theorem Transacted.journaled {base : Option Network} (run : Transacted order base network) :
    Journaled order base network := by
  induction run with
  | empty =>
    exact ⟨inOrder_empty, fun _ journaled => nomatch journaled⟩
  | @attach order base network after node share attached _ childless answer hypothesis =>
    obtain ⟨ordered, undoes⟩ := hypothesis
    rcases attach_cases answer with
      ⟨_, rfl, rfl⟩ | ⟨_, _, _, shared, rfl⟩ | ⟨new, parents, rfl, rfl⟩
    · exact ⟨ordered, undoes⟩
    · rw [shared]
      exact ⟨ordered, undoes⟩
    · refine ⟨ordered.insert new childless parents, fun added journaled => ?_⟩
      obtain ⟨before, pending, rfl⟩ := Option.map_eq_some_iff.mp journaled
      obtain ⟨begun, earlier, same, start, rfl, back⟩ := undoes before pending
      exact ⟨begun, earlier, same, start, List.append_assoc _ _ _, back.insert ordered.tidy new⟩
  | @begin order base network _ hypothesis =>
    refine ⟨hypothesis.ordered.same rfl rfl, fun added journaled => ?_⟩
    cases journaled
    exact ⟨network, order, rfl, hypothesis.ordered, (List.append_nil _).symm,
      undoes_nothing network⟩
  | commit _ hypothesis =>
    exact ⟨hypothesis.ordered.same rfl rfl, fun _ journaled => nomatch journaled⟩
  | @rollback order base network _ hypothesis =>
    obtain ⟨ordered, undoes⟩ := hypothesis
    cases journaled : network.journal with
    | none =>
      have idle : network.rollback = ([], network) := by simp only [Network.rollback, journaled]
      rw [idle]
      refine ⟨by simpa using ordered, fun _ pending => ?_⟩
      rw [journaled] at pending
      cases pending
    | some added =>
      obtain ⟨before, earlier, _, start, rfl, back⟩ := undoes added journaled
      have apart := (List.nodup_append.mp ordered.nodup).2.2
      have left : ((earlier ++ added).filter fun id => id ∉ added) = earlier := by
        rw [List.filter_append, List.filter_eq_self.mpr fun id early => by
          simpa using fun late => apart id early id late rfl]
        simp
      rw [back.rollback journaled, left]
      exact ⟨start.same rfl rfl, fun _ pending => nomatch pending⟩

/-- What stands below a node that was added was added as well. -/
theorem Journaled.closed {base : Option Network} (journaled : Journaled order base network)
    (pending : network.journal = some added) (member : id ∈ added)
    (below : child ∈ network.children id) : child ∈ added := by
  obtain ⟨ordered, undoes⟩ := journaled
  obtain ⟨_, earlier, _, _, rfl, _⟩ := undoes added pending
  rw [ordered.children_eq] at below
  obtain ⟨listed, named⟩ := List.mem_filter.mp below
  have first := ordered.parent_first named
  have late : id ∉ earlier := fun early =>
    (List.nodup_append.mp ordered.nodup).2.2 id early id member rfl
  rcases List.mem_append.mp listed with early | added
  · -- the child would stand before all that was added, its parent included
    rw [List.idxOf_append_of_notMem late, List.idxOf_append_of_mem early] at first
    have inside := List.idxOf_lt_length_of_mem early
    omega
  · exact added

theorem Journaled.links_agree {base : Option Network} (journaled : Journaled order base network) :
    network.WellFormed order where
  present _ := journaled.ordered.mem_order
  once := journaled.ordered.nodup
  parents _ _ found _ named := contains_iff.mpr (List.mem_map.mp
    (journaled.ordered.standing.contains_parent (node?_mem found) named))
  children := journaled.ordered.children_eq
  childrenOnce id := journaled.ordered.children_eq id ▸ journaled.ordered.nodup.filter _
  roots := journaled.ordered.roots.trans (journaled.ordered.filter_order _).symm
  rootsOnce := by
    rw [journaled.ordered.roots, ← journaled.ordered.filter_order]
    exact journaled.ordered.nodup.filter _
  acyclic id circle := by
    have rises : ∀ {low high}, Relation.TransGen (fun child parent => network.names parent child)
        low high → order.idxOf high < order.idxOf low := by
      intro low high chain
      induction chain with
      | single named => exact journaled.ordered.parent_first named
      | tail _ named hypothesis => exact Nat.lt_trans (journaled.ordered.parent_first named) hypothesis
    exact Nat.lt_irrefl _ (rises circle)
  closed _ pending _ member _ below := journaled.closed pending member below

/-- A node that is refused leaves the bench as it was. -/
theorem place_refused {share : Bool} {bench : Workbench} {failure : Failure}
    (refused : (result (Build.place node share) bench).1 = .error failure) :
    (result (Build.place node share) bench).2 = bench := by
  have ends : Ensures (Build.place node share) bench (fun _ _ => True)
      fun _ last => last = bench :=
    Build.ensures_place (fun _ _ => rfl) fun _ _ _ _ _ => trivial
  exact ends.of_error refused

/-- **Every arena that transactions can reach is well formed.** An attach that is refused or that
shares a node changes nothing, and a rollback leaves the arena that the open transaction began with,
closed. -/
theorem Transacted.wellFormed {base : Option Network} (run : Transacted order base network) :
    network.WellFormed order ∧
      (∀ node share attached after, network.attach node share = .ok (attached, after) →
        attached.shared = true → after = network) ∧
      (∀ node share bench failure, bench.builder.network = network →
        (result (Build.place node share) bench).1 = .error failure →
        (result (Build.place node share) bench).2.builder.network = network) ∧
      ∀ added, network.journal = some added →
        ∃ before, base = some before ∧ network.rollback = (added, { before with journal := none }) := by
  have journaled := run.journaled
  refine ⟨journaled.links_agree, fun _ _ _ _ answer shared => attach_shared answer shared,
    fun node share bench failure same refused => ?_, fun added pending => ?_⟩
  · rw [place_refused refused, same]
  · obtain ⟨before, _, same, _, _, back⟩ := journaled.undoes added pending
    exact ⟨before, same, back.rollback pending⟩

/-! ### A transaction opened inside another one -/

/-- A root, a type below it under a smaller id, and a join that reads the type twice over. -/
def nestedRoot : Node :=
  ⟨⟨5⟩, .entryPoint defaultEntryPoint, none, none, []⟩

def nestedType : Node :=
  ⟨⟨2⟩, .objectType (.fact "Person"), some ⟨5⟩, none, []⟩

def nestedJoin : Node :=
  ⟨⟨9⟩, .join [], some ⟨2⟩, some ⟨2⟩, []⟩

/-- The arena in which the second transaction begins, while the first one is open. -/
def nestedOuter : Network :=
  (empty.insert nestedRoot).begin.insert nestedType

/-- The links are in order, and rolling back takes out what the second transaction added. -/
theorem nested_wellFormed :
    let inner := nestedOuter.begin.insert nestedJoin
    Transacted [⟨5⟩, ⟨2⟩, ⟨9⟩] (some nestedOuter) inner ∧
      inner.WellFormed [⟨5⟩, ⟨2⟩, ⟨9⟩] ∧
      ∃ before, some nestedOuter = some before ∧
        inner.rollback = ([⟨9⟩], { before with journal := none }) := by
  intro inner
  have first : empty.attach nestedRoot true = .ok (⟨⟨5⟩, false⟩, empty.insert nestedRoot) := rfl
  have second : (empty.insert nestedRoot).begin.attach nestedType true =
      .ok (⟨⟨2⟩, false⟩, nestedOuter) := rfl
  have third : nestedOuter.begin.attach nestedJoin true = .ok (⟨⟨9⟩, false⟩, inner) := rfl
  have root : Transacted [⟨5⟩] none (empty.insert nestedRoot) := .attach .empty rfl first
  have type : Transacted [⟨5⟩, ⟨2⟩] (some (empty.insert nestedRoot)) nestedOuter :=
    .attach root.begin rfl second
  have run : Transacted [⟨5⟩, ⟨2⟩, ⟨9⟩] (some nestedOuter) inner := .attach type.begin rfl third
  obtain ⟨wellFormed, _, _, undone⟩ := run.wellFormed
  exact ⟨run, wellFormed, undone [⟨9⟩] rfl⟩

end Network

end RuleNet
