/-
**Climbing along object parents, with a bound and without one.**

A node inherits its object type from the nearest node above it that has one. The climb there takes
at most one step more than there are nodes; the bound is never what ends it.

* `Reachable`: the arenas that can be reached, whatever nodes are attached;
* `Climbs`: the climb without a bound, as a relation;
* `Chain`: all that stands above a node along object parents, whether a climb goes that far or not;
* `Standing.chain`: **every node has a chain, which fits into the nodes behind it**: a parent stands
  behind its child, so no node comes twice;
* `Reachable.climb_unbounded`: **the bounded climb is the unbounded one.**
-/

import RuleNet.Proofs.Network.WellFormed

namespace RuleNet

namespace Network

variable {network : Network} {id : NodeId}

/-! ### Arenas -/

/-- **The arenas that can be reached.** Any node may be attached, and a rollback may come whether a
transaction is open or not. An attach that is refused is no step. -/
inductive Reachable : Network → Prop
  | empty : Reachable .empty
  | attach {network after : Network} {node : Node} {share : Bool} {attached : Attached}
      (run : Reachable network) (answer : network.attach node share = .ok (attached, after)) :
      Reachable after
  | begin {network : Network} (run : Reachable network) : Reachable network.begin
  | commit {network : Network} (run : Reachable network) : Reachable network.commit
  | rollback {network : Network} (run : Reachable network) : Reachable network.rollback.2

/-- **What every step keeps.** An open transaction remembers the newest nodes, so that a rollback
takes them from the front. -/
structure Steady (network : Network) : Prop where
  standing : Standing network.nodes
  newest : ∀ added, network.journal = some added →
    added.reverse <+: network.nodes.map Node.id

/-- Taking out the newest node keeps the rest in place. -/
theorem detach_newest {node : Node} {older : List Node} (standing : Standing (node :: older)) :
    detach (node :: older) node.id =
      older.map fun other => if other.id ∈ node.parents then other.disown node.id else other := by
  have kept : (older.filter fun other => other.id ≠ node.id) = older :=
    List.filter_eq_self.mpr fun other member => decide_eq_true fun same =>
      standing.1 (same ▸ List.mem_map_of_mem member)
  have first : (node :: older).find? (·.id = node.id) = some node := by simp
  have left : ((node :: older).filter fun other => other.id ≠ node.id) = older := by
    rw [List.filter_cons_of_neg (by simp), kept]
  simp only [detach, first, left]

/-- **Taking out the newest nodes, one after the other, keeps the order of the others.** -/
theorem Standing.foldl_detach {ids : List NodeId} {nodes : List Node} (standing : Standing nodes)
    (newest : ids <+: nodes.map Node.id) : Standing (ids.foldl detach nodes) := by
  induction ids generalizing nodes with
  | nil => exact standing
  | cons id later hypothesis =>
    cases nodes with
    | nil => cases List.prefix_nil.mp newest
    | cons node older =>
      obtain ⟨rfl, rest⟩ := List.cons_prefix_cons.mp newest
      have keeps : ∀ other : Node,
          (if other.id ∈ node.parents then other.disown node.id else other).id = other.id ∧
            (if other.id ∈ node.parents then other.disown node.id else other).parents =
              other.parents := by
        intro other
        split <;> exact ⟨rfl, rfl⟩
      rw [List.foldl_cons, detach_newest standing]
      refine hypothesis (standing.2.2.map (fun other => (keeps other).1) fun other =>
        (keeps other).2) ?_
      rw [List.map_map]
      exact (List.map_congr_left fun other _ => (keeps other).1) ▸ rest

/-- A new node comes to the front, of the nodes and of the transaction. -/
theorem Steady.insert {node : Node} (steady : network.Steady)
    (new : network.contains node.id = false)
    (parents : ∀ parent ∈ node.parents, network.contains parent = true) :
    (network.insert node).Steady := by
  have ids : (network.nodes.map (adopted node)).map Node.id = network.nodes.map Node.id := by simp
  refine ⟨steady.standing.insert new parents, fun added journaled => ?_⟩
  obtain ⟨before, pending, rfl⟩ := Option.map_eq_some_iff.mp journaled
  rw [nodes_insert, List.map_cons, ids, List.reverse_append]
  exact List.cons_prefix_cons.mpr ⟨rfl, steady.newest before pending⟩

theorem Steady.rollback (steady : network.Steady) : network.rollback.2.Steady := by
  cases journaled : network.journal with
  | none =>
    have idle : network.rollback = ([], network) := by simp only [Network.rollback, journaled]
    rwa [idle]
  | some added =>
    have back : network.rollback.2.nodes = added.reverse.foldl detach network.nodes ∧
        network.rollback.2.journal = none := by simp only [Network.rollback, journaled, and_self]
    refine ⟨?_, fun added pending => ?_⟩
    · rw [back.1]
      exact steady.standing.foldl_detach (steady.newest added journaled)
    · rw [back.2] at pending
      cases pending

/-- **Every arena that can be reached is in order.** -/
theorem Reachable.steady (run : network.Reachable) : network.Steady := by
  induction run with
  | empty => exact ⟨trivial, fun _ journaled => nomatch journaled⟩
  | attach _ answer hypothesis =>
    rcases attach_cases answer with ⟨_, _, rfl⟩ | ⟨_, _, _, _, rfl⟩ | ⟨new, parents, _, rfl⟩
    · exact hypothesis
    · exact hypothesis
    · exact hypothesis.insert new parents
  | begin _ hypothesis =>
    refine ⟨hypothesis.standing, fun added journaled => ?_⟩
    cases journaled
    exact List.nil_prefix
  | commit _ hypothesis => exact ⟨hypothesis.standing, fun _ journaled => nomatch journaled⟩
  | rollback _ hypothesis => exact hypothesis.rollback

/-! ### Climbs and chains -/

/-- The objects of the node under an id have a known type. -/
def typedAt (network : Network) (id : NodeId) : Bool :=
  (network.node? id).any fun node => node.kind.isObjectTypeRoot

/-- **The climb without a bound**, with its answer. An arena with a circle would have nodes without
one. -/
inductive Climbs (network : Network) : NodeId → Option NodeId → Prop
  | absent {id : NodeId} (missing : network.node? id = none) : Climbs network id none
  | arrives {id : NodeId} {node : Node} (found : network.node? id = some node)
      (typed : node.kind.isObjectTypeRoot = true) : Climbs network id (some id)
  | ends {id : NodeId} {node : Node} (found : network.node? id = some node)
      (untyped : node.kind.isObjectTypeRoot = false) (last : node.objectParent = none) :
      Climbs network id none
  | goes {id parent : NodeId} {node : Node} {answer : Option NodeId}
      (found : network.node? id = some node) (untyped : node.kind.isObjectTypeRoot = false)
      (above : node.objectParent = some parent) (higher : Climbs network parent answer) :
      Climbs network id answer

/-- **A node and all that stands above it along object parents**, up to one without an object
parent. -/
inductive Chain (network : Network) : NodeId → List NodeId → Prop
  | top {id : NodeId} {node : Node} (found : network.node? id = some node)
      (last : node.objectParent = none) : Chain network id [id]
  | up {id parent : NodeId} {node : Node} {higher : List NodeId}
      (found : network.node? id = some node) (above : node.objectParent = some parent)
      (rest : Chain network parent higher) : Chain network id (id :: higher)

/-- **A climb has one answer.** -/
theorem Climbs.unique {first second : Option NodeId} (one : network.Climbs id first)
    (other : network.Climbs id second) : first = second := by
  induction one with
  | absent missing => cases other <;> simp_all
  | arrives found typed => cases other <;> simp_all
  | ends found untyped last => cases other <;> simp_all
  | goes found untyped above _ hypothesis =>
    cases other with
    | goes again _ beyond higher =>
      cases found.symm.trans again
      cases above.symm.trans beyond
      exact hypothesis higher
    | absent missing => cases found.symm.trans missing
    | arrives again typed =>
      cases found.symm.trans again
      cases untyped.symm.trans typed
    | ends again _ last =>
      cases found.symm.trans again
      cases above.symm.trans last

theorem typedAt_of_node? {node : Node} (found : network.node? id = some node) :
    network.typedAt id = node.kind.isObjectTypeRoot := by
  rw [typedAt, found]
  rfl

/-- **Without a bound, the climb ends at the first node of the chain with a type.** -/
theorem Chain.climbs {chain : List NodeId} (above : network.Chain id chain) :
    network.Climbs id (chain.find? network.typedAt) := by
  induction above with
  | top found last =>
    have typed := typedAt_of_node? found
    rw [List.find?_cons]
    split <;> rename_i kind
    · exact .arrives found (typed.symm.trans kind)
    · exact .ends found (typed.symm.trans kind) last
  | up found parent _ hypothesis =>
    have typed := typedAt_of_node? found
    rw [List.find?_cons]
    split <;> rename_i kind
    · exact .arrives found (typed.symm.trans kind)
    · exact .goes found (typed.symm.trans kind) parent hypothesis

/-- **With a bound as well**, if the chain is no longer than that. -/
theorem Chain.climb {chain : List NodeId} {steps : Nat} (above : network.Chain id chain)
    (enough : chain.length ≤ steps) :
    network.climb steps id = chain.find? network.typedAt := by
  induction above generalizing steps with
  | top found last =>
    obtain ⟨steps, rfl⟩ := Nat.exists_eq_add_of_le' enough
    rw [List.length_singleton, Network.climb, found, List.find?_cons, typedAt_of_node? found]
    simp only [last, List.find?_nil]
    split <;> simp_all
  | up found parent _ hypothesis =>
    obtain ⟨steps, rfl⟩ := Nat.exists_eq_add_of_le' enough
    rw [List.length_cons, ← Nat.add_assoc, Network.climb, found, List.find?_cons,
      typedAt_of_node? found]
    simp only [parent, hypothesis (Nat.le_add_left _ steps)]
    split <;> simp_all

/-- **A chain fits into the nodes**, none of which it visits twice: the object parent of a node
stands behind it. -/
theorem Standing.chain (whole : Standing network.nodes) {node : Node} {nodes : List Node}
    (tail : nodes <:+ network.nodes) (standing : Standing nodes) (member : node ∈ nodes) :
    ∃ chain, network.Chain node.id chain ∧ chain.Sublist (nodes.map Node.id) := by
  induction nodes generalizing node with
  | nil => cases member
  | cons newest older hypothesis =>
    have inside : older <:+ network.nodes := (List.suffix_cons newest older).trans tail
    rcases List.mem_cons.mp member with rfl | earlier
    · have found : network.node? node.id = some node :=
        find?_of_mem whole.distinct (tail.subset member)
      cases parent : node.objectParent with
      | none => exact ⟨_, .top found parent, List.Sublist.cons_cons _ (List.nil_sublist _)⟩
      | some above =>
        have named : above ∈ node.parents := by simp [Node.parents, parent]
        obtain ⟨other, behind, rfl⟩ := List.mem_map.mp (standing.2.1 above named)
        obtain ⟨chain, rest, fits⟩ := hypothesis inside standing.2.2 behind
        exact ⟨_, .up found parent rest, fits.cons_cons _⟩
    · obtain ⟨chain, above, fits⟩ := hypothesis inside standing.2.2 earlier
      exact ⟨chain, above, fits.cons _⟩

/-- A node that is not there has no climb to make. -/
theorem climb_absent (missing : network.node? id = none) (steps : Nat) :
    network.climb steps id = none := by
  cases steps with
  | zero => rfl
  | succ steps => rw [climb, missing]

/-- **The bounded climb is the unbounded one**, in every arena that can be reached. It ends at the
first node of the chain with a type, if there is one, and a bound as small as the number of nodes
would change nothing. -/
theorem Reachable.climb_unbounded (run : network.Reachable) (id : NodeId) :
    (∀ answer, network.Climbs id answer ↔ network.objectTypeRoot id = answer) ∧
      (∀ steps, network.size ≤ steps → network.climb steps id = network.objectTypeRoot id) ∧
      (network.contains id = false ∧ network.objectTypeRoot id = none ∨
        ∃ chain, network.Chain id chain ∧ chain.Nodup ∧ chain.length ≤ network.size ∧
          network.objectTypeRoot id = chain.find? network.typedAt) := by
  have standing := run.steady.standing
  cases found : network.node? id with
  | none =>
    have nowhere := climb_absent found
    have answered : network.objectTypeRoot id = none := nowhere (network.size + 1)
    refine ⟨fun answer => ⟨fun climbs => ?_, ?_⟩, fun steps _ => ?_, .inl ⟨?_, answered⟩⟩
    · exact answered.trans ((Climbs.absent found).unique climbs)
    · rintro rfl
      rw [answered]
      exact .absent found
    · exact (nowhere steps).trans answered.symm
    · rw [contains, found]
      rfl
  | some node =>
    obtain ⟨chain, above, fits⟩ :=
      standing.chain (List.suffix_refl _) standing (node?_mem found)
    rw [node?_id found] at above
    have short : chain.length ≤ network.size :=
      Nat.le_trans fits.length_le (Nat.le_of_eq (List.length_map _))
    have bounded : network.objectTypeRoot id = chain.find? network.typedAt :=
      above.climb (Nat.le_succ_of_le short)
    refine ⟨fun answer => ⟨fun climbs => ?_, ?_⟩, fun steps enough => ?_,
      .inr ⟨chain, above, fits.nodup standing.distinct, short, bounded⟩⟩
    · exact bounded.trans (above.climbs.unique climbs)
    · rintro rfl
      exact bounded ▸ above.climbs
    · exact (above.climb (Nat.le_trans short enough)).trans bounded.symm

/-- The join climbs to the type above it, the root has none, and after a rollback the join is gone. -/
theorem nested_climbs :
    let inner := nestedOuter.begin.insert nestedJoin
    (Reachable inner ∧ inner.objectTypeRoot ⟨9⟩ = some ⟨2⟩ ∧ inner.objectTypeRoot ⟨5⟩ = none) ∧
      inner.Climbs ⟨9⟩ (some ⟨2⟩) ∧ inner.Climbs ⟨5⟩ none ∧
      Reachable inner.rollback.2 ∧ inner.rollback.2.Climbs ⟨9⟩ none := by
  intro inner
  have first : empty.attach nestedRoot true = .ok (⟨⟨5⟩, false⟩, empty.insert nestedRoot) := rfl
  have second : (empty.insert nestedRoot).begin.attach nestedType true =
      .ok (⟨⟨2⟩, false⟩, nestedOuter) := rfl
  have third : nestedOuter.begin.attach nestedJoin true = .ok (⟨⟨9⟩, false⟩, inner) := rfl
  have outer : Reachable nestedOuter := .attach (.begin (.attach .empty first)) second
  have run : Reachable inner := .attach outer.begin third
  have join : inner.objectTypeRoot ⟨9⟩ = some ⟨2⟩ := by decide
  have root : inner.objectTypeRoot ⟨5⟩ = none := by decide
  have gone : inner.rollback.2.objectTypeRoot ⟨9⟩ = none := by decide
  exact ⟨⟨run, join, root⟩, ((run.climb_unbounded ⟨9⟩).1 _).mpr join,
    ((run.climb_unbounded ⟨5⟩).1 _).mpr root, run.rollback,
    ((run.rollback.climb_unbounded ⟨9⟩).1 _).mpr gone⟩

end Network

end RuleNet
