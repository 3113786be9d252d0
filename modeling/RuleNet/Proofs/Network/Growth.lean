/-
**What a node that is added changes for the queries of the arena.**

The compiler looks at the arena through few queries: which nodes are there, which types a root is
narrowed to, the type a stream carries, the root of an object type, and the terminals.

* `Stacked`: parents stand behind their children, under smaller ids;
* `Extends`: the nodes that were there are there, with the same kinds and parents;
* `objectTypeNode?_insert`, `streamType?_insert`: what a new node changes for them;
* `objectTypeRoot_of_rooted`: **a chain of object parents is no longer than the network**, so
  climbing never ends early;
* `objectTypeRoot_mono`: what climbing has found is found in all that the network grows to;
* `terminals_eq`: the terminals stand in the order they were added.
-/

import RuleNet.Proofs.Build.Standard

namespace RuleNet

/-! ### Kinds by what they are found by -/

namespace NodeKind

/-- The type that a node narrows to. -/
def narrows? : NodeKind → Option ObjectType
  | objectType type => some type
  | _ => none

/-- The source that a node is the root of. -/
def source? : NodeKind → Option Source
  | entryPoint name => some (.entryPoint name)
  | stream name _ => some (.stream name)
  | _ => none

/-- The type that a stream's root was made with. -/
def carries? : NodeKind → Option ObjectType
  | stream _ type => some type
  | _ => none

/-- Only the root of an entry point is found by its name. -/
theorem eq_entryPoint {kind : NodeKind} {name : String}
    (root : kind.source? = some (.entryPoint name)) : kind = .entryPoint name := by
  cases kind <;> simp_all [source?]

/-- Only the root of a stream is found by its name. -/
theorem eq_stream {kind : NodeKind} {name : String} (root : kind.source? = some (.stream name)) :
    ∃ carried, kind = .stream name carried := by
  cases kind <;> simp_all [source?]

/-- Only a node of the type stands in for one of the type. -/
theorem eq_objectType {kind : NodeKind} {type : ObjectType}
    (same : kind.sharesWith (.objectType type) = true) : kind = .objectType type := by
  cases kind <;> simp_all [sharesWith]

/-- Only an adapter stands in for an adapter. -/
theorem eq_adapter {kind : NodeKind} (same : kind.sharesWith .adapter = true) :
    kind = .adapter := by
  cases kind <;> simp_all [sharesWith]

theorem narrows?_same {a b : NodeKind} (same : a.sharesWith b = true) :
    a.narrows? = b.narrows? := by
  cases a <;> cases b <;> simp_all [sharesWith, narrows?]

theorem isObjectTypeRoot_same {a b : NodeKind} (same : a.sharesWith b = true) :
    a.isObjectTypeRoot = b.isObjectTypeRoot := by
  cases a <;> cases b <;> simp_all [sharesWith, isObjectTypeRoot]

theorem isBeta_same {a b : NodeKind} (same : a.sharesWith b = true) : a.isBeta = b.isBeta := by
  cases a <;> cases b <;> simp_all [sharesWith, isBeta]

/-- Nothing stands in for a terminal. -/
theorem isTerminal_same {a b : NodeKind} (same : a.sharesWith b = true) : b.isTerminal = false := by
  cases a <;> cases b <;> simp_all [sharesWith, isTerminal]

end NodeKind

namespace Network

variable {network after : Network} {node : Node} {root id : NodeId}

/-! ### Queries by kind -/

theorem narrowedType?_eq (network : Network) (id : NodeId) :
    network.narrowedType? id = (network.node? id).bind fun node => node.kind.narrows? := by
  unfold narrowedType?
  cases network.node? id with
  | none => rfl
  | some node =>
    obtain ⟨own, kind, object, tuple, children⟩ := node
    cases kind <;> rfl

/-- The type that the root of a stream was made with. -/
def streamType? (network : Network) (root : NodeId) : Option ObjectType :=
  (network.node? root).bind fun node => node.kind.carries?

/-- A root is narrowed to a type if one of its children does that. -/
theorem objectTypeNode?_isSome (network : Network) (root : NodeId) (type : ObjectType) :
    (network.objectTypeNode? root type).isSome =
      (network.children root).any fun child => network.narrowedType? child = some type := by
  rw [Bool.eq_iff_iff, objectTypeNode?, List.find?_isSome, List.any_eq_true]
  simp only [objectTypeNodes, List.mem_filter, decide_eq_true_eq]
  constructor
  · rintro ⟨child, ⟨listed, _⟩, narrows⟩
    exact ⟨child, listed, narrows⟩
  · rintro ⟨child, listed, narrows⟩
    exact ⟨child, ⟨listed, by rw [narrows]; rfl⟩, narrows⟩

/-! ### A node that is added -/

section

variable (new : network.contains node.id = false)

include new

theorem narrowedType?_insert (known : network.contains id = true) :
    (network.insert node).narrowedType? id = network.narrowedType? id := by
  rw [narrowedType?_eq, narrowedType?_eq, node?_insert_other (ne_of_contains new known)]
  cases network.node? id <;> simp

theorem streamType?_insert (known : network.contains id = true) :
    (network.insert node).streamType? id = network.streamType? id := by
  rw [streamType?, streamType?, node?_insert_other (ne_of_contains new known)]
  cases network.node? id <;> simp

/-- **A new node is the last child of its parents**, and changes nothing else of the others. -/
theorem node?_insert (tidy : network.Tidy) (other : node.id ≠ id) :
    (network.insert node).node? id = (network.node? id).map fun owner =>
      { owner with children := owner.children ++ if id ∈ node.parents then [node.id] else [] } := by
  rw [node?_insert_other other]
  cases found : network.node? id with
  | none => rfl
  | some owner =>
    obtain rfl := node?_id found
    have unlisted : node.id ∉ owner.children := by
      intro listed
      obtain ⟨child, inside, same, _⟩ := tidy.children owner (node?_mem found) node.id listed
      exact contains_eq_false.mp new child inside same
    simp only [Option.map_some, adopted, Node.adopt, unlisted, if_false]
    split <;> simp

/-- A parent gains the new node as its last child. -/
theorem children_insert (tidy : network.Tidy) (known : network.contains id = true) :
    (network.insert node).children id =
      network.children id ++ if id ∈ node.parents then [node.id] else [] := by
  obtain ⟨owner, found⟩ := node?_isSome known
  unfold children
  rw [node?_insert new tidy (ne_of_contains new known), found]
  rfl

/-- **The types that a root is narrowed to**, with the new node. -/
theorem objectTypeNode?_insert (tidy : network.Tidy) (known : network.contains root = true)
    (type : ObjectType) :
    ((network.insert node).objectTypeNode? root type).isSome =
      ((network.objectTypeNode? root type).isSome ||
        (decide (node.kind.narrows? = some type) && decide (root ∈ node.parents))) := by
  have old : ∀ child ∈ network.children root,
      (network.insert node).narrowedType? child = network.narrowedType? child := by
    intro child listed
    obtain ⟨owner, found⟩ := node?_isSome known
    simp only [children, found] at listed
    obtain ⟨other, inside, rfl, _⟩ := tidy.children owner (node?_mem found) child listed
    exact narrowedType?_insert new (contains_iff.mpr ⟨other, inside, rfl⟩)
  have own : (network.insert node).narrowedType? node.id = node.kind.narrows? := by
    rw [narrowedType?_eq, node?_insert_self]
    rfl
  rw [objectTypeNode?_isSome, objectTypeNode?_isSome, children_insert new tidy known,
    List.any_append]
  congr 1
  · rw [Bool.eq_iff_iff, List.any_eq_true, List.any_eq_true]
    constructor
    · rintro ⟨child, listed, narrows⟩
      exact ⟨child, listed, by rw [← old child listed]; exact narrows⟩
    · rintro ⟨child, listed, narrows⟩
      exact ⟨child, listed, by rw [old child listed]; exact narrows⟩
  · by_cases parent : root ∈ node.parents <;> simp [parent, own]

end

/-! ### Parents stand behind -/

/-- **Parents stand behind their children**, and ids grow from node to node. -/
def Stacked : List Node → Prop
  | [] => True
  | node :: older =>
    (∀ other ∈ older, other.id.index < node.id.index) ∧
      (∀ parent ∈ node.parents, ∃ other ∈ older, other.id = parent) ∧ Stacked older

end Network

theorem Layered.stacked {nodes : List Node} (layered : Layered nodes) : Network.Stacked nodes := by
  induction nodes with
  | nil => trivial
  | cons node older hypothesis =>
    refine ⟨layered.1, fun parent named => ?_, hypothesis layered.2.2⟩
    obtain ⟨given, stream⟩ := layered.2.1.parent named
    exact mem_of_stream stream

namespace Network

variable {network after : Network} {node : Node} {root id : NodeId}

theorem Stacked.map_adopted {nodes : List Node} (stacked : Stacked nodes) (child : Node) :
    Stacked (nodes.map (adopted child)) := by
  induction nodes with
  | nil => trivial
  | cons node older hypothesis =>
    refine ⟨fun other member => ?_, fun parent named => ?_, hypothesis stacked.2.2⟩
    · obtain ⟨before, inside, rfl⟩ := List.mem_map.mp member
      rw [id_adopted, id_adopted]
      exact stacked.1 before inside
    · rw [parents_adopted] at named
      obtain ⟨other, inside, same⟩ := stacked.2.1 parent named
      exact ⟨adopted child other, List.mem_map_of_mem inside, by rw [id_adopted, same]⟩

/-- **A stacked arena stays stacked** when a node is added under a larger id below nodes of it. -/
theorem stacked_insert (stacked : Stacked network.nodes)
    (larger : ∀ other ∈ network.nodes, other.id.index < node.id.index)
    (parents : ∀ parent ∈ node.parents, network.contains parent = true) :
    Stacked (network.insert node).nodes := by
  rw [nodes_insert]
  refine ⟨fun other member => ?_, fun parent named => ?_, stacked.map_adopted node⟩
  · obtain ⟨before, inside, rfl⟩ := List.mem_map.mp member
    rw [id_adopted]
    exact larger before inside
  · obtain ⟨other, inside, same⟩ := contains_iff.mp (parents parent named)
    exact ⟨adopted node other, List.mem_map_of_mem inside, by rw [id_adopted, same]⟩

/-- A tail of a stacked arena is stacked. -/
theorem Stacked.of_suffix {whole nodes : List Node} (stacked : Stacked whole)
    (tail : nodes <:+ whole) : Stacked nodes := by
  induction whole with
  | nil => rwa [List.suffix_nil.mp tail]
  | cons node older hypothesis =>
    rcases List.suffix_cons_iff.mp tail with rfl | later
    · exact stacked
    · exact hypothesis stacked.2.2 later

theorem Stacked.distinct {nodes : List Node} (stacked : Stacked nodes) :
    (nodes.map Node.id).Nodup := by
  induction nodes with
  | nil => exact List.nodup_nil
  | cons node older hypothesis =>
    rw [List.map_cons, List.nodup_cons]
    refine ⟨fun listed => ?_, hypothesis stacked.2.2⟩
    obtain ⟨other, member, same⟩ := List.mem_map.mp listed
    have smaller := stacked.1 other member
    rw [same] at smaller
    exact Nat.lt_irrefl _ smaller

/-- Parents have smaller ids than their children. -/
theorem Stacked.parent_lt {nodes : List Node} (stacked : Stacked nodes) (member : node ∈ nodes)
    {parent : NodeId} (named : parent ∈ node.parents) : parent.index < node.id.index := by
  induction nodes with
  | nil => cases member
  | cons newest older hypothesis =>
    rcases List.mem_cons.mp member with rfl | later
    · obtain ⟨other, standing, rfl⟩ := stacked.2.1 parent named
      exact stacked.1 other standing
    · exact hypothesis stacked.2.2 later

/-! ### Roots of object types -/

/-- Climbing from the node ends at a node with a known object type, after some steps. -/
def Rooted (network : Network) (id : NodeId) : Prop :=
  ∃ steps, (network.climb steps id).isSome

/-- **With more steps, and in a network that grows, a climb ends where it did.** -/
theorem climb_mono {steps more : Nat} (reached : network.climb steps id = some root)
    (wider : network.Extends after) (enough : steps ≤ more) : after.climb more id = some root := by
  induction steps generalizing id more with
  | zero => cases reached
  | succ steps hypothesis =>
    obtain ⟨more, rfl⟩ := Nat.exists_eq_add_of_le' enough
    rw [← Nat.add_assoc, climb]
    rw [climb] at reached
    cases found : network.node? id with
    | none => simp [found] at reached
    | some node =>
      obtain ⟨children, there⟩ := wider.nodes id node found
      simp only [found, there] at reached ⊢
      split
      · rename_i typed
        simpa [typed] using reached
      · rename_i untyped
        rw [if_neg untyped] at reached
        cases above : node.objectParent with
        | none => simp [above] at reached
        | some parent =>
          simp only [above] at reached ⊢
          exact hypothesis reached (Nat.le_add_left _ _)

/-- More steps lead as far. -/
theorem climb_succ {steps : Nat} (reached : (network.climb steps id).isSome) :
    (network.climb (steps + 1) id).isSome := by
  obtain ⟨root, arrived⟩ := Option.isSome_iff_exists.mp reached
  rw [climb_mono arrived (.refl network) (Nat.le_succ steps), Option.isSome_some]

/-- A climb ends at a node with a known object type. -/
theorem climb_typed {steps : Nat} (reached : network.climb steps id = some root) :
    ∃ node, network.node? root = some node ∧ node.kind.isObjectTypeRoot = true := by
  induction steps generalizing id with
  | zero => cases reached
  | succ steps hypothesis =>
    rw [climb] at reached
    split at reached
    · cases reached
    · rename_i node found
      split at reached
      · rename_i typed
        cases reached
        exact ⟨node, found, typed⟩
      · split at reached
        · exact hypothesis reached
        · cases reached

theorem rooted_of_kind (found : network.node? id = some node)
    (typed : node.kind.isObjectTypeRoot = true) : network.Rooted id :=
  ⟨1, by rw [climb, found]; simp [typed]⟩

theorem rooted_of_parent {parent : NodeId} (found : network.node? id = some node)
    (above : node.objectParent = some parent) (rooted : network.Rooted parent) :
    network.Rooted id := by
  obtain ⟨steps, reached⟩ := rooted
  refine ⟨steps + 1, ?_⟩
  rw [climb, found]
  simp only [above]
  split
  · rfl
  · exact reached

theorem Rooted.contains (rooted : network.Rooted id) : network.contains id = true := by
  obtain ⟨steps, reached⟩ := rooted
  cases steps with
  | zero => cases reached
  | succ steps =>
    rw [climb] at reached
    split at reached
    · cases reached
    · rename_i node found
      exact contains_of_node? found

/-- What is behind a rooted node without a known type is rooted. -/
theorem Rooted.parent (rooted : network.Rooted id) (found : network.node? id = some node)
    (untyped : node.kind.isObjectTypeRoot = false) :
    ∃ parent, node.objectParent = some parent ∧ network.Rooted parent := by
  obtain ⟨steps, reached⟩ := rooted
  cases steps with
  | zero => cases reached
  | succ steps =>
    rw [climb, found] at reached
    simp only [untyped, Bool.false_eq_true, if_false] at reached
    split at reached
    · rename_i parent above
      exact ⟨parent, above, steps, reached⟩
    · cases reached

/-- Nodes keep their roots in a network that grows. -/
theorem Rooted.mono (rooted : network.Rooted id) (wider : network.Extends after) :
    after.Rooted id := by
  obtain ⟨steps, reached⟩ := rooted
  obtain ⟨root, arrived⟩ := Option.isSome_iff_exists.mp reached
  exact ⟨steps, by rw [climb_mono arrived wider (Nat.le_refl steps), Option.isSome_some]⟩

/-- **The chain above a node of a tail stays in the tail**, so it is no longer than that. -/
theorem climb_suffix (stacked : Stacked network.nodes) {nodes : List Node}
    (tail : nodes <:+ network.nodes) (rooted : network.Rooted node.id) (member : node ∈ nodes) :
    (network.climb nodes.length node.id).isSome := by
  induction nodes generalizing node with
  | nil => cases member
  | cons newest older hypothesis =>
    have inside : older <:+ network.nodes := (List.suffix_cons newest older).trans tail
    have behind : ∀ {other : Node}, network.Rooted other.id → other ∈ older →
        (network.climb older.length other.id).isSome := fun rooted member =>
      hypothesis inside rooted member
    rw [List.length_cons]
    -- one step leads from the newest node into the rest of the tail, where the induction goes on
    rcases List.mem_cons.mp member with rfl | earlier
    · have found : network.node? node.id = some node :=
        find?_of_mem stacked.distinct (tail.subset member)
      cases typed : node.kind.isObjectTypeRoot with
      | true => rw [climb, found]; simp [typed]
      | false =>
        obtain ⟨parent, above, higher⟩ := rooted.parent found typed
        obtain ⟨other, standing, rfl⟩ :=
          (stacked.of_suffix tail).2.1 parent (by simp [Node.parents, above])
        rw [climb, found]
        simp only [typed, above, Bool.false_eq_true, if_false]
        exact behind higher standing
    · exact climb_succ (behind rooted earlier)

/-- **Climbing never ends early.** -/
theorem objectTypeRoot_of_rooted (stacked : Stacked network.nodes) (rooted : network.Rooted id) :
    ∃ root, network.objectTypeRoot id = some root := by
  obtain ⟨node, member, rfl⟩ := contains_iff.mp rooted.contains
  exact Option.isSome_iff_exists.mp
    (climb_succ (climb_suffix stacked (List.suffix_refl _) rooted member))

/-- **In a network that grows, the typed node above a node stays the same.** -/
theorem objectTypeRoot_mono (reached : network.objectTypeRoot id = some root)
    (wider : network.Extends after) (stacked : Stacked after.nodes) :
    after.objectTypeRoot id = some root := by
  have there := climb_mono reached wider (Nat.le_refl (network.size + 1))
  obtain ⟨again, arrives⟩ := objectTypeRoot_of_rooted stacked
    ⟨network.size + 1, by rw [there, Option.isSome_some]⟩
  -- both climbs go on to the longer of the two
  have one := climb_mono there (.refl after) (Nat.le_max_left _ (after.size + 1))
  have other := climb_mono arrives (.refl after) (Nat.le_max_right (network.size + 1) _)
  rw [arrives, ← one, ← other]

/-! ### Terminals -/

/-- The terminals, oldest first. -/
def terminalsMade (network : Network) : List NodeId :=
  ((network.nodes.filter fun node => node.kind.isTerminal).map Node.id).reverse

theorem terminalsMade_insert (network : Network) (node : Node) :
    (network.insert node).terminalsMade =
      network.terminalsMade ++ if node.kind.isTerminal then [node.id] else [] := by
  have old : ((network.nodes.map (adopted node)).filter fun node => node.kind.isTerminal).map
      Node.id = (network.nodes.filter fun node => node.kind.isTerminal).map Node.id := by
    rw [List.filter_map, List.map_map]
    simp only [Function.comp_def, id_adopted, kind_adopted]
  rw [terminalsMade, nodes_insert, List.filter_cons]
  split
  · rw [List.map_cons, List.reverse_cons, old]
    rfl
  · rw [old, List.append_nil]
    rfl

/-- Ids grow in the order in which nodes were added. -/
theorem Stacked.rising {nodes : List Node} (stacked : Stacked nodes) :
    nodes.reverse.Pairwise fun a b => a.id.index < b.id.index := by
  rw [List.pairwise_reverse]
  induction nodes with
  | nil => exact List.Pairwise.nil
  | cons node older hypothesis =>
    exact List.pairwise_cons.mpr ⟨fun other member => stacked.1 other member,
      hypothesis stacked.2.2⟩

/-- **The order of the ids is that in which nodes were added.** -/
theorem byId_eq (stacked : Stacked network.nodes) : network.byId = network.nodes.reverse := by
  have ordered := stacked.rising
  have sorted : (network.byId).Pairwise fun a b => (decide (a.id.index ≤ b.id.index)) = true :=
    List.pairwise_mergeSort (fun a b c first second => by simp_all; omega)
      (fun a b => by simp; omega) _
  have same : network.byId.Perm network.nodes.reverse :=
    (List.mergeSort_perm _ _).trans (List.reverse_perm _).symm
  refine same.eq_of_pairwise ?_ sorted (ordered.imp fun smaller => by simp; omega)
  intro a b listed member first second
  have equal : a.id.index = b.id.index := by
    simp only [decide_eq_true_eq] at first second
    omega
  have here : a ∈ network.nodes := List.mem_reverse.mp (same.mem_iff.mp listed)
  have there : b ∈ network.nodes := List.mem_reverse.mp member
  have ids : a.id = b.id := by
    cases one : a.id
    cases other : b.id
    rw [one, other] at equal
    exact congrArg NodeId.mk equal
  have found := find?_of_mem stacked.distinct here
  rw [ids, find?_of_mem stacked.distinct there] at found
  exact (Option.some.inj found).symm

/-- **The terminals stand in the order they were added.** -/
theorem terminals_eq (stacked : Stacked network.nodes) :
    network.terminals = network.terminalsMade := by
  rw [terminals, byId_eq stacked, terminalsMade, List.filter_reverse, List.map_reverse]

/-- The ids of the terminals grow. -/
theorem terminals_rising (stacked : Stacked network.nodes) :
    network.terminals.Pairwise fun a b => a.index < b.index := by
  rw [terminals, byId_eq stacked, List.pairwise_map]
  exact stacked.rising.filter _

end Network

end RuleNet
