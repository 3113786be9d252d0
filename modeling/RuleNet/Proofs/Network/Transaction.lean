/-
**Transactions on the arena: what was added can be taken out without a trace.**

* `Tidy`: ids name one node each, a child list names nodes that name its owner as a parent, and the
  root list names nodes. An arena that nodes without children were added to stays tidy
  (`Tidy.insert`);
* `attach_cases`: everything that `attach` can answer;
* `detach_insert`: taking out the node that was added last gives back the list of nodes as it was,
  child lists included.
-/

import RuleNet.Network.Arena

namespace RuleNet

namespace Network

/-! ### Looking up nodes -/

theorem contains_iff {network : Network} {id : NodeId} :
    network.contains id = true ↔ ∃ node ∈ network.nodes, node.id = id := by
  simp [contains, node?]

theorem contains_eq_false {network : Network} {id : NodeId} :
    network.contains id = false ↔ ∀ node ∈ network.nodes, node.id ≠ id := by
  simp [contains, node?]

theorem node?_isSome {network : Network} {id : NodeId} (known : network.contains id = true) :
    ∃ node, network.node? id = some node :=
  Option.isSome_iff_exists.mp known

/-- Which ids are taken is read off the nodes. -/
theorem contains_of_nodes {first second : Network} (nodes : first.nodes = second.nodes)
    (id : NodeId) : first.contains id = second.contains id := by
  simp only [contains, node?, nodes]

theorem contains_of_node? {network : Network} {id : NodeId} {node : Node}
    (found : network.node? id = some node) : network.contains id = true := by
  rw [contains, found]
  rfl

/-- An insertion keeps the ids that were there, and adds one. -/
theorem contains_insert {network : Network} {node : Node} {id : NodeId} :
    (network.insert node).contains id = true ↔ id = node.id ∨ network.contains id = true := by
  have ids : ∀ other : Node,
      (if other.id ∈ node.parents then other.adopt node.id else other).id = other.id := by
    intro other
    split <;> simp
  simp only [contains_iff, insert, List.mem_cons, List.mem_map]
  constructor
  · rintro ⟨found, rfl | ⟨other, member, rfl⟩, named⟩
    · exact Or.inl named.symm
    · exact Or.inr ⟨other, member, by rw [← named, ids]⟩
  · rintro (rfl | ⟨other, member, named⟩)
    · exact ⟨node, Or.inl rfl, rfl⟩
    · exact ⟨_, Or.inr ⟨other, member, rfl⟩, by rw [ids, named]⟩

/-! ### Answers of an attach -/

/-- **Everything that an attach can answer.** -/
theorem attach_cases {network after : Network} {node : Node} {share : Bool} {attached : Attached}
    (answer : network.attach node share = .ok (attached, after)) :
    (network.contains node.id = true ∧ attached = ⟨node.id, true⟩ ∧ after = network) ∨
      (network.contains node.id = false ∧ share = true ∧
        network.equivalent? node = some attached.id ∧ attached.shared = true ∧ after = network) ∨
      (network.contains node.id = false ∧
        (∀ parent ∈ node.parents, network.contains parent = true) ∧
        attached = ⟨node.id, false⟩ ∧ after = network.insert node) := by
  unfold attach at answer
  by_cases known : network.contains node.id = true
  · rw [if_pos known] at answer
    cases answer
    exact Or.inl ⟨known, rfl, rfl⟩
  · rw [if_neg known] at answer
    have new : network.contains node.id = false := by simpa using known
    split at answer
    · cases answer
    · rename_i complete
      have parents : ∀ parent ∈ node.parents, network.contains parent = true := by
        simpa using complete
      split at answer
      · rename_i existing found
        cases answer
        cases share with
        | false => simp at found
        | true => exact Or.inr (Or.inl ⟨new, rfl, by simpa using found, rfl, rfl⟩)
      · cases answer
        exact Or.inr (Or.inr ⟨new, parents, rfl, rfl⟩)

/-- The node that stands in for another is in the arena. -/
theorem equivalent?_some {network : Network} {node : Node} {id : NodeId}
    (found : network.equivalent? node = some id) :
    ∃ existing, network.node? id = some existing ∧ existing.equivalent node = true := by
  have fits := List.find?_some found
  cases known : network.node? id with
  | none => simp [known] at fits
  | some existing => exact ⟨existing, rfl, by simpa [known] using fits⟩

/-! ### Tidy arenas -/

/-- **No two nodes have one id.** -/
def Distinct (network : Network) : Prop :=
  (network.nodes.map Node.id).Nodup

/-- **Ids name one node each, and every link leads to a node.** -/
structure Tidy (network : Network) : Prop where
  distinct : network.Distinct
  children : ∀ node ∈ network.nodes, ∀ id ∈ node.children,
    ∃ child ∈ network.nodes, child.id = id ∧ node.id ∈ child.parents
  roots : ∀ id ∈ network.roots, network.contains id = true

theorem tidy_empty : empty.Tidy := by
  constructor <;> simp [empty, Distinct]

/-- Among nodes with distinct ids, each is found under its own. -/
theorem find?_of_mem {nodes : List Node} (distinct : (nodes.map Node.id).Nodup) {node : Node}
    (member : node ∈ nodes) : nodes.find? (·.id = node.id) = some node := by
  induction nodes with
  | nil => simp at member
  | cons head rest hypothesis =>
    rw [List.map_cons, List.nodup_cons] at distinct
    rcases List.mem_cons.mp member with rfl | later
    · simp
    · have different : head.id ≠ node.id := fun same =>
        distinct.1 (same ▸ List.mem_map_of_mem later)
      simpa [different] using hypothesis distinct.2 later

theorem Tidy.node?_of_mem {network : Network} (tidy : network.Tidy) {node : Node}
    (member : node ∈ network.nodes) : network.node? node.id = some node :=
  find?_of_mem tidy.distinct member

/-- The node that another became when a child was added below it, or not. -/
def adopted (node other : Node) : Node :=
  if other.id ∈ node.parents then other.adopt node.id else other

@[simp] theorem id_adopted (node other : Node) : (adopted node other).id = other.id := by
  unfold adopted; split <;> simp

@[simp] theorem kind_adopted (node other : Node) : (adopted node other).kind = other.kind := by
  unfold adopted; split <;> simp

@[simp] theorem parents_adopted (node other : Node) :
    (adopted node other).parents = other.parents := by
  unfold adopted; split <;> simp

theorem nodes_insert (network : Network) (node : Node) :
    (network.insert node).nodes = node :: network.nodes.map (adopted node) := rfl

/-- A node under a new id is none of those in the arena. -/
theorem ne_of_contains {network : Network} {node : Node} {id : NodeId}
    (new : network.contains node.id = false) (known : network.contains id = true) :
    node.id ≠ id := by
  rintro rfl
  rw [new] at known
  cases known

/-- Where the nodes of an extended arena are found. -/
theorem node?_insert_other {network : Network} {node : Node} {id : NodeId}
    (different : node.id ≠ id) :
    (network.insert node).node? id = (network.node? id).map (adopted node) := by
  simp only [node?, nodes_insert, List.find?_cons, different, decide_false, List.find?_map]
  congr 2
  funext item
  simp

theorem node?_insert_self (network : Network) (node : Node) :
    (network.insert node).node? node.id = some node := by
  simp [node?, nodes_insert]

/-- Every child of an adopted node was one before, or is the new node and names it as a parent. -/
theorem mem_children_adopted {node other : Node} {id : NodeId}
    (member : id ∈ (adopted node other).children) :
    id ∈ other.children ∨ (id = node.id ∧ other.id ∈ node.parents) := by
  unfold adopted Node.adopt at member
  split at member
  · rename_i parent
    split at member
    · exact Or.inl member
    · rcases List.mem_append.mp member with earlier | new
      · exact Or.inl earlier
      · exact Or.inr ⟨List.mem_singleton.mp new, parent⟩
  · exact Or.inl member

/-- The ids stay distinct when a node under a new id is added. -/
theorem Distinct.insert {network : Network} (distinct : network.Distinct) {node : Node}
    (new : network.contains node.id = false) : (network.insert node).Distinct := by
  have unseen : node.id ∉ network.nodes.map Node.id := by
    intro listed
    obtain ⟨other, inside, same⟩ := List.mem_map.mp listed
    exact contains_eq_false.mp new other inside same
  have ids : (network.nodes.map (adopted node)).map Node.id = network.nodes.map Node.id := by
    simp
  rw [Distinct, nodes_insert, List.map_cons, ids]
  exact List.nodup_cons.mpr ⟨unseen, distinct⟩

/-- **A tidy arena stays tidy** when a node under a new id and without children is added. -/
theorem Tidy.insert {network : Network} (tidy : network.Tidy) {node : Node}
    (new : network.contains node.id = false) (childless : node.children = []) :
    (network.insert node).Tidy where
  distinct := tidy.distinct.insert new
  children := by
    rw [nodes_insert]
    intro parent member id listed
    rcases List.mem_cons.mp member with rfl | old
    · simp [childless] at listed
    · obtain ⟨other, inside, rfl⟩ := List.mem_map.mp old
      rcases mem_children_adopted listed with earlier | ⟨rfl, below⟩
      · obtain ⟨child, known, named, back⟩ := tidy.children other inside id earlier
        refine ⟨adopted node child, List.mem_cons_of_mem _ (List.mem_map_of_mem known), ?_, ?_⟩
        · rw [id_adopted, named]
        · rw [id_adopted, parents_adopted]
          exact back
      · exact ⟨node, List.mem_cons_self, rfl, by rw [id_adopted]; exact below⟩
  roots := by
    intro id listed
    rw [contains_insert]
    simp only [Network.insert] at listed
    split at listed
    · rcases List.mem_append.mp listed with earlier | last
      · exact Or.inr (tidy.roots id earlier)
      · exact Or.inl (List.mem_singleton.mp last)
    · exact Or.inr (tidy.roots id listed)

/-! ### Taking the last node out -/

/-- An adopter that loses the new child again is what it was. -/
theorem disown_adopted {node other : Node} (fresh : node.id ∉ other.children) :
    (if (adopted node other).id ∈ node.parents then (adopted node other).disown node.id
      else adopted node other) = other := by
  rw [id_adopted]
  by_cases parent : other.id ∈ node.parents
  · simp [adopted, parent, Node.disown_adopt fresh]
  · simp [adopted, parent]

/-- **Taking out the node that was added last restores the list of nodes.** -/
theorem detach_insert {network : Network} (tidy : network.Tidy) {node : Node}
    (new : network.contains node.id = false) :
    detach (network.insert node).nodes node.id = network.nodes := by
  have others := contains_eq_false.mp new
  have kept : (network.nodes.map (adopted node)).filter (fun other => other.id ≠ node.id) =
      network.nodes.map (adopted node) := by
    refine List.filter_eq_self.mpr fun other member => ?_
    obtain ⟨old, inside, rfl⟩ := List.mem_map.mp member
    simpa using others old inside
  have fresh : ∀ other ∈ network.nodes, node.id ∉ other.children := by
    intro other inside listed
    obtain ⟨child, known, named, _⟩ := tidy.children other inside node.id listed
    exact others child known named
  have rest : (node :: network.nodes.map (adopted node)).filter (fun other => other.id ≠ node.id) =
      network.nodes.map (adopted node) := by
    rw [List.filter_cons_of_neg (by simp), kept]
  rw [nodes_insert]
  simp only [detach, List.find?_cons, decide_true]
  rw [rest, List.map_map]
  refine (List.map_congr_left fun other inside => ?_).trans (List.map_id _)
  exact disown_adopted (fresh other inside)

end Network

end RuleNet
