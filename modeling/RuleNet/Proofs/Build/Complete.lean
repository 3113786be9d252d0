/-
**Nothing that could be shared is overlooked.**

A request looks for a node to share among the children of one parent only, and the root of a source
is looked up by name. That is enough, because the child lists and the registries are complete.

* `Network.Listed`: every node is listed by each of its parents;
* `Network.Alone`: no two nodes of a kind that is shared can stand in for each other;
* `Builder.Complete`: the lists and the registries are complete, and no node that could have been
  shared was made twice. A new node keeps this up (`Complete.insert`), and so does a new root with
  its name (`Complete.root`);
* `complete_steady`: every step of the compiler keeps it, whether it succeeds or fails.
-/

import RuleNet.Proofs.Build.Linked
import RuleNet.Proofs.Network.SharingKey

namespace RuleNet

open Stateful

/-! ### Kinds that are shared -/

namespace NodeKind

/-- **Nodes of the kind are shared** where the configuration says so. Sources and types always are,
terminals never. -/
def shareable (config : BuildConfig) : NodeKind → Bool
  | entryPoint _ | stream _ _ | objectType _ => true
  | alpha _ _ => config.shareAlpha
  | adapter | join _ | existential _ _ | accumulate _ _ _ | invoker _ _ _ => config.shareBeta
  | terminal _ => false

theorem shareable_same {a b : NodeKind} (same : a.sharesWith b = true) (config : BuildConfig) :
    a.shareable config = b.shareable config := by
  cases a <;> cases b <;> simp_all [sharesWith, shareable]

theorem source?_same {a b : NodeKind} (same : a.sharesWith b = true) : a.source? = b.source? := by
  cases a <;> cases b <;> simp_all [sharesWith, source?]

theorem isRoot_eq (kind : NodeKind) : kind.isRoot = kind.source?.isSome := by
  cases kind <;> rfl

end NodeKind

namespace Builder

variable {kind : NodeKind} {tuple object : Option NodeId} {share : Builder → Bool}

/-- What the compiler asks for is shared as the configuration says of its kind. -/
theorem Asks.share_eq (asks : Asks kind tuple object share) (builder : Builder) :
    share builder = kind.shareable builder.config := by
  cases asks with
  | beta extending => cases kind <;> simp_all [NodeKind.isBeta, NodeKind.shareable]
  | _ => rfl

theorem Asks.source? (asks : Asks kind tuple object share) : kind.source? = none := by
  cases asks with
  | beta extending => cases kind <;> simp_all [NodeKind.isBeta, NodeKind.source?]
  | _ => rfl

/-- What the compiler asks for has a parent. -/
theorem Asks.parent (asks : Asks kind tuple object share) : (tuple.or object).isSome = true := by
  cases asks <;> rfl

/-- Nodes that narrow to a type read no tuples. -/
theorem Asks.alone (asks : Asks kind tuple object share) (narrows : kind.narrows? ≠ none) :
    tuple = none := by
  cases asks with
  | beta extending => cases kind <;> simp_all [NodeKind.isBeta, NodeKind.narrows?]
  | terminal => simp [NodeKind.narrows?] at narrows
  | _ => rfl

end Builder

/-! ### Complete child lists -/

namespace Network

variable {network after : Network} {node : Node}

/-- **Every node is listed by each of its parents.** -/
def Listed (network : Network) : Prop :=
  ∀ node ∈ network.nodes, ∀ parent ∈ node.parents, node.id ∈ network.children parent

/-- **No two nodes of a kind that is shared can stand in for each other.** -/
def Alone (config : BuildConfig) (network : Network) : Prop :=
  ∀ a ∈ network.nodes, ∀ b ∈ network.nodes, a ≠ b → a.kind.shareable config = true →
    a.equivalent b = false

theorem equivalent_adopted_left (node a b : Node) :
    (adopted node a).equivalent b = a.equivalent b := by
  unfold adopted Node.adopt
  repeat' split
  all_goals rfl

theorem equivalent_adopted_right (node a b : Node) :
    a.equivalent (adopted node b) = a.equivalent b := by
  rw [Node.equivalent_comm, equivalent_adopted_left, Node.equivalent_comm]

/-- A new node is listed by its parents. -/
theorem Listed.insert (listed : network.Listed) (tidy : network.Tidy)
    (new : network.contains node.id = false)
    (parents : ∀ parent ∈ node.parents, network.contains parent = true) :
    (network.insert node).Listed := by
  intro child member parent named
  rw [nodes_insert] at member
  rcases List.mem_cons.mp member with rfl | old
  · rw [children_insert new tidy (parents parent named), if_pos named]
    exact List.mem_append_right _ (List.mem_singleton.mpr rfl)
  · obtain ⟨before, inside, rfl⟩ := List.mem_map.mp old
    rw [parents_adopted] at named
    have earlier := listed before inside parent named
    have known : network.contains parent = true := by
      cases found : network.node? parent with
      | none => simp [children, found] at earlier
      | some owner => exact contains_of_node? found
    rw [children_insert new tidy known, id_adopted]
    exact List.mem_append_left _ earlier

/-- **A new node that no other can stand in for** leaves every node alone. -/
theorem Alone.insert {config : BuildConfig} (alone : network.Alone config)
    (first : node.kind.shareable config = true →
      ∀ other ∈ network.nodes, other.equivalent node = false) :
    (network.insert node).Alone config := by
  have apart : ∀ other ∈ network.nodes,
      node.kind.shareable config = true ∨ other.kind.shareable config = true →
        other.equivalent node = false := by
    intro other inside shared
    cases same : other.equivalent node with
    | false => rfl
    | true =>
      have kinds := NodeKind.shareable_same ((Node.equivalent_iff _ _).mp same).2 config
      have ready : node.kind.shareable config = true := by
        rcases shared with own | its
        · exact own
        · exact kinds ▸ its
      exact same.symm.trans (first ready other inside)
  intro a here b there different shared
  rw [nodes_insert] at here there
  rcases List.mem_cons.mp here with rfl | left <;> rcases List.mem_cons.mp there with rfl | right
  · exact absurd rfl different
  · obtain ⟨before, inside, rfl⟩ := List.mem_map.mp right
    rw [equivalent_adopted_right, Node.equivalent_comm]
    exact apart before inside (Or.inl shared)
  · obtain ⟨before, inside, rfl⟩ := List.mem_map.mp left
    rw [kind_adopted] at shared
    rw [equivalent_adopted_left]
    exact apart before inside (Or.inr shared)
  · obtain ⟨first, inside, rfl⟩ := List.mem_map.mp left
    obtain ⟨second, within, rfl⟩ := List.mem_map.mp right
    rw [kind_adopted] at shared
    rw [equivalent_adopted_left, equivalent_adopted_right]
    exact alone first inside second within (fun same => different (by rw [same])) shared

/-- **The siblings of a node are all that can stand in for it**, if it has a parent. -/
theorem equivalent?_none (listed : network.Listed) (tidy : network.Tidy)
    (parent : (node.tupleParent.or node.objectParent).isSome = true)
    (unmatched : network.equivalent? node = none) :
    ∀ other ∈ network.nodes, other.equivalent node = false := by
  intro other inside
  cases same : other.equivalent node with
  | false => rfl
  | true =>
    obtain ⟨⟨object, tuple⟩, _⟩ := (Node.equivalent_iff _ _).mp same
    obtain ⟨above, named⟩ := Option.isSome_iff_exists.mp parent
    have below : above ∈ other.parents := by
      rw [Node.parents, object, tuple]
      cases first : node.tupleParent with
      | none => simp_all
      | some tuple => simp_all
    have sibling : other.id ∈ network.siblings node := by
      rw [siblings, named]
      exact listed other inside above below
    have unfit := List.find?_eq_none.mp unmatched other.id sibling
    rw [tidy.node?_of_mem inside] at unfit
    exact absurd same unfit

/-- A node that was attached although it could be shared is one that no other can stand in for. -/
theorem equivalent?_of_inserted {share : Bool} {attached : Attached}
    (answer : network.attach node share = .ok (attached, after)) (made : attached.shared = false)
    (asked : share = true) : network.equivalent? node = none := by
  unfold attach at answer
  subst asked
  repeat' split at answer
  all_goals
    try cases answer
    try cases made
  assumption

end Network

/-! ### Complete builders -/

namespace Builder

/-- **No lookup of the compiler misses a node that it could share.** -/
structure Complete (builder : Builder) : Prop extends Linked builder where
  listed : builder.network.Listed
  alone : builder.network.Alone builder.config
  /-- Nodes that narrow to a type read no tuples. -/
  tupleless : ∀ node ∈ builder.network.nodes, node.kind.narrows? ≠ none → node.tupleParent = none
  registered : ∀ node ∈ builder.network.nodes, ∀ source, node.kind.source? = some source →
    builder.root? source = some node.id
  once : builder.network.roots.Nodup
  rooted : ∀ id, id ∈ builder.network.roots ↔ ∃ source, builder.root? source = some id

namespace Complete

variable {builder after : Builder} {node : Node} {source : Source}

/-- What nobody looks at may change. -/
theorem same (complete : builder.Complete) (linked : after.Linked)
    (nodes : after.network.nodes = builder.network.nodes)
    (roots : after.network.roots = builder.network.roots) (names : after.root? = builder.root?)
    (config : after.config = builder.config) : after.Complete := by
  have children : after.network.children = builder.network.children := by
    funext id
    simp only [Network.children, Network.node?, nodes]
  refine ⟨linked, ?_, ?_, ?_, ?_, ?_, ?_⟩
  · intro node member parent named
    rw [children]
    exact complete.listed node (nodes ▸ member) parent named
  · rw [config]
    intro a here b there
    exact complete.alone a (nodes ▸ here) b (nodes ▸ there)
  · rw [nodes]
    exact complete.tupleless
  · rw [nodes, names]
    exact complete.registered
  · rw [roots]
    exact complete.once
  · rw [roots, names]
    exact complete.rooted

theorem traced (complete : builder.Complete) (tracer : Tracer) :
    (builder.traced tracer).Complete :=
  complete.same (complete.toLinked.traced tracer) rfl rfl rfl rfl

/-- Asking for a node uses up an id. -/
theorem asked (complete : builder.Complete) {id : NodeId} {ids : IdSupply}
    (handed : builder.ids.next = .ok (id, ids)) (wanted : NodeRequest) :
    (builder.asked ids wanted).Complete :=
  complete.same (complete.toLinked.asked handed wanted) rfl rfl rfl rfl

/-- The parents of a node are there. -/
theorem contains_parent (complete : builder.Complete) (member : node ∈ builder.network.nodes)
    {parent : NodeId} (named : parent ∈ node.parents) :
    builder.network.contains parent = true := by
  have listed := complete.listed node member parent named
  cases found : builder.network.node? parent with
  | none => simp [Network.children, found] at listed
  | some owner => exact Network.contains_of_node? found

/-- A node under the next id can be added. -/
structure Next (builder : Builder) (node : Node) : Prop where
  larger : ∀ other ∈ builder.network.nodes, other.id.index < node.id.index
  below : node.id.index < builder.ids.nextIndex
  childless : node.children = []
  parents : ∀ parent ∈ node.parents, builder.network.contains parent = true

theorem Next.new (next : Next builder node) : builder.network.contains node.id = false :=
  Network.contains_eq_false.mpr fun other member equal =>
    Nat.lt_irrefl _ (equal ▸ next.larger other member)

/-- What is there besides the nodes was not touched by a new node. -/
theorem mem_insert {other : Node} (member : other ∈ (builder.network.insert node).nodes) :
    other = node ∨ ∃ before ∈ builder.network.nodes, other.id = before.id ∧
      other.kind = before.kind ∧ other.tupleParent = before.tupleParent := by
  rw [Network.nodes_insert] at member
  rcases List.mem_cons.mp member with rfl | old
  · exact Or.inl rfl
  · obtain ⟨before, inside, rfl⟩ := List.mem_map.mp old
    refine Or.inr ⟨before, inside, Network.id_adopted _ _, Network.kind_adopted _ _, ?_⟩
    unfold Network.adopted Node.adopt
    repeat' split
    all_goals rfl

/-- **A node with a parent is added** where no node can stand in for it, or none may. -/
theorem insert (complete : builder.Complete) (next : Next builder node)
    (parent : (node.tupleParent.or node.objectParent).isSome = true)
    (rootless : node.kind.source? = none)
    (tupleless : node.kind.narrows? ≠ none → node.tupleParent = none)
    (first : node.kind.shareable builder.config = true → builder.network.equivalent? node = none) :
    ({ builder with network := builder.network.insert node } : Builder).Complete := by
  have tidy := complete.tidy.network
  have inner : node.kind.isRoot = false := by rw [NodeKind.isRoot_eq, rootless]; rfl
  have roots : (builder.network.insert node).roots = builder.network.roots := by
    simp [Network.insert, inner]
  refine ⟨complete.toLinked.insert next.larger next.below next.childless next.parents,
    complete.listed.insert tidy next.new next.parents, complete.alone.insert fun shared => ?_,
    fun other member narrows => ?_, fun other member source root => ?_, ?_, ?_⟩
  · exact Network.equivalent?_none complete.listed tidy parent (first shared)
  · rcases mem_insert member with rfl | ⟨before, inside, _, kind, tuple⟩
    · exact tupleless narrows
    · rw [tuple]
      exact complete.tupleless before inside (kind ▸ narrows)
  · rcases mem_insert member with rfl | ⟨before, inside, id, kind, _⟩
    · rw [rootless] at root
      cases root
    · rw [id]
      exact complete.registered before inside source (kind ▸ root)
  · rw [roots]
    exact complete.once
  · rw [roots]
    exact complete.rooted

/-- **The root of a source that had none is added** and registered. -/
theorem root (complete : builder.Complete) (next : Next builder node)
    (kind : node.kind.source? = some source) (free : builder.root? source = none) :
    (({ builder with network := builder.network.insert node } : Builder).register
      source node.id).Complete := by
  have tidy := complete.tidy.network
  have rootKind : node.kind.isRoot = true := by rw [NodeKind.isRoot_eq, kind]; rfl
  have roots : (builder.network.insert node).roots = builder.network.roots ++ [node.id] := by
    simp [Network.insert, rootKind]
  have fresh : node.id ∉ builder.network.roots := fun listed =>
    absurd (next.new.symm.trans (tidy.roots _ listed)) Bool.noConfusion
  have linked := complete.toLinked.insert next.larger next.below next.childless next.parents
  let inserted : Builder := { builder with network := builder.network.insert node }
  have network := network_register inserted source node.id
  have config := config_register inserted source node.id
  have names : ∀ other, (inserted.register source node.id).root? other =
      if other = source then some node.id else builder.root? other := by
    intro other
    rw [root?_register]
    cases other <;> rfl
  have narrowless : node.kind.narrows? = none := by
    cases both : node.kind <;> simp_all [NodeKind.source?, NodeKind.narrows?]
  refine ⟨linked.register (Network.node?_insert_self _ _) kind, ?_, ?_, ?_, ?_, ?_, ?_⟩
  · rw [network]
    exact complete.listed.insert tidy next.new next.parents
  · rw [network, config]
    refine complete.alone.insert fun _ other inside => ?_
    -- a node that could stand in would be the registered root of the source
    cases same : other.equivalent node with
    | false => rfl
    | true =>
      have root := NodeKind.source?_same ((Node.equivalent_iff _ _).mp same).2
      have taken := complete.registered other inside source (root.trans kind)
      rw [free] at taken
      cases taken
  · rw [network]
    intro other member narrows
    rcases mem_insert member with rfl | ⟨before, inside, _, same, tuple⟩
    · exact absurd narrowless narrows
    · rw [tuple]
      exact complete.tupleless before inside (same ▸ narrows)
  · rw [network]
    intro other member again root
    rw [names]
    rcases mem_insert member with rfl | ⟨before, inside, id, same, _⟩
    · rw [if_pos (Option.some.inj (root.symm.trans kind))]
    · have taken := complete.registered before inside again (same ▸ root)
      rw [if_neg (fun equal => by rw [equal, free] at taken; cases taken), id]
      exact taken
  · rw [network, roots]
    exact List.nodup_append.mpr ⟨complete.once, by simp, fun id listed other last =>
      fun equal => fresh (List.mem_singleton.mp last ▸ equal ▸ listed)⟩
  · intro id
    rw [network, roots, List.mem_append, List.mem_singleton, complete.rooted]
    constructor
    · rintro (⟨other, taken⟩ | rfl)
      · refine ⟨other, ?_⟩
        rw [names, if_neg (fun equal => by rw [equal, free] at taken; cases taken)]
        exact taken
      · exact ⟨source, by rw [names, if_pos rfl]⟩
    · rintro ⟨other, taken⟩
      rw [names] at taken
      split at taken
      · exact Or.inr (Option.some.inj taken).symm
      · exact Or.inl ⟨other, taken⟩

end Complete

end Builder

/-! ### Steps of the compiler -/

namespace Build

open Builder

variable {bench : Workbench}

/-- A node that the standard factory makes comes next. -/
theorem next_made {builder : Builder} (complete : builder.Complete) {id : NodeId} {ids : IdSupply}
    (handed : builder.ids.next = .ok (id, ids)) {kind : NodeKind} {tuple object : Option NodeId}
    (wanted : NodeRequest)
    (parents : ∀ parent ∈ (⟨id, kind, object, tuple, []⟩ : Node).parents,
      builder.network.contains parent = true) :
    Complete.Next (builder.asked ids wanted) ⟨id, kind, object, tuple, []⟩ := by
  obtain ⟨own, left⟩ := IdSupply.next_increases handed
  refine ⟨fun other member => ?_, ?_, rfl, parents⟩
  · show other.id.index < id.index
    rw [own]
    exact complete.tidy.below other member
  · show id.index < ids.nextIndex
    omega

/-- **A node that is asked for and attached** is one that could not be shared. -/
theorem grow_complete {kind : NodeKind} {tuple object : Option NodeId} {share : Builder → Bool}
    (asks : Asks kind tuple object share) (complete : bench.builder.Complete) :
    Ensures (request kind tuple object) bench
      (fun node mid => Ensures (place node (share mid.builder)) mid
        (fun _ after => after.builder.Complete) fun _ after => after.builder.Complete)
      fun _ after => after.builder.Complete := by
  refine ensures_request (fun _ _ => complete) fun id ids handed => ?_
  have asked := complete.asked handed
  refine ⟨fun node made => ?_, fun _ _ => asked _⟩
  rw [complete.standard] at made
  cases made
  refine ensures_place (fun _ _ => asked _) fun ended network answer tracer log => ?_
  rcases Network.attach_cases answer with ⟨_, _, rfl⟩ | ⟨_, _, _, _, rfl⟩ | ⟨_, parents, rfl, rfl⟩
  · exact (asked _).traced tracer
  · exact (asked _).traced tracer
  · have next := next_made complete handed ⟨id, kind, object, tuple⟩ parents
    refine ((asked _).insert next asks.parent asks.source? asks.alone fun shared => ?_).traced tracer
    exact Network.equivalent?_of_inserted answer rfl ((asks.share_eq _).trans shared)

/-- **The root of a source that had none** is made and registered. -/
theorem root_complete (kind : NodeKind) {source : Source} (root : kind.source? = some source)
    (complete : bench.builder.Complete) (free : bench.builder.root? source = none) :
    Ensures (request kind none none) bench
      (fun node mid => Ensures (place node false) mid
        (fun id after => (after.builder.register source id).Complete)
        fun _ after => after.builder.Complete)
      fun _ after => after.builder.Complete := by
  refine ensures_request (fun _ _ => complete) fun id ids handed => ?_
  have asked := complete.asked handed
  refine ⟨fun node made => ?_, fun _ _ => asked _⟩
  rw [complete.standard] at made
  cases made
  refine ensures_place (fun _ _ => asked _) fun ended network answer tracer log => ?_
  have next : Complete.Next (bench.builder.asked ids ⟨id, kind, none, none⟩)
      ⟨id, kind, none, none, []⟩ := next_made complete handed _ (by simp [Node.parents])
  have unused : (bench.builder.asked ids ⟨id, kind, none, none⟩).root? source = none := by
    cases source <;> exact free
  rcases Network.attach_cases answer with ⟨known, _⟩ | ⟨_, never, _⟩ | ⟨_, _, rfl, rfl⟩
  · exact absurd (known.symm.trans next.new) Bool.noConfusion
  · cases never
  · have grown := ((asked ⟨id, kind, none, none⟩).root next root unused).traced tracer
    cases source <;> exact grown

theorem entryPointRoot_complete (name : String) : Keeps (Holds Complete) (entryPointRoot name) := by
  intro start held
  unfold entryPointRoot
  simp only [ensures_bind, ensures_builder]
  split
  · rw [ensures_bind]
    exact ensures_report fun tracer _ => held.traced tracer
  · rename_i free
    simp only [ensures_bind, ensures_modifyBuilder]
    refine (root_complete (.entryPoint name) rfl held free).mono (fun node mid placed => ?_)
      fun _ _ kept => kept
    refine placed.mono (fun id after grown => ?_) fun _ _ kept => kept
    exact ensures_log fun tracer _ => grown.traced tracer

theorem streamRoot_complete (name : String) (type : ObjectType) :
    Keeps (Holds Complete) (streamRoot name type) := by
  intro start held
  unfold streamRoot
  simp only [ensures_bind, ensures_builder]
  split
  · rw [ensures_bind]
    exact ensures_report fun tracer _ => held.traced tracer
  · rename_i free
    simp only [ensures_bind, ensures_modifyBuilder]
    refine (root_complete (.stream name type) rfl held free).mono (fun node mid placed => ?_)
      fun _ _ kept => kept
    refine placed.mono (fun id after grown => ?_) fun _ _ kept => kept
    exact ensures_log fun tracer _ => grown.traced tracer

/-- **Every step of the compiler keeps the lookups complete.** -/
theorem complete_steady : Steady Complete where
  traced _ tracer held := held.traced tracer
  grows _ _ _ _ _ asks held := grow_complete asks held
  entryPointRoot := entryPointRoot_complete
  streamRoot := streamRoot_complete

end Build

end RuleNet
