/-
**Building with the standard factory.**

The standard factory makes every node as wanted, so the compiler decides what the network looks
like, and every node that it asks for fits.

* `Network.Extends`: a network with more nodes, in which the old ones give what they gave;
* `Builder.Sound`: a layered network whose roots are registered under their names, and whose
  callbacks are all known. Every step of the compiler keeps it, whether it succeeds or fails;
* `Builder.Advances`: what a step leaves of the builder it found;
* `grow_ends`: **a node that is asked for and attached gives what the wanted node gives**, although
  another one may stand in for it;
* `entryPointRoot_ends`, `streamRoot_ends`, `objectTypeNode_ends`: the nodes that patterns share.
-/

import RuleNet.Proofs.Build.Rollback
import RuleNet.Proofs.Match.Sharing

namespace RuleNet

open Stateful

/-! ### Networks that grow -/

namespace Network

/-- **The nodes that were there are there, and give what they gave.** They may have new children. -/
structure Extends (before after : Network) : Prop where
  nodes : ∀ id node, before.node? id = some node →
    ∃ children, after.node? id = some { node with children := children }
  feeds : ∀ id, before.contains id = true → feedAt after.nodes id = feedAt before.nodes id

namespace Extends

variable {first second third : Network}

theorem refl (network : Network) : network.Extends network :=
  ⟨fun _ node found => ⟨node.children, found⟩, fun _ _ => rfl⟩

theorem contains (wider : first.Extends second) {id : NodeId}
    (known : first.contains id = true) : second.contains id = true := by
  obtain ⟨node, found⟩ := node?_isSome known
  obtain ⟨children, there⟩ := wider.nodes id node found
  exact contains_of_node? there

theorem trans (left : first.Extends second) (right : second.Extends third) :
    first.Extends third := by
  refine ⟨fun id node found => ?_, fun id known => ?_⟩
  · obtain ⟨children, there⟩ := left.nodes id node found
    obtain ⟨more, last⟩ := right.nodes id _ there
    exact ⟨more, last⟩
  · rw [right.feeds id (left.contains known), left.feeds id known]

/-- A node that gives something gives the same afterwards. -/
theorem feed (wider : first.Extends second) {id : NodeId} {stream : Stream}
    (given : (feedAt first.nodes id).stream = some stream) :
    feedAt second.nodes id = feedAt first.nodes id :=
  wider.feeds id (contains_iff.mpr (mem_of_stream given))

end Extends

/-- **A node that is added extends the network.** -/
theorem extends_insert {network : Network} {node : Node}
    (new : network.contains node.id = false) : network.Extends (network.insert node) := by
  refine ⟨fun id other found => ?_, fun id known => feedAt_insert new known⟩
  rw [node?_insert_other (ne_of_contains new (contains_of_node? found)), found]
  unfold adopted Node.adopt
  simp only [Option.map_some]
  split
  · split
    · exact ⟨other.children, rfl⟩
    · exact ⟨_, rfl⟩
  · exact ⟨other.children, rfl⟩

/-- The node gives objects, and as long as callbacks can be trusted it gives these. -/
structure Supplies (trust : Prop) (network : Network) (id : NodeId)
    (supply : WorkingMemory → Outcome (List Held)) : Prop where
  stream : (feedAt network.nodes id).stream = some .objects
  objects : trust → ∀ memory, (feedAt network.nodes id).objects memory = supply memory

theorem Supplies.mono {trust : Prop} {before after : Network} {id : NodeId}
    {supply : WorkingMemory → Outcome (List Held)} (supplies : before.Supplies trust id supply)
    (wider : before.Extends after) : after.Supplies trust id supply := by
  have same := wider.feed supplies.stream
  exact ⟨same ▸ supplies.stream, same ▸ supplies.objects⟩

end Network

/-! ### Builders in order -/

namespace Builder

/-- **What holds of a builder at all times**, if its callbacks are among the known ones. -/
structure Sound (callbacks : Callback → Prop) (builder : Builder) : Prop where
  standard : builder.factory = .standard
  tidy : builder.Tidy
  layered : Layered builder.network.nodes
  entryPoints : ∀ entry ∈ builder.entryPoints.byName, ∃ node,
    builder.network.node? entry.2 = some node ∧ node.kind = .entryPoint entry.1
  streams : ∀ entry ∈ builder.streams.byName, ∃ node type,
    builder.network.node? entry.2 = some node ∧ node.kind = .stream entry.1 type
  known : ∀ node ∈ builder.network.nodes, ∀ callback ∈ node.kind.callbacks, callbacks callback

/-- **What a step leaves of the builder it found.** -/
structure Advances (callbacks : Callback → Prop) (before after : Builder) : Prop where
  sound : after.Sound callbacks
  network : before.network.Extends after.network
  config : after.config = before.config

/-- Callbacks are told apart by their keys, if nodes are shared by them. -/
def Trusted (callbacks : Callback → Prop) (config : BuildConfig) : Prop :=
  config.shareAlpha = true ∨ config.shareBeta = true → Faithful callbacks

variable {callbacks : Callback → Prop} {first second third : Builder}

theorem Sound.advances (sound : first.Sound callbacks) : Advances callbacks first first :=
  ⟨sound, .refl _, rfl⟩

theorem Advances.trans (left : Advances callbacks first second)
    (right : Advances callbacks second third) : Advances callbacks first third :=
  ⟨right.sound, left.network.trans right.network, right.config.trans left.config⟩

/-- Nobody looks at the tracer. -/
theorem Advances.traced (advances : Advances callbacks first second) (tracer : Tracer) :
    Advances callbacks first (second.traced tracer) :=
  ⟨{ advances.sound with tidy := { advances.sound.tidy with } }, advances.network, advances.config⟩

/-- A builder with the same nodes and roots. -/
theorem Sound.same (sound : first.Sound callbacks) (tidy : second.Tidy)
    (nodes : second.network.nodes = first.network.nodes)
    (entryPoints : second.entryPoints = first.entryPoints)
    (streams : second.streams = first.streams) (factory : second.factory = first.factory)
    (config : second.config = first.config) : Advances callbacks first second := by
  have there : ∀ id, second.network.node? id = first.network.node? id := fun id => by
    simp only [Network.node?, nodes]
  refine ⟨⟨factory.trans sound.standard, tidy, nodes ▸ sound.layered, ?_, ?_,
    nodes ▸ sound.known⟩, ⟨fun id node found => ⟨node.children, ?_⟩, fun _ _ => ?_⟩, config⟩
  · simpa only [there, entryPoints] using sound.entryPoints
  · simpa only [there, streams] using sound.streams
  · rw [there, found]
  · rw [nodes]

/-- Asking for a node uses up an id. -/
theorem Sound.asked (sound : first.Sound callbacks) {id : NodeId} {ids : IdSupply}
    (handed : first.ids.next = .ok (id, ids)) (wanted : NodeRequest) :
    Advances callbacks first (first.asked ids wanted) := by
  have grown := (IdSupply.next_increases handed).2
  have below : ∀ node ∈ first.network.nodes, node.id.index < ids.nextIndex := fun node member => by
    have before := sound.tidy.below node member
    omega
  exact ⟨{ sound with tidy := { sound.tidy with below := below } }, .refl _, rfl⟩

/-- **A node that fits can be added** under the id that was handed out last. -/
theorem Sound.insert (sound : first.Sound callbacks) {node : Node}
    (larger : ∀ other ∈ first.network.nodes, other.id.index < node.id.index)
    (below : node.id.index < first.ids.nextIndex) (childless : node.children = [])
    (fits : node.Fits fun id => (feedAt first.network.nodes id).stream)
    (own : ∀ callback ∈ node.kind.callbacks, callbacks callback) :
    Advances callbacks first { first with network := first.network.insert node } := by
  have new : first.network.contains node.id = false :=
    Network.contains_eq_false.mpr fun other member same =>
      Nat.lt_irrefl _ (same ▸ larger other member)
  have wider := Network.extends_insert new
  have members : ∀ other ∈ (first.network.insert node).nodes, other = node ∨
      ∃ before ∈ first.network.nodes, other = Network.adopted node before := by
    intro other member
    rcases List.mem_cons.mp member with rfl | old
    · exact Or.inl rfl
    · obtain ⟨before, inside, rfl⟩ := List.mem_map.mp old
      exact Or.inr ⟨before, inside, rfl⟩
  refine ⟨⟨sound.standard, ⟨sound.tidy.network.insert new childless, ?_, ?_, ?_⟩,
    Network.layered_insert sound.layered larger fits, ?_, ?_, ?_⟩, wider, rfl⟩
  · intro other member
    rcases members other member with rfl | ⟨before, inside, rfl⟩
    · exact below
    · rw [Network.id_adopted]
      exact sound.tidy.below before inside
  · exact fun entry member => wider.contains (sound.tidy.entryPoints entry member)
  · exact fun entry member => wider.contains (sound.tidy.streams entry member)
  · intro entry member
    obtain ⟨root, found, kind⟩ := sound.entryPoints entry member
    obtain ⟨children, there⟩ := wider.nodes _ _ found
    exact ⟨_, there, kind⟩
  · intro entry member
    obtain ⟨root, type, found, kind⟩ := sound.streams entry member
    obtain ⟨children, there⟩ := wider.nodes _ _ found
    exact ⟨_, type, there, kind⟩
  · intro other member callback listed
    rcases members other member with rfl | ⟨before, inside, rfl⟩
    · exact own callback listed
    · rw [Network.kind_adopted] at listed
      exact sound.known before inside callback listed

/-- The node that is found under an id, in the arena. -/
theorem Sound.feed_node? (sound : first.Sound callbacks) {id : NodeId} {node : Node}
    (found : first.network.node? id = some node) :
    node ∈ first.network.nodes ∧ node.id = id ∧
      feedAt first.network.nodes id = node.feed (feedAt first.network.nodes) := by
  have named := Network.node?_id found
  have member := Network.node?_mem found
  exact ⟨member, named, named ▸ sound.layered.feed_node member⟩

/-- **The root of an entry point supplies its objects.** -/
theorem Sound.supplies_entryPoint (sound : first.Sound callbacks) (trust : Prop) {root : NodeId}
    {node : Node} {name : String} (found : first.network.node? root = some node)
    (kind : node.kind = .entryPoint name) :
    first.network.Supplies trust root fun memory => .ok (memory.objects (.entryPoint name)) := by
  have feed := (sound.feed_node? found).2.2
  constructor
  · rw [feed]
    simp only [Node.feed, kind, NodeKind.gives]
  · intro _ memory
    rw [feed]
    simp only [Node.feed, Node.objectsGiven, kind]

/-- **The root of a stream supplies the objects of its type.** -/
theorem Sound.supplies_stream (sound : first.Sound callbacks) (trust : Prop) {root : NodeId}
    {node : Node} {name : String} {type : ObjectType} (found : first.network.node? root = some node)
    (kind : node.kind = .stream name type) :
    first.network.Supplies trust root fun memory =>
      .ok (Operator.narrow type (memory.objects (.stream name))) := by
  have feed := (sound.feed_node? found).2.2
  constructor
  · rw [feed]
    simp only [Node.feed, kind, NodeKind.gives]
  · intro _ memory
    rw [feed]
    simp only [Node.feed, Node.objectsGiven, kind]

end Builder

/-! ### Nodes that a step asks for -/

namespace Build

open Builder

variable {callbacks : Callback → Prop}

/-- **What is known of the node at which a request ended**, compared with the node that was wanted.
It gives the same, if nodes are not shared or their callbacks can be trusted. -/
structure Ended (callbacks : Callback → Prop) (share : Bool) (before after : Builder)
    (wanted : Node) (id : NodeId) : Prop where
  stream : (feedAt after.network.nodes id).stream =
    (wanted.feed (feedAt before.network.nodes)).stream
  like : (share = true → wanted.kind.callbacks = [] ∨ Faithful callbacks) →
    (feedAt after.network.nodes id).Like (wanted.feed (feedAt before.network.nodes))
  own : share = false → after.network.node? id = some wanted

/-- **A node that is asked for and attached.** It fits; another node may stand in for it. -/
theorem grow_ends {now : Builder} {context : BuildContext} {lines : List LogLine} {kind : NodeKind}
    {tuple object : Option NodeId} (share : BuildConfig → Bool) (sound : now.Sound callbacks)
    (fits : ∀ id, Node.Fits (fun id => (feedAt now.network.nodes id).stream)
      ⟨id, kind, object, tuple, []⟩)
    (own : ∀ callback ∈ kind.callbacks, callbacks callback)
    {good : NodeId → Workbench → Prop} {bad : Failure → Workbench → Prop}
    (ended : ∀ wanted id builder log, wanted.kind = kind → wanted.objectParent = object →
      wanted.tupleParent = tuple → Advances callbacks now builder →
      Ended callbacks (share now.config) now builder wanted id →
      good id ⟨builder, context, log⟩)
    (failed : ∀ failure builder log, Advances callbacks now builder →
      bad failure ⟨builder, context, log⟩) :
    Ensures (request kind tuple object) ⟨now, context, lines⟩
      (fun node mid => Ensures (place node (share mid.builder.config)) mid good bad) bad := by
  refine ensures_request (fun failure _ => failed failure _ _ sound.advances)
    fun id ids handed => ?_
  have counted := IdSupply.next_increases handed
  have asked := sound.asked handed
  refine ⟨fun node made => ?_, fun failure _ => failed failure _ _ (asked _)⟩
  rw [sound.standard] at made
  cases made
  refine ensures_place (fun failure _ => failed failure _ _ (asked _))
    fun attached network answer tracer log => ?_
  have larger : ∀ other ∈ now.network.nodes, other.id.index < id.index :=
    fun other member => counted.1 ▸ sound.tidy.below other member
  rcases Network.attach_cases answer with
    ⟨known, _⟩ | ⟨_, shared, found, _, rfl⟩ | ⟨_, _, rfl, rfl⟩
  · obtain ⟨other, inside, same⟩ := Network.contains_iff.mp known
    exact absurd (same ▸ larger other inside) (Nat.lt_irrefl _)
  · obtain ⟨existing, there, equivalent⟩ := Network.equivalent?_some found
    obtain ⟨member, _, feed⟩ := sound.feed_node? there
    refine ended ⟨id, kind, object, tuple, []⟩ attached.id _ _ rfl rfl rfl
      ((asked _).traced tracer) ⟨?_, fun trusted => ?_, fun unshared => ?_⟩
    · exact (congrArg Feed.stream feed).trans (Node.stream_shares equivalent)
    · have alike : AlikeAll existing.kind.callbacks kind.callbacks := by
        rcases trusted shared with none | faithful
        · intro a _ b listed
          rw [show kind.callbacks = [] from none] at listed
          cases listed
        · exact fun a inside b listed same =>
            faithful a b (sound.known existing member a inside) (own b listed) same
      exact feed ▸ Node.feed_shares equivalent (fits id) alike
    · exact absurd (shared.symm.trans unshared) Bool.noConfusion
  · have below : id.index < ids.nextIndex := by omega
    have inserted := @Sound.insert callbacks (now.asked ids ⟨id, kind, object, tuple⟩)
      (asked _).sound ⟨id, kind, object, tuple, []⟩ larger below rfl (fits id) own
    have feed := Network.feedAt_inserted now.network ⟨id, kind, object, tuple, []⟩
    refine ended ⟨id, kind, object, tuple, []⟩ id _ _ rfl rfl rfl
      (((asked _).trans inserted).traced tracer)
      ⟨congrArg Feed.stream feed, fun _ => ?_, fun _ => ?_⟩
    · exact feed ▸ Feed.like_refl _
    · show (now.network.insert ⟨id, kind, object, tuple, []⟩).node? id = _
      simp [Network.node?, Network.nodes_insert]

end Build

end RuleNet
