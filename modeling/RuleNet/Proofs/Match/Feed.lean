/-
**What a node gives to the nodes below it.**

The evaluator remembers results and records callbacks. Without either, what a node gives is a
function of working memory, made from what its parents give.

* `Feed`: the stream that a node gives, with its objects or tokens for every working memory;
* `feedAt`: the feed of a node, along the arena as the evaluator goes;
* `Node.Fits`: the parents of a node are there and give what the node reads, and every place it
  reads is inside its tuples;
* `Layered`: every node fits the nodes that were there before it. In such an arena `feed_node` gives
  **the feed of a node from the feeds of its parents**, and `feedAt_insert` says that a node which
  is added changes no feed.
-/

import RuleNet.Match.Evaluator
import RuleNet.Proofs.Callback.Loops
import RuleNet.Proofs.Network.Transaction

namespace RuleNet

/-! ### Streams -/

/-- What runs along a link. -/
inductive Stream where
  | objects
  /-- Tuples of so many values. -/
  | tuples (width : Nat)
deriving DecidableEq, Repr

namespace NodeKind

def readsObjects : NodeKind → Bool
  | objectType _ | alpha _ _ | adapter | join _ | existential _ _ | accumulate _ _ _ => true
  | _ => false

def readsTuples : NodeKind → Bool
  | join _ | existential _ _ | accumulate _ _ _ | invoker _ _ _ | terminal _ => true
  | _ => false

/-- **What a node of the kind gives**, from the width of the tuples that it reads. -/
def gives (width : Nat) : NodeKind → Option Stream
  | entryPoint _ | stream _ _ | objectType _ | alpha _ _ => some .objects
  | adapter => some (.tuples 1)
  | join _ | existential _ _ | invoker _ _ _ => some (.tuples (width + 1))
  | accumulate _ _ functions => some (.tuples (width + functions.length))
  | terminal _ => none

/-- What reads tuples gives tuples, if anything. -/
theorem gives_tuples {kind : NodeKind} {width : Nat} {stream : Stream}
    (reads : kind.readsTuples = true) (given : kind.gives width = some stream) :
    ∃ wider, stream = .tuples wider := by
  cases kind with
  | join _ | existential _ _ | accumulate _ _ _ | invoker _ _ _ =>
    exact ⟨_, (Option.some.inj given).symm⟩
  | _ => simp [readsTuples, gives] at reads given

end NodeKind

/-! ### Feeds -/

/-- **What a node gives**: the stream, and what runs along it. -/
@[ext]
structure Feed where
  stream : Option Stream
  objects : WorkingMemory → Outcome (List Held)
  tokens : WorkingMemory → Outcome (List Token)

namespace Feed

/-- A node that is not there gives nothing. -/
def missing (id : NodeId) : Feed where
  stream := none
  objects _ := (Structural.notInNetwork id).fail
  tokens _ := (Structural.notInNetwork id).fail

/-- The width of the tuples, if there are any. -/
def width (feed : Feed) : Nat :=
  match feed.stream with
  | some (.tuples width) => width
  | _ => 0

theorem width_of_stream {feed : Feed} {width : Nat} (given : feed.stream = some (.tuples width)) :
    feed.width = width := by
  simp [Feed.width, given]

end Feed

namespace Node

/-- The object parent that a node must have. -/
def needObject (node : Node) : Outcome NodeId :=
  match node.objectParent with
  | some parent => .ok parent
  | none => (Structural.noObjectParent node.kind.sort node.id).fail

/-- The tuple parent that a node must have. -/
def needTuple (node : Node) : Outcome NodeId :=
  match node.tupleParent with
  | some parent => .ok parent
  | none => (Structural.noTupleParent node.kind.sort node.id).fail

section

variable (input : NodeId → Feed) (node : Node)

/-- The width of the tuples that a node reads. -/
def widthRead : Nat :=
  match node.tupleParent with
  | some parent => (input parent).width
  | none => 0

/-- The objects of the object parent. -/
def objectsRead (memory : WorkingMemory) : Outcome (List Held) := do
  let parent ← node.needObject
  (input parent).objects memory

/-- The tokens of the tuple parent. -/
def tokensRead (memory : WorkingMemory) : Outcome (List Token) := do
  let parent ← node.needTuple
  (input parent).tokens memory

/-- The objects of a node, from what its parents give. -/
def objectsGiven (memory : WorkingMemory) : Outcome (List Held) :=
  match node.kind with
  | .entryPoint name => .ok (memory.objects (.entryPoint name))
  | .stream name type => .ok (Operator.narrow type (memory.objects (.stream name)))
  | .objectType type => do
    let objects ← node.objectsRead input memory
    .ok (Operator.narrow type objects)
  | .alpha predicate arity => do
    let objects ← node.objectsRead input memory
    (Operator.alphaObjects predicate arity objects).outcome
  | kind => (Structural.noObjects kind.sort node.id).fail

/-- The tokens of a node, from what its parents give. -/
def tokensGiven (memory : WorkingMemory) : Outcome (List Token) :=
  match node.kind with
  | .adapter => do
    let objects ← node.objectsRead input memory
    .ok (objects.map Token.ofHeld)
  | .join constraints => do
    let tokens ← node.tokensRead input memory
    let objects ← node.objectsRead input memory
    (Operator.joinTokens constraints tokens objects).outcome
  | .existential quantifier constraints => do
    let tokens ← node.tokensRead input memory
    let objects ← node.objectsRead input memory
    (Operator.existentialTokens quantifier constraints tokens objects).outcome
  | .accumulate source results functions => do
    let tokens ← node.tokensRead input memory
    let objects ← node.objectsRead input memory
    (Operator.accumulateTokens source results functions tokens objects).outcome
  | .invoker invocation args constraints => do
    let tokens ← node.tokensRead input memory
    (Operator.invokerTokens invocation args constraints tokens).outcome
  | kind => (Structural.noTuples kind.sort node.id).fail

/-- **What a node gives**, from what its parents give. -/
def feed : Feed where
  stream := node.kind.gives (node.widthRead input)
  objects := node.objectsGiven input
  tokens := node.tokensGiven input

end

/-- Only what the parents give matters. -/
theorem feed_congr {node : Node} {input other : NodeId → Feed}
    (agree : ∀ parent ∈ node.parents, input parent = other parent) :
    node.feed input = node.feed other := by
  have object : ∀ memory, node.objectsRead input memory = node.objectsRead other memory := by
    intro memory
    unfold objectsRead needObject
    cases named : node.objectParent with
    | none => rfl
    | some parent =>
      have same := agree parent (by simp [parents, named])
      simp only [bind, Except.bind, same]
  have tuple : node.widthRead input = node.widthRead other ∧
      ∀ memory, node.tokensRead input memory = node.tokensRead other memory := by
    unfold widthRead tokensRead needTuple
    cases named : node.tupleParent with
    | none => exact ⟨rfl, fun _ => rfl⟩
    | some parent =>
      have same := agree parent (by simp [parents, named])
      exact ⟨by simp only [same], fun _ => by simp only [bind, Except.bind, same]⟩
  ext1
  · simp only [feed, tuple.1]
  · funext memory
    simp only [feed, objectsGiven, object]
  · funext memory
    simp only [feed, tokensGiven, object, tuple.2]

/-- The children of a node do not matter. -/
theorem feed_adopted (node other : Node) (input : NodeId → Feed) :
    (Network.adopted node other).feed input = other.feed input := by
  unfold Network.adopted adopt
  split
  · split <;> rfl
  · rfl

end Node

/-! ### Feeds along the arena -/

/-- **The feed of a node**, given the nodes from the newest that may be it. -/
def feedAt : List Node → NodeId → Feed
  | [], id => .missing id
  | node :: older, id => if node.id = id then node.feed (feedAt older) else feedAt older id

theorem feedAt_self (node : Node) (older : List Node) :
    feedAt (node :: older) node.id = node.feed (feedAt older) := by
  simp [feedAt]

theorem feedAt_older {node : Node} {older : List Node} {id : NodeId} (different : node.id ≠ id) :
    feedAt (node :: older) id = feedAt older id := by
  simp [feedAt, different]

/-- A node that gives something is there. -/
theorem mem_of_stream {nodes : List Node} {id : NodeId} {stream : Stream}
    (given : (feedAt nodes id).stream = some stream) : ∃ node ∈ nodes, node.id = id := by
  induction nodes with
  | nil => cases given
  | cons node older hypothesis =>
    by_cases same : node.id = id
    · exact ⟨node, List.mem_cons_self, same⟩
    · rw [feedAt_older same] at given
      obtain ⟨found, inside, named⟩ := hypothesis given
      exact ⟨found, List.mem_cons_of_mem _ inside, named⟩

/-- A node that returns tokens gives tuples. -/
theorem stream_of_tokens {nodes : List Node} {id : NodeId} {memory : WorkingMemory}
    {tokens : List Token} (found : (feedAt nodes id).tokens memory = .ok tokens) :
    ∃ width, (feedAt nodes id).stream = some (.tuples width) := by
  induction nodes with
  | nil => cases found
  | cons node older hypothesis =>
    by_cases same : node.id = id
    · subst same
      rw [feedAt_self] at found ⊢
      simp only [Node.feed] at found ⊢
      unfold Node.tokensGiven at found
      cases kind : node.kind with
      | adapter | join _ | existential _ _ | accumulate _ _ _ | invoker _ _ _ => exact ⟨_, rfl⟩
      | _ =>
        rw [kind] at found
        cases found
    · rw [feedAt_older same] at found ⊢
      exact hypothesis found

/-- Children are links down, and nothing is read along them. -/
theorem feedAt_map_adopted (node : Node) (nodes : List Node) :
    feedAt (nodes.map (Network.adopted node)) = feedAt nodes := by
  induction nodes with
  | nil => rfl
  | cons head older hypothesis =>
    funext id
    simp only [List.map_cons, feedAt, Network.id_adopted, Node.feed_adopted, hypothesis]

/-! ### Nodes that fit -/

/-- Every place of the tuple that the constraint reads is there. -/
def BoundConstraint.Within (width : Nat) (constraint : BoundConstraint) : Prop :=
  ∀ offset, Slot.tuple offset ∈ constraint.slots → offset < width

/-- **Every place that the kind reads is inside tuples of a width**, and the results of aggregate
functions take the places that follow. -/
def NodeKind.Within (width : Nat) : NodeKind → Prop
  | join constraints | existential _ constraints =>
    ∀ constraint ∈ constraints, constraint.Within width
  | accumulate source results functions =>
    (∀ constraint ∈ source, constraint.Within width) ∧ results = [] ∧
      functions.map PlacedAggregate.offset = List.range' width functions.length
  | invoker _ args constraints =>
    (∀ offset ∈ args, offset < width) ∧ ∀ constraint ∈ constraints, constraint.Within width
  | terminal last => ∀ offset ∈ last.bindings, offset < width
  | _ => True

/-- **The parents of a node are there and give what it reads**, and it reads no place outside. -/
structure Node.Fits (stream : NodeId → Option Stream) (node : Node) : Prop where
  objects : if node.kind.readsObjects
    then ∃ parent, node.objectParent = some parent ∧ stream parent = some .objects
    else node.objectParent = none
  tuples : if node.kind.readsTuples
    then ∃ parent width, node.tupleParent = some parent ∧ stream parent = some (.tuples width) ∧
      node.kind.Within width
    else node.tupleParent = none

namespace Node.Fits

variable {stream : NodeId → Option Stream} {node : Node}

theorem objectParent (fits : node.Fits stream) (reads : node.kind.readsObjects = true) :
    ∃ parent, node.objectParent = some parent ∧ stream parent = some .objects := by
  simpa [reads] using fits.objects

theorem tupleParent (fits : node.Fits stream) (reads : node.kind.readsTuples = true) :
    ∃ parent width, node.tupleParent = some parent ∧ stream parent = some (.tuples width) ∧
      node.kind.Within width := by
  simpa [reads] using fits.tuples

/-- A parent gives something. -/
theorem parent (fits : node.Fits stream) {parent : NodeId} (named : parent ∈ node.parents) :
    ∃ given, stream parent = some given := by
  simp only [Node.parents, List.mem_append, Option.mem_toList] at named
  rcases named with tuple | object
  · cases reads : node.kind.readsTuples with
    | true =>
      obtain ⟨found, width, same, given, _⟩ := fits.tupleParent reads
      rw [same] at tuple
      cases tuple
      exact ⟨_, given⟩
    | false =>
      have none := fits.tuples
      simp [reads, tuple] at none
  · cases reads : node.kind.readsObjects with
    | true =>
      obtain ⟨found, same, given⟩ := fits.objectParent reads
      rw [same] at object
      cases object
      exact ⟨_, given⟩
    | false =>
      have none := fits.objects
      simp [reads, object] at none

theorem congr {other : NodeId → Option Stream} (fits : node.Fits stream)
    (agree : ∀ parent ∈ node.parents, stream parent = other parent) : node.Fits other where
  objects := by
    have held := fits.objects
    by_cases reads : node.kind.readsObjects = true
    · rw [if_pos reads] at held ⊢
      obtain ⟨parent, named, given⟩ := held
      exact ⟨parent, named, agree parent (by simp [Node.parents, named]) ▸ given⟩
    · rw [if_neg reads] at held ⊢
      exact held
  tuples := by
    have held := fits.tuples
    by_cases reads : node.kind.readsTuples = true
    · rw [if_pos reads] at held ⊢
      obtain ⟨parent, width, named, given, within⟩ := held
      exact ⟨parent, width, named, agree parent (by simp [Node.parents, named]) ▸ given, within⟩
    · rw [if_neg reads] at held ⊢
      exact held

theorem adopted (fits : node.Fits stream) (child : Node) :
    (Network.adopted child node).Fits stream := by
  unfold Network.adopted Node.adopt
  split
  · split
    · exact fits
    · exact { objects := fits.objects, tuples := fits.tuples }
  · exact fits

end Node.Fits

/-! ### Layered arenas -/

/-- **Every node fits the nodes before it**, which have smaller ids. -/
def Layered : List Node → Prop
  | [] => True
  | node :: older =>
    (∀ other ∈ older, other.id.index < node.id.index) ∧
      node.Fits (fun id => (feedAt older id).stream) ∧ Layered older

namespace Layered

variable {nodes older : List Node} {node : Node} {id : NodeId}

/-- The feed of an older node, from the newer node on. -/
theorem feedAt_cons (layered : Layered (node :: older)) {other : Node} (member : other ∈ older) :
    feedAt (node :: older) other.id = feedAt older other.id :=
  feedAt_older fun same => Nat.lt_irrefl _ (same ▸ layered.1 other member)

theorem feedAt_stream (layered : Layered (node :: older)) {stream : Stream}
    (given : (feedAt older id).stream = some stream) :
    feedAt (node :: older) id = feedAt older id := by
  obtain ⟨other, member, rfl⟩ := mem_of_stream given
  exact layered.feedAt_cons member

theorem distinct (layered : Layered nodes) : (nodes.map Node.id).Nodup := by
  induction nodes with
  | nil => exact List.nodup_nil
  | cons node older hypothesis =>
    rw [List.map_cons, List.nodup_cons]
    refine ⟨fun listed => ?_, hypothesis layered.2.2⟩
    obtain ⟨other, member, same⟩ := List.mem_map.mp listed
    have smaller := layered.1 other member
    rw [same] at smaller
    exact Nat.lt_irrefl _ smaller

/-- **A node fits the whole arena.** -/
theorem fits (layered : Layered nodes) (member : node ∈ nodes) :
    node.Fits fun id => (feedAt nodes id).stream := by
  induction nodes with
  | nil => cases member
  | cons newest older hypothesis =>
    have known : node.Fits (fun id => (feedAt older id).stream) := by
      rcases List.mem_cons.mp member with rfl | before
      · exact layered.2.1
      · exact hypothesis layered.2.2 before
    refine known.congr fun parent named => ?_
    obtain ⟨given, stream⟩ := known.parent named
    rw [layered.feedAt_stream stream]

/-- **The feed of a node comes from the feeds of its parents.** -/
theorem feed_node (layered : Layered nodes) (member : node ∈ nodes) :
    feedAt nodes node.id = node.feed (feedAt nodes) := by
  induction nodes with
  | nil => cases member
  | cons newest older hypothesis =>
    have known : node.Fits (fun id => (feedAt older id).stream) ∧
        feedAt (newest :: older) node.id = node.feed (feedAt older) := by
      rcases List.mem_cons.mp member with rfl | before
      · exact ⟨layered.2.1, feedAt_self _ _⟩
      · rw [layered.feedAt_cons before]
        exact ⟨layered.2.2.fits before, hypothesis layered.2.2 before⟩
    rw [known.2]
    refine Node.feed_congr fun parent named => ?_
    obtain ⟨given, stream⟩ := known.1.parent named
    rw [layered.feedAt_stream stream]

/-- The parents of a node are there, under smaller ids. -/
theorem parent_lt (layered : Layered nodes) (member : node ∈ nodes) {parent : NodeId}
    (named : parent ∈ node.parents) :
    (∃ other ∈ nodes, other.id = parent) ∧ parent.index < node.id.index := by
  induction nodes with
  | nil => cases member
  | cons newest older hypothesis =>
    rcases List.mem_cons.mp member with rfl | before
    · obtain ⟨given, stream⟩ := layered.2.1.parent named
      obtain ⟨other, inside, rfl⟩ := mem_of_stream stream
      exact ⟨⟨other, List.mem_cons_of_mem _ inside, rfl⟩, layered.1 other inside⟩
    · obtain ⟨⟨other, inside, same⟩, smaller⟩ := hypothesis layered.2.2 before
      exact ⟨⟨other, List.mem_cons_of_mem _ inside, same⟩, smaller⟩

theorem map_adopted (layered : Layered nodes) (child : Node) :
    Layered (nodes.map (Network.adopted child)) := by
  induction nodes with
  | nil => trivial
  | cons newest older hypothesis =>
    refine ⟨fun other member => ?_, ?_, hypothesis layered.2.2⟩
    · obtain ⟨before, inside, rfl⟩ := List.mem_map.mp member
      rw [Network.id_adopted, Network.id_adopted]
      exact layered.1 before inside
    · rw [feedAt_map_adopted]
      exact layered.2.1.adopted child

end Layered

/-- The feed of a node of a tail is that in the whole arena, since its id is taken only once. -/
theorem feedAt_suffix {whole nodes : List Node} (distinct : (whole.map Node.id).Nodup)
    (tail : nodes <:+ whole) {node : Node} (member : node ∈ nodes) :
    feedAt whole node.id = feedAt nodes node.id := by
  induction whole with
  | nil =>
    rw [List.suffix_nil.mp tail] at member
    cases member
  | cons newest rest hypothesis =>
    rcases List.suffix_cons_iff.mp tail with rfl | later
    · rfl
    · rw [List.map_cons, List.nodup_cons] at distinct
      have different : newest.id ≠ node.id := fun same =>
        distinct.1 (same ▸ List.mem_map_of_mem (later.subset member))
      rw [feedAt_older different]
      exact hypothesis distinct.2 later

namespace Network

variable {network : Network} {node : Node}

/-- **A node that is added changes no feed.** -/
theorem feedAt_insert (new : network.contains node.id = false) {id : NodeId}
    (known : network.contains id = true) :
    feedAt (network.insert node).nodes id = feedAt network.nodes id := by
  have different : node.id ≠ id := by
    rintro rfl
    rw [new] at known
    cases known
  rw [nodes_insert, feedAt_older different, feedAt_map_adopted]

/-- The feed of the node that was added. -/
theorem feedAt_inserted (network : Network) (node : Node) :
    feedAt (network.insert node).nodes node.id = node.feed (feedAt network.nodes) := by
  rw [nodes_insert, feedAt_self, feedAt_map_adopted]

/-- **A layered arena stays layered** when a node that fits is added under a larger id. -/
theorem layered_insert (layered : Layered network.nodes)
    (larger : ∀ other ∈ network.nodes, other.id.index < node.id.index)
    (fits : node.Fits fun id => (feedAt network.nodes id).stream) :
    Layered (network.insert node).nodes := by
  rw [nodes_insert]
  refine ⟨fun other member => ?_, ?_, layered.map_adopted node⟩
  · obtain ⟨before, inside, rfl⟩ := List.mem_map.mp member
    rw [id_adopted]
    exact larger before inside
  · rw [feedAt_map_adopted]
    exact fits

end Network

end RuleNet
