/-
**Where the tuples at the cursor come from.**

The tuple cursor stands below an adapter, from which on every node extends the tuples by the places
of one pattern. The adapter and the nodes that read objects hang below nodes of a known type, to
which the compiler climbs along object parents.

* `Network.Lineage`: a node that gives tuples, with their width, up to the adapter they start at
  and the typed node above it;
* `Lineage.mono`, `Lineage.stream`: it lasts, and the width is that of the tokens;
* `Aimed`: a step that moves the object cursor and the entry point only;
* `Descends`: the tuple cursor has a lineage, whose typed node the context knows;
* `use_descends`, `pattern_descends`: **every use of a pattern leaves a lineage at the tuple
  cursor**, and so does the initial fact that starts a match.
-/

import RuleNet.Proofs.Build.Seeds

namespace RuleNet

open Stateful

/-- Binding results moves no cursor. -/
theorem BuildContext.bindResults_moves (context : BuildContext) (bindings : List Binding) :
    (context.bindResults bindings).tupleCursor = context.tupleCursor ∧
      (context.bindResults bindings).rootObjectType = context.rootObjectType := by
  induction bindings generalizing context with
  | nil => exact ⟨rfl, rfl⟩
  | cons binding rest hypothesis => exact hypothesis (context.bind binding.result)

namespace Network

variable {network after : Network} {id root : NodeId}

/-! ### Lineages -/

/-- **A node that gives tuples of a width, up to where they come from**: an adapter whose objects
are of the type of a root. Every other node on the way extends the tuples, and whatever it reads
objects from has a known type as well. -/
inductive Lineage (network : Network) (root : NodeId) : NodeId → Nat → Prop
  | adapter {id object : NodeId} {node : Node} (found : network.node? id = some node)
      (kind : node.kind = .adapter) (reads : node.objectParent = some object)
      (reaches : network.objectTypeRoot object = some root) : Lineage network root id 1
  | extended {id tuple : NodeId} {node : Node} {width wider : Nat}
      (found : network.node? id = some node) (extending : node.kind.isBeta = true)
      (gives : node.kind.gives width = some (.tuples wider))
      (reaches : ∀ object, node.objectParent = some object →
        ∃ typed, network.objectTypeRoot object = some typed)
      (parent : node.tupleParent = some tuple) (above : Lineage network root tuple width) :
      Lineage network root id wider

namespace Lineage

variable {width : Nat}

/-- A network that grows keeps it. -/
theorem mono (lineage : network.Lineage root id width) (wider : network.Extends after)
    (stacked : Stacked after.nodes) : after.Lineage root id width := by
  induction lineage with
  | adapter found kind reads reaches =>
    obtain ⟨children, there⟩ := wider.nodes _ _ found
    exact .adapter there kind reads (objectTypeRoot_mono reaches wider stacked)
  | extended found extending gives reaches parent _ hypothesis =>
    obtain ⟨children, there⟩ := wider.nodes _ _ found
    refine .extended there extending gives (fun object named => ?_) parent hypothesis
    obtain ⟨typed, reached⟩ := reaches object named
    exact ⟨typed, objectTypeRoot_mono reached wider stacked⟩

/-- The objects at the top are of a known type. -/
theorem typed (lineage : network.Lineage root id width) :
    ∃ node, network.node? root = some node ∧ node.kind.isObjectTypeRoot = true := by
  induction lineage with
  | adapter _ _ _ reaches => exact climb_typed reaches
  | extended _ _ _ _ _ _ hypothesis => exact hypothesis

/-- **The width is that of what the node gives.** -/
theorem stream (lineage : network.Lineage root id width) (layered : Layered network.nodes) :
    (feedAt network.nodes id).stream = some (.tuples width) := by
  have feeds : ∀ {id : NodeId} {node : Node}, network.node? id = some node →
      feedAt network.nodes id = node.feed (feedAt network.nodes) := by
    intro id node found
    obtain rfl := node?_id found
    exact layered.feed_node (node?_mem found)
  induction lineage with
  | adapter found kind _ _ => rw [feeds found, Node.feed, kind, NodeKind.gives]
  | extended found _ gives _ parent _ hypothesis =>
    rw [feeds found, Node.feed, Node.widthRead, parent]
    simp only [Feed.width_of_stream hypothesis]
    exact gives

end Lineage

/-- What extends tuples gives tuples. -/
theorem gives_of_isBeta {kind : NodeKind} (extending : kind.isBeta = true) (width : Nat) :
    ∃ wider, kind.gives width = some (.tuples wider) := by
  cases kind with
  | join _ | existential _ _ | accumulate _ _ _ | invoker _ _ _ => exact ⟨_, rfl⟩
  | _ => cases extending

end Network

namespace Build

open Builder

variable {bench : Workbench}

/-! ### Steps that move the object cursor -/

/-- **Only the object cursor and the entry point have moved.** -/
def Aimed (context : BuildContext) (bench : Workbench) : Prop :=
  ∃ object entry, bench.context = { context with objectCursor := object, entryPoint := entry }

variable {context : BuildContext}

theorem Still.aimed {α : Type} {step : Build α} (still : Still step) :
    Keeps (Aimed context) step := by
  rintro start ⟨object, entry, same⟩
  exact (still _ start same).mono (fun _ _ kept => ⟨object, entry, kept⟩)
    fun _ _ kept => ⟨object, entry, kept⟩

/-- Such a move. -/
theorem modifyContext_aimed {change : BuildContext → BuildContext}
    (moves : ∀ context : BuildContext, ∃ object entry,
      change context = { context with objectCursor := object, entryPoint := entry }) :
    Keeps (Aimed context) (modifyContext change) := by
  rintro start ⟨object, entry, same⟩
  obtain ⟨other, root, moved⟩ := moves start.context
  refine ⟨other, root, ?_⟩
  show change start.context = _
  rw [moved, same]

theorem setObjectCursor_aimed (node : NodeId) :
    Keeps (Aimed context) (modifyContext fun context => context.setObjectCursor node) :=
  modifyContext_aimed fun context => ⟨some node, context.entryPoint, rfl⟩

theorem readSource_aimed (source : Source) (type : ObjectType) :
    Keeps (Aimed context) (readSource source type) := by
  unfold readSource
  cases source with
  | entryPoint name =>
    refine keeps_bind (entryPointRoot_still name).aimed fun root => ?_
    refine keeps_bind (modifyContext_aimed fun _ => ⟨some root, some root, rfl⟩) fun _ => ?_
    exact keeps_bind (objectTypeNode_still root type).aimed setObjectCursor_aimed
  | stream name =>
    refine keeps_bind (streamRoot_still name type).aimed fun root => ?_
    refine keeps_bind (modifyContext_aimed fun _ => ⟨some root, none, rfl⟩) fun _ => ?_
    refine keeps_bind (streamType_keeps name root) fun carried => ?_
    split
    · exact keeps_pure _
    · split
      · exact keeps_bind (objectTypeNode_still root type).aimed setObjectCursor_aimed
      · exact keeps_throw _

theorem filter_aimed (single : SingleConstraint) : Keeps (Aimed context) (filter single) := by
  unfold filter
  refine keeps_bind context_keeps fun known => keeps_bind (ofOutcome_keeps _) fun parent => ?_
  refine keeps_bind (request_still _ _ _).aimed fun node => keeps_bind builder_keeps fun now => ?_
  exact keeps_bind (place_still _ _).aimed setObjectCursor_aimed

/-- **The objects of a pattern.** -/
theorem objects_aimed (leaf : Pattern) : Keeps (Aimed context) (objects leaf) := by
  unfold objects
  refine keeps_bind (readSource_aimed _ _) fun _ => keeps_bind context_keeps fun known => ?_
  refine keeps_bind (ofOutcome_keeps _) fun classified => ?_
  refine keeps_bind (keeps_forM fun single _ => ?_) fun _ => ?_
  · exact keeps_bind (fun _ held => held) fun _ => (report_still _).aimed
  refine keeps_bind (keeps_forM fun single _ => filter_aimed single) fun _ => ?_
  exact keeps_bind context_keeps fun _ => ofOutcome_keeps _

/-- **What the objects of a pattern leave**: a cursor on objects of a known type. -/
structure Hung (before after : Workbench) (object : NodeId) : Prop where
  widened : before.builder.Widened after.builder
  aimed : Aimed before.context after
  cursor : after.context.objectCursor = some object
  reaches : ∃ typed, after.builder.network.objectTypeRoot object = some typed

theorem objects_hangs (complete : bench.builder.Complete) (leaf : Pattern) :
    Ensures (objects leaf) bench (fun _ after => ∃ object, Hung bench after object)
      fun _ _ => True := by
  have wants : leaf.Wants fun _ => True := ⟨fun _ _ => trivial, fun _ => trivial⟩
  have widens := objects_tracks (widened_steady bench.builder).upheld.tracked wants
    complete.widened
  have aims := @objects_aimed bench.context leaf bench ⟨_, _, rfl⟩
  refine ((widens.both aims).both (objects_outlined complete.toLinked leaf)).mono
    (fun _ after ended => ?_) fun _ _ _ => trivial
  obtain ⟨⟨⟨widened, _⟩, aimed⟩, _, _, read⟩ := ended
  obtain ⟨object, cursor, rooted⟩ := read.object
  exact ⟨object, widened, aimed, cursor,
    Network.objectTypeRoot_of_rooted read.linked.stacked rooted⟩

/-! ### The tuple cursor -/

/-- **The tuple cursor has a lineage**, and the context knows the typed node at its top. -/
def Descends (bench : Workbench) : Prop :=
  ∃ tuple root width, bench.context.tupleCursor = some tuple ∧
    bench.context.rootObjectType = some root ∧ bench.builder.network.Lineage root tuple width

/-- Only the cursor and the root matter. -/
theorem Descends.congr {other : Workbench} (descends : Descends bench)
    (network : other.builder.network = bench.builder.network)
    (tuple : other.context.tupleCursor = bench.context.tupleCursor)
    (root : other.context.rootObjectType = bench.context.rootObjectType) : Descends other := by
  obtain ⟨id, top, width, cursor, typed, lineage⟩ := descends
  exact ⟨id, top, width, tuple.trans cursor, root.trans typed, network ▸ lineage⟩

/-- Objects are hung beside the tuples. -/
theorem Descends.hung {after : Workbench} {object : NodeId} (descends : Descends bench)
    (hung : Hung bench after object) : Descends after := by
  obtain ⟨id, top, width, cursor, typed, lineage⟩ := descends
  obtain ⟨_, _, same⟩ := hung.aimed
  refine ⟨id, top, width, ?_, ?_, lineage.mono hung.widened.2.network hung.widened.1.stacked⟩
  · rw [same, cursor]
  · rw [same, typed]

/-- **A node that extends the tuples at the cursor** goes on with their lineage. -/
theorem extend_descends (complete : bench.builder.Complete) (descends : Descends bench)
    {kind : NodeKind} (extending : kind.isBeta = true) {tuple : NodeId}
    (cursor : bench.context.tupleCursor = some tuple) {object : Option NodeId}
    (reaches : ∀ id, object = some id →
      ∃ typed, bench.builder.network.objectTypeRoot id = some typed) :
    Ensures (extend kind tuple object) bench (fun _ after => Descends after) fun _ _ => True := by
  obtain ⟨own, root, width, set, known, lineage⟩ := descends
  obtain rfl : own = tuple := Option.some.inj (set.symm.trans cursor)
  have moves : Moves (some own) kind (some own) := .inr ⟨extending, rfl⟩
  unfold extend
  rw [grown_bind, ensures_bind]
  refine Ensures.mono (grown_widens (.beta extending own object) moves.sharesWith complete)
    (fun id after ended => ?_) fun _ _ _ => trivial
  obtain ⟨widened, same, node, found, ⟨reads, parent⟩, kinds⟩ := ended
  have beta : node.kind.isBeta = true := (NodeKind.isBeta_same kinds).trans extending
  obtain ⟨wider, gives⟩ := Network.gives_of_isBeta beta width
  rw [ensures_modifyContext]
  refine ⟨id, root, wider, rfl, ?_, .extended found beta gives (fun other named => ?_) parent
    (lineage.mono widened.2.network widened.1.stacked)⟩
  · show after.context.rootObjectType = some root
    rw [same, known]
  · obtain ⟨typed, reached⟩ := reaches other (reads.symm.trans named)
    exact ⟨typed, Network.objectTypeRoot_mono reached widened.2.network widened.1.stacked⟩

/-- So does one that also reads objects of a known type. -/
theorem extend_objects_descends (complete : bench.builder.Complete) (descends : Descends bench)
    {kind : NodeKind} (extending : kind.isBeta = true) {tuple : NodeId}
    (cursor : bench.context.tupleCursor = some tuple) {object : NodeId}
    (reaches : ∃ typed, bench.builder.network.objectTypeRoot object = some typed) :
    Ensures (extend kind tuple (some object)) bench (fun _ after => Descends after)
      fun _ _ => True := by
  refine extend_descends complete descends extending cursor fun id named => ?_
  cases named
  exact reaches

/-- An adapter starts a lineage. -/
theorem Adapted.descends {object adapter : NodeId} (adapted : Adapted bench object adapter) :
    Descends bench := by
  obtain ⟨node, found, ⟨reads, _⟩, kind⟩ := adapted.stands
  obtain ⟨root, known, reaches⟩ := adapted.root
  exact ⟨adapter, root, 1, adapted.cursor, known,
    .adapter found (NodeKind.eq_adapter kind) reads reaches⟩

/-! ### Patterns -/

section

variable {before : Workbench} {object : NodeId}

/-- The first plain pattern has an adapter made, and any other one a join. -/
theorem plain_descends (hung : Hung before bench object)
    (begun : ∀ tuple, bench.context.tupleCursor = some tuple → Descends bench) (subject : Variable)
    (constraints : List BoundConstraint) :
    Ensures (plain subject constraints) bench (fun _ after => Descends after) fun _ _ => True := by
  have complete := hung.widened.1
  unfold plain
  simp only [ensures_bind, ensures_context]
  cases cursor : bench.context.tupleCursor with
  | none =>
    simp only [ensures_bind, ensures_modifyContext]
    refine (ensureAdapter_adapts complete cursor hung.cursor).mono (fun _ after ended => ?_)
      fun _ _ _ => trivial
    exact ended.2.descends.congr rfl rfl rfl
  | some tuple =>
    simp only [BuildContext.requireObjectCursor_some hung.cursor, ensures_bind,
      ensures_ofOutcome_ok, ensures_modifyContext]
    exact (extend_objects_descends complete (begun tuple cursor) rfl cursor hung.reaches).mono
      (fun _ after descends => descends.congr rfl rfl rfl) fun _ _ _ => trivial

theorem existential_descends (hung : Hung before bench object) (descends : Descends bench)
    (quantifier : Quantifier) (constraints : List BoundConstraint) :
    Ensures (existential quantifier constraints) bench (fun _ after => Descends after)
      fun _ _ => True := by
  unfold existential
  simp only [ensures_bind, ensures_context, ensures_modifyContext,
    BuildContext.requireObjectCursor_some hung.cursor, ensures_ofOutcome_ok]
  refine ensures_ofOutcome (fun tuple begun => ?_) fun _ _ => trivial
  have cursor := BuildContext.requireTupleCursor_ok begun
  exact (extend_objects_descends hung.widened.1 descends rfl cursor hung.reaches).mono
    (fun _ after descends => descends.congr rfl rfl rfl) fun _ _ _ => trivial

theorem accumulate_descends (hung : Hung before bench object) (descends : Descends bench)
    (bindings : List Binding) (constraints : List BoundConstraint) :
    Ensures (accumulate bindings constraints) bench (fun _ after => Descends after)
      fun _ _ => True := by
  unfold accumulate
  simp only [ensures_bind, ensures_context, ensures_placeAggregates,
    BuildContext.requireObjectCursor_some hung.cursor, ensures_ofOutcome_ok]
  refine ensures_ofOutcome (fun tuple begun => ?_) fun _ _ => trivial
  obtain ⟨tuples, root⟩ := BuildContext.bindResults_moves bench.context bindings
  have cursor := tuples.trans (BuildContext.requireTupleCursor_ok begun)
  let bound : Workbench := { bench with context := bench.context.bindResults bindings }
  have kept : Descends bound := descends.congr rfl tuples root
  exact @extend_objects_descends bound hung.widened.1 kept _ rfl tuple cursor object hung.reaches

end

/-- An invocation reads tuples only. -/
theorem invoke_descends (complete : bench.builder.Complete) (descends : Descends bench)
    (leaf : Pattern) (invocation : Invocation) :
    Ensures (invoke leaf invocation) bench (fun _ after => Descends after) fun _ _ => True := by
  unfold invoke
  simp only [ensures_bind, ensures_context, ensures_modifyContext]
  refine ensures_ofOutcome (fun tuple begun => ?_) fun _ _ => trivial
  refine ensures_ofOutcome (fun args _ => ?_) fun _ _ => trivial
  refine (forM_written _ skip_written).mono (fun _ after written => ?_) fun _ _ never => never.elim
  obtain ⟨tracer, log, rfl⟩ := written
  refine ensures_ofOutcome (fun constraints _ => ?_) fun _ _ => trivial
  refine (@extend_descends (bench.written tracer log) (complete.traced tracer)
    (descends.congr rfl rfl rfl) _ rfl tuple (BuildContext.requireTupleCursor_ok begun) none
    fun id named => ?_).mono (fun _ after descends => descends.congr rfl rfl rfl)
    fun _ _ _ => trivial
  cases named

/-- **Every use of a pattern** leaves a lineage at the tuple cursor, if there was one at the cursor
before. -/
theorem use_descends (complete : bench.builder.Complete) {leaf : Pattern}
    (begun : ∀ tuple, bench.context.tupleCursor = some tuple → Descends bench)
    (needs : leaf.needsTuple = true → Descends bench) :
    Ensures (use leaf) bench (fun _ after => Descends after) fun _ _ => True := by
  unfold Pattern.needsTuple at needs
  unfold use
  cases how : leaf.use with
  | plain =>
    rw [ensures_bind]
    refine (objects_hangs complete leaf).mono (fun constraints mid ended => ?_) fun _ _ _ => trivial
    obtain ⟨object, hung⟩ := ended
    refine plain_descends hung (fun tuple cursor => ?_) leaf.subject constraints
    obtain ⟨_, _, same⟩ := hung.aimed
    rw [same] at cursor
    exact (begun tuple cursor).hung hung
  | existential quantifier =>
    rw [how] at needs
    rw [ensures_bind]
    refine (objects_hangs complete leaf).mono (fun constraints mid ended => ?_) fun _ _ _ => trivial
    obtain ⟨object, hung⟩ := ended
    exact existential_descends hung ((needs rfl).hung hung) quantifier constraints
  | accumulate bindings =>
    rw [how] at needs
    rw [ensures_bind]
    refine (objects_hangs complete leaf).mono (fun constraints mid ended => ?_) fun _ _ _ => trivial
    obtain ⟨object, hung⟩ := ended
    exact accumulate_descends hung ((needs rfl).hung hung) bindings constraints
  | invoke invocation =>
    rw [how] at needs
    exact invoke_descends complete (needs rfl) leaf invocation

/-- **A pattern** leaves a lineage at the tuple cursor. -/
theorem pattern_descends (complete : bench.builder.Complete) (leaf : Pattern)
    (begun : ∀ tuple, bench.context.tupleCursor = some tuple → Descends bench) :
    Ensures (pattern leaf) bench (fun _ after => Descends after) fun _ _ => True := by
  rw [pattern_eq]
  unfold start
  simp only [ensures_bind, ensures_context]
  by_cases first : (leaf.needsTuple && bench.context.tupleCursor.isNone) = true
  · rw [if_pos first]
    rw [Bool.and_eq_true, Option.isNone_iff_eq_none] at first
    refine (initialFact_seeds complete first.2).mono (fun _ mid started => ?_) fun _ _ _ => trivial
    obtain ⟨complete, _, _, adapted, _⟩ := started
    have descends := adapted.descends
    refine (use_descends complete (fun _ _ => descends) fun _ => descends).mono
      (fun _ last kept => ?_) fun _ _ _ => trivial
    exact (check_keeps last kept).mono (fun _ _ kept => kept) fun _ _ _ => trivial
  · rw [if_neg first, ensures_pure]
    refine (use_descends complete begun fun needed => ?_).mono (fun _ last kept => ?_)
      fun _ _ _ => trivial
    · rw [needed, Bool.true_and, Option.isNone_iff_eq_none] at first
      obtain ⟨tuple, cursor⟩ := Option.ne_none_iff_exists'.mp first
      exact begun tuple cursor
    · exact (check_keeps last kept).mono (fun _ _ kept => kept) fun _ _ _ => trivial

end Build

end RuleNet
