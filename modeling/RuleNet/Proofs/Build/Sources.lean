/-
**The objects of a pattern.**

A pattern reads a source, narrowed to its type, and hangs its own constraints below as filters. The
object cursor then supplies what the pattern's source, type and constraints say, whatever nodes were
shared on the way.

* `entryPointRoot_ends`, `streamRoot_ends`, `objectTypeNode_ends`: the nodes that patterns share;
* `readSource_ends`: the objects of a source and type;
* `filters_ends`: filters;
* `objects_ends`: **the object cursor supplies the candidates of the pattern**, and the constraints
  that are left have their places.
-/

import RuleNet.Proofs.Build.Agreement
import RuleNet.Proofs.Build.Standard

namespace RuleNet

open Stateful

/-- Nothing is lost when objects are first narrowed to a wider type. -/
theorem Operator.narrow_narrow {wide type : ObjectType} (accepts : wide.accepts type = true)
    (objects : List Held) : narrow type (narrow wide objects) = narrow type objects := by
  unfold narrow
  rw [List.filter_filter]
  refine List.filter_congr fun held _ => ?_
  cases passes : type.accepts held.value.objectType with
  | false => rfl
  | true =>
    rw [Bool.true_and]
    rcases (ObjectType.accepts_iff wide type).mp accepts with rfl | ⟨rfl, later⟩
    · exact passes
    · rcases (ObjectType.accepts_iff type _).mp passes with same | ⟨_, later⟩
      · exact (ObjectType.accepts_iff _ _).mpr (Or.inr ⟨rfl, same ▸ later⟩)
      · exact (ObjectType.accepts_iff _ _).mpr (Or.inr ⟨rfl, later⟩)

/-- The contexts have the same tuple cursor and the same places. -/
structure BuildContext.SameScope (context other : BuildContext) : Prop where
  tupleCursor : context.tupleCursor = other.tupleCursor
  width : context.width = other.width
  bound : context.bound = other.bound

namespace BuildContext.SameScope

variable {context other : BuildContext}

theorem refl (context : BuildContext) : context.SameScope context :=
  ⟨rfl, rfl, rfl⟩

theorem trans {last : BuildContext} (same : context.SameScope other)
    (later : other.SameScope last) : context.SameScope last :=
  ⟨same.1.trans later.1, same.2.trans later.2, same.3.trans later.3⟩

theorem offset? (same : context.SameScope other) (v : Variable) :
    context.offset? v = other.offset? v := by
  unfold BuildContext.offset?
  rw [same.bound]

theorem slot (same : context.SameScope other) (own : Variable) :
    context.slot own = other.slot own := by
  funext v
  simp only [BuildContext.slot, same.offset?]

theorem placed (same : context.SameScope other) (own : Variable) :
    context.placed own = other.placed own := by
  funext single
  simp only [BuildContext.placed, same.slot]

theorem reads (same : context.SameScope other) {own v : Variable} :
    context.Reads own v ↔ other.Reads own v := by
  simp only [BuildContext.Reads, same.offset?]

theorem bind (same : context.SameScope other) (v : Variable) :
    (context.bind v).SameScope (other.bind v) where
  tupleCursor := same.tupleCursor
  width := congrArg (· + 1) same.width
  bound := by simp only [BuildContext.bind, same.bound, same.width]

end BuildContext.SameScope

theorem Network.narrowedType?_some {network : Network} {id : NodeId} {type : ObjectType}
    (narrows : network.narrowedType? id = some type) :
    ∃ node, network.node? id = some node ∧ node.kind = .objectType type := by
  unfold narrowedType? at narrows
  split at narrows
  · rename_i found
    cases narrows
    exact ⟨_, found, rfl⟩
  · cases narrows

namespace Build

open Builder

variable {callbacks : Callback → Prop} {bench : Workbench} {bad : Failure → Workbench → Prop}

/-! ### Shared nodes -/

section

variable {good : NodeId → Workbench → Prop}

/-- **The root of an entry point.** -/
theorem entryPointRoot_ends (sound : bench.builder.Sound callbacks) (name : String)
    (ended : ∀ root node builder log, Advances callbacks bench.builder builder →
      builder.network.node? root = some node → node.kind = .entryPoint name →
      good root ⟨builder, bench.context, log⟩)
    (failed : ∀ failure builder log, Advances callbacks bench.builder builder →
      bad failure ⟨builder, bench.context, log⟩) :
    Ensures (entryPointRoot name) bench good bad := by
  unfold entryPointRoot
  simp only [ensures_bind, ensures_builder]
  split
  · rename_i root found
    obtain ⟨node, there, kind⟩ := sound.entryPoints (name, root) (NameMap.mem_of_get? found)
    simp only [ensures_bind, ensures_pure]
    exact ensures_report fun tracer log =>
      ended root node _ log (sound.advances.traced tracer) there kind
  · simp only [ensures_bind]
    refine grow_ends (fun _ => false) sound ?_ ?_
      (fun wanted root builder log kind _ _ advances attached => ?_) failed
    · exact fun id => ⟨rfl, rfl⟩
    · exact fun _ none => by cases none
    have there := attached.own rfl
    have known := Network.contains_of_node? there
    have registered : Advances callbacks bench.builder
        { builder with entryPoints := builder.entryPoints.insert name root } := by
      refine ⟨{ advances.sound with
        tidy := { advances.sound.tidy with entryPoints := ?_ }, entryPoints := ?_ },
        advances.network, advances.config⟩
      · intro entry member
        rcases NameMap.mem_set member with rfl | old
        · exact known
        · exact advances.sound.tidy.entryPoints entry old
      · intro entry member
        rcases NameMap.mem_set member with rfl | old
        · exact ⟨wanted, there, kind⟩
        · exact advances.sound.entryPoints entry old
    simp only [ensures_modifyBuilder, ensures_pure]
    exact ensures_log fun tracer log =>
      ended root wanted _ log (registered.traced tracer) there kind

/-- **The root of a stream**, of some type. -/
theorem streamRoot_ends (sound : bench.builder.Sound callbacks) (name : String) (type : ObjectType)
    (ended : ∀ root node carried builder log, Advances callbacks bench.builder builder →
      builder.network.node? root = some node → node.kind = .stream name carried →
      good root ⟨builder, bench.context, log⟩)
    (failed : ∀ failure builder log, Advances callbacks bench.builder builder →
      bad failure ⟨builder, bench.context, log⟩) :
    Ensures (streamRoot name type) bench good bad := by
  unfold streamRoot
  simp only [ensures_bind, ensures_builder]
  split
  · rename_i root found
    obtain ⟨node, carried, there, kind⟩ := sound.streams (name, root) (NameMap.mem_of_get? found)
    simp only [ensures_bind, ensures_pure]
    exact ensures_report fun tracer log =>
      ended root node carried _ log (sound.advances.traced tracer) there kind
  · simp only [ensures_bind]
    refine grow_ends (fun _ => false) sound ?_ ?_
      (fun wanted root builder log kind _ _ advances attached => ?_) failed
    · exact fun id => ⟨rfl, rfl⟩
    · exact fun _ none => by cases none
    have there := attached.own rfl
    have known := Network.contains_of_node? there
    have registered : Advances callbacks bench.builder
        { builder with streams := builder.streams.insert name root } := by
      refine ⟨{ advances.sound with
        tidy := { advances.sound.tidy with streams := ?_ }, streams := ?_ },
        advances.network, advances.config⟩
      · intro entry member
        rcases NameMap.mem_set member with rfl | old
        · exact known
        · exact advances.sound.tidy.streams entry old
      · intro entry member
        rcases NameMap.mem_set member with rfl | old
        · exact ⟨wanted, type, there, kind⟩
        · exact advances.sound.streams entry old
    simp only [ensures_modifyBuilder, ensures_pure]
    exact ensures_log fun tracer log =>
      ended root wanted type _ log (registered.traced tracer) there kind

/-- A node that narrows supplies what its object parent supplies, narrowed. -/
theorem supplies_objectType {before after : Network} {trust : Prop} {root id : NodeId} {node : Node}
    {type : ObjectType} {supply : WorkingMemory → Outcome (List Held)}
    (supplies : before.Supplies trust root supply)
    (kind : node.kind = .objectType type) (above : node.objectParent = some root)
    (stream : (feedAt after.nodes id).stream = (node.feed (feedAt before.nodes)).stream)
    (like : (feedAt after.nodes id).Like (node.feed (feedAt before.nodes))) :
    after.Supplies trust id fun memory => (supply memory).map (Operator.narrow type) := by
  have given : (node.feed (feedAt before.nodes)).stream = some .objects := by
    simp only [Node.feed, kind, NodeKind.gives]
  refine ⟨stream.trans given, fun trusted memory => ?_⟩
  rw [like.objects given]
  simp only [Node.feed, Node.objectsGiven, kind, Node.objectsRead, Node.needObject, above,
    Outcome.ok_bind, supplies.objects trusted]
  exact Outcome.bind_map_ok _

/-- **The node below a root that narrows to a type.** -/
theorem objectTypeNode_ends (sound : bench.builder.Sound callbacks) {trust : Prop} {root : NodeId}
    {supply : WorkingMemory → Outcome (List Held)} (type : ObjectType)
    (supplies : bench.builder.network.Supplies trust root supply)
    (ended : ∀ id builder log, Advances callbacks bench.builder builder →
      builder.network.Supplies trust id (fun memory => (supply memory).map (Operator.narrow type)) →
      good id ⟨builder, bench.context, log⟩)
    (failed : ∀ failure builder log, Advances callbacks bench.builder builder →
      bad failure ⟨builder, bench.context, log⟩) :
    Ensures (objectTypeNode root type) bench good bad := by
  unfold objectTypeNode
  simp only [ensures_bind, ensures_builder]
  split
  · rename_i existing found
    simp only [ensures_bind, ensures_pure]
    refine ensures_report fun tracer log =>
      ended existing _ log (sound.advances.traced tracer) ?_
    show bench.builder.network.Supplies trust existing _
    -- the node is listed as a child of the root, so the root is its parent
    have narrows := List.find?_some found
    have listed := (List.mem_filter.mp (List.mem_of_find?_eq_some found)).1
    unfold Network.children at listed
    split at listed
    · rename_i owner ownerFound
      obtain ⟨ownerMember, ownerNamed, _⟩ := sound.feed_node? ownerFound
      obtain ⟨child, member, rfl, back⟩ :=
        sound.tidy.network.children owner ownerMember existing listed
      have there := sound.tidy.network.node?_of_mem member
      obtain ⟨node, found, kind⟩ := Network.narrowedType?_some (of_decide_eq_true narrows)
      obtain rfl : child = node := Option.some.inj (there.symm.trans found)
      have above : child.objectParent = some root := by
        have fits := sound.layered.fits member
        have alone : child.tupleParent = none := by
          simpa [kind, NodeKind.readsTuples] using fits.tuples
        obtain ⟨parent, named, _⟩ := fits.objectParent (by rw [kind]; rfl)
        have only : owner.id = parent := by simpa [Node.parents, alone, named] using back
        rw [named, ← only, ownerNamed]
      have feed := sound.layered.feed_node member
      exact supplies_objectType supplies kind above (congrArg Feed.stream feed)
        (feed ▸ Feed.like_refl _)
    · cases listed
  · simp only [ensures_bind]
    refine grow_ends (fun _ => true) sound ?_ ?_
      (fun wanted id builder log kind above _ advances attached => ?_) failed
    · exact fun id => ⟨⟨root, rfl, supplies.stream⟩, rfl⟩
    · exact fun _ none => by cases none
    refine ended id builder log advances ?_
    exact supplies_objectType supplies kind above attached.stream
      (attached.like fun _ => Or.inl (by rw [kind]; rfl))

end

/-! ### Candidates -/

section

variable {good : Unit → Workbench → Prop}

theorem ensures_streamType {good : ObjectType → Workbench → Prop} {name : String} {root : NodeId}
    {node : Node} {carried : ObjectType} (found : bench.builder.network.node? root = some node)
    (kind : node.kind = .stream name carried) (ended : good carried bench) :
    Ensures (streamType name root) bench good bad := by
  unfold streamType
  simp only [ensures_bind, ensures_builder, found]
  obtain ⟨id, nodeKind, object, tuple, children⟩ := node
  cases kind
  exact ended

/-- **The objects of a source and type.** -/
theorem readSource_ends (sound : bench.builder.Sound callbacks) (trust : Prop) (source : Source)
    (type : ObjectType)
    (ended : ∀ id builder context log, Advances callbacks bench.builder builder →
      context.SameScope bench.context → context.objectCursor = some id →
      builder.network.Supplies trust id
        (fun memory => .ok (Operator.narrow type (memory.objects source))) →
      good () ⟨builder, context, log⟩)
    (failed : ∀ failure builder context log, Advances callbacks bench.builder builder →
      bad failure ⟨builder, context, log⟩) :
    Ensures (readSource source type) bench good bad := by
  unfold readSource
  cases source with
  | entryPoint name =>
    simp only [ensures_bind, ensures_modifyContext]
    refine entryPointRoot_ends sound name (fun root node builder log advances found kind => ?_)
      fun failure builder log advances => failed failure builder _ log advances
    refine objectTypeNode_ends advances.sound type
      (advances.sound.supplies_entryPoint trust found kind) (fun id last log narrows supplies => ?_)
      fun failure last log narrows => failed failure last _ log (advances.trans narrows)
    exact ended id last _ log (advances.trans narrows) ⟨rfl, rfl, rfl⟩ rfl supplies
  | stream name =>
    simp only [ensures_bind, ensures_modifyContext]
    refine streamRoot_ends sound name type
      (fun root node carried builder log advances found kind => ?_)
      fun failure builder log advances => failed failure builder _ log advances
    refine ensures_streamType found kind ?_
    have supplies := advances.sound.supplies_stream trust found kind
    by_cases same : carried = type
    · rw [if_pos same]
      subst same
      exact ended root builder _ log advances ⟨rfl, rfl, rfl⟩ rfl supplies
    · rw [if_neg same]
      by_cases accepts : carried.accepts type = true
      · rw [if_pos accepts]
        simp only [ensures_bind, ensures_modifyContext]
        refine objectTypeNode_ends advances.sound type supplies
          (fun id last log narrows narrowed => ?_)
          fun failure last log narrows => failed failure last _ log (advances.trans narrows)
        refine ended id last _ log (advances.trans narrows) ⟨rfl, rfl, rfl⟩ rfl ?_
        simpa only [Except.map, Operator.narrow_narrow accepts] using narrowed
      · rw [if_neg accepts]
        exact failed _ _ _ _ advances

/-- **A filter below the object cursor.** -/
theorem filter_ends (sound : bench.builder.Sound callbacks) {trust : Prop}
    (trusted : trust → Trusted callbacks bench.builder.config) {single : SingleConstraint}
    (own : callbacks (.predicate single.predicate)) {parent : NodeId}
    {supply : WorkingMemory → Outcome (List Held)}
    (cursor : bench.context.objectCursor = some parent)
    (supplies : bench.builder.network.Supplies trust parent supply)
    (ended : ∀ id builder context log, Advances callbacks bench.builder builder →
      context.SameScope bench.context → context.objectCursor = some id →
      builder.network.Supplies trust id
        (fun memory => supply memory >>= fun objects =>
          (Operator.alphaObjects single.predicate single.reads.length objects).outcome) →
      good () ⟨builder, context, log⟩)
    (failed : ∀ failure builder context log, Advances callbacks bench.builder builder →
      bad failure ⟨builder, context, log⟩) :
    Ensures (filter single) bench good bad := by
  unfold filter
  simp only [ensures_bind, ensures_context, ensures_builder, ensures_modifyContext]
  refine ensures_ofOutcome (fun found required => ?_) fun failure _ =>
    failed failure _ _ _ sound.advances
  obtain rfl : parent = found := by
    simpa [BuildContext.requireObjectCursor, cursor] using required
  refine grow_ends BuildConfig.shareAlpha sound ?_ ?_
    (fun wanted id builder log kind above _ advances attached => ?_)
    fun failure builder log advances => failed failure builder _ log advances
  · exact fun id => ⟨⟨parent, rfl, supplies.stream⟩, rfl⟩
  · intro callback listed
    rw [List.mem_singleton.mp listed]
    exact own
  have given : (wanted.feed (feedAt bench.builder.network.nodes)).stream = some .objects := by
    simp only [Node.feed, kind, NodeKind.gives]
  refine ended id builder _ log advances ⟨rfl, rfl, rfl⟩ rfl
    ⟨attached.stream.trans given, fun trusts memory => ?_⟩
  have like := attached.like fun shared => Or.inr (trusted trusts (Or.inl shared))
  rw [like.objects given]
  simp only [Node.feed, Node.objectsGiven, kind, Node.objectsRead, Node.needObject, above,
    Outcome.ok_bind, supplies.objects trusts]

/-- **Filters hang below each other.** -/
theorem filters_ends {singles : List SingleConstraint} (sound : bench.builder.Sound callbacks)
    {trust : Prop} (trusted : trust → Trusted callbacks bench.builder.config)
    (own : ∀ single ∈ singles, callbacks (.predicate single.predicate)) {parent : NodeId}
    {supply : WorkingMemory → Outcome (List Held)}
    (cursor : bench.context.objectCursor = some parent)
    (supplies : bench.builder.network.Supplies trust parent supply)
    (ended : ∀ id builder context log, Advances callbacks bench.builder builder →
      context.SameScope bench.context → context.objectCursor = some id →
      builder.network.Supplies trust id
        (fun memory => supply memory >>= fun objects =>
          (Pattern.filtered singles objects).outcome) →
      good () ⟨builder, context, log⟩)
    (failed : ∀ failure builder context log, Advances callbacks bench.builder builder →
      bad failure ⟨builder, context, log⟩) :
    Ensures (singles.forM filter) bench good bad := by
  induction singles generalizing bench parent supply with
  | nil =>
    refine ended parent _ _ _ sound.advances (.refl _) cursor
      ⟨supplies.stream, fun trusts memory => ?_⟩
    rw [supplies.objects trusts]
    cases supply memory <;> rfl
  | cons single rest hypothesis =>
    show Ensures (filter single >>= fun _ => rest.forM filter) bench good bad
    rw [ensures_bind]
    refine filter_ends sound trusted (own single List.mem_cons_self) cursor supplies
      (fun id builder context log advances same cursor supplies => ?_) failed
    refine hypothesis advances.sound (advances.config ▸ trusted)
      (fun other member => own other (List.mem_cons_of_mem _ member)) cursor supplies
      (fun last final inner lines later scope cursor supplies => ?_)
      fun failure _ _ _ later => failed failure _ _ _ (advances.trans later)
    refine ended last final inner lines (advances.trans later)
      (scope.trans same) cursor ?_
    refine ⟨supplies.stream, fun trusts memory => ?_⟩
    rw [supplies.objects trusts, bind_assoc]
    simp only [Pattern.filtered, Traced.outcome_bind]

/-- **The object cursor supplies the candidates of a pattern**, and the constraints that are left
have their places. -/
theorem objects_ends (sound : bench.builder.Sound callbacks) {trust : Prop}
    (trusted : trust → Trusted callbacks bench.builder.config) {pattern : Pattern}
    (own : ∀ callback ∈ pattern.callbacks, callbacks callback)
    {good : List BoundConstraint → Workbench → Prop}
    (ended : ∀ id builder context log, Advances callbacks bench.builder builder →
      context.SameScope bench.context → context.objectCursor = some id →
      builder.network.Supplies trust id (fun memory => (pattern.candidates memory).outcome) →
      (∀ single ∈ pattern.constraint.singles, ∀ v ∈ single.reads,
        bench.context.Reads pattern.subject v) →
      good (pattern.otherSingles.map (bench.context.placed pattern.subject))
        ⟨builder, context, log⟩)
    (failed : ∀ failure builder context log, Advances callbacks bench.builder builder →
      bad failure ⟨builder, context, log⟩) :
    Ensures (objects pattern) bench good bad := by
  unfold objects
  simp only [ensures_bind, ensures_context]
  refine readSource_ends sound trust pattern.source pattern.subject.type
    (fun root builder context lines advances same cursor supplies => ?_) failed
  refine ensures_ofOutcome (fun classified sorted => ?_) fun failure _ =>
    failed failure _ _ _ advances
  obtain ⟨alpha, beta, reads⟩ := Classified.partition_ok sorted
  have reported : Keeps (fun after => Advances callbacks builder after.builder ∧
      after.context = context) (classified.constant.forM fun single => do
        log .trace ("skipping constant constraint " ++ single.predicate.key)
        skip single) := by
    refine keeps_forM fun single _ after held => ?_
    rw [ensures_bind]
    refine ensures_log fun tracer log => ?_
    have logged := held.1.traced tracer
    exact ensures_report fun tracer log => ⟨logged.traced tracer, held.2⟩
  have kept := reported ⟨builder, context, lines⟩ ⟨advances.sound.advances, rfl⟩
  refine kept.mono (fun _ after kept => ?_)
    fun failure after kept => failed failure _ _ _ (advances.trans kept.1)
  obtain ⟨mid, between, written⟩ := after
  obtain ⟨skipped, rfl⟩ := kept
  have onward := advances.trans skipped
  have filters : ∀ single ∈ classified.alpha, callbacks (.predicate single.predicate) := by
    intro single member
    rw [alpha] at member
    exact own _ (List.mem_append_left _ (List.mem_map_of_mem (List.mem_filter.mp member).1))
  refine filters_ends onward.sound (onward.config ▸ trusted) filters cursor
    (supplies.mono skipped.network)
    (fun last final inner log later scope cursor supplies => ?_)
    fun failure _ _ _ later => failed failure _ _ _ (onward.trans later)
  have scope : inner.SameScope bench.context := scope.trans same
  refine ensures_ofOutcome (fun constraints bound => ?_) fun failure _ =>
    failed failure _ _ _ (onward.trans later)
  obtain ⟨rfl, _⟩ := SingleConstraint.bindAll_ok bound
  rw [beta, scope.placed]
  refine ended last final inner log (onward.trans later) scope cursor
    ⟨supplies.stream, fun trusts memory => ?_⟩ fun single member v read =>
      same.reads.mp (reads single member v read)
  rw [supplies.objects trusts, alpha]
  rfl

end

end Build

end RuleNet
