/-
**The nodes that patterns share, beside their outline.**

* `Reached`, `Read`: how far a step went, and what it left at the cursors;
* `entryPointRoot_outlined`, `streamRoot_outlined`, `objectTypeNode_outlined`: roots and what they
  are narrowed to;
* `filter_outlined`: a filter is a node below the object cursor, shared or not;
* `bindAll_of_reads`: constraints that were classified can be bound, so only the classification can
  refuse a variable;
* `objects_outlined`: **the objects of a pattern**.
-/

import RuleNet.Proofs.Build.Linked
import RuleNet.Proofs.Build.Sources

namespace RuleNet

open Stateful

theorem BuildContext.requireObjectCursor_some {context : BuildContext} {reader : String}
    {object : NodeId} (cursor : context.objectCursor = some object) :
    context.requireObjectCursor reader = .ok object := by
  simp only [requireObjectCursor, cursor]

theorem BuildContext.requireTupleCursor_some {context : BuildContext} {reader : String}
    {tuple : NodeId} (cursor : context.tupleCursor = some tuple) :
    context.requireTupleCursor reader = .ok tuple := by
  simp only [requireTupleCursor, cursor]

namespace Build

open Builder

/-! ### Shared nodes -/

/-- A step went on from one bench to another, and left the context as it was. -/
structure Reached (before after : Workbench) : Prop where
  linked : after.builder.Linked
  network : before.builder.network.Extends after.builder.network
  context : after.context = before.context

variable {bench : Workbench}

theorem Reached.written (linked : bench.builder.Linked) (tracer : Tracer) (log : List LogLine) :
    Reached bench (bench.written tracer log) :=
  ⟨linked.traced tracer, .refl _, rfl⟩

/-- **A node that is neither narrowed to nor a terminal only uses up an id**, shared or not. -/
theorem grow_outlined {α β : Type} {kind : NodeKind} {tuple object : Option NodeId}
    {next : NodeId → Build α} {more : Stateful Outline β} {good : α → β → Workbench → Prop}
    (share : BuildConfig → Bool) (linked : bench.builder.Linked)
    (parents : ∀ parent ∈ tuple.toList ++ object.toList,
      bench.builder.network.contains parent = true)
    (narrows : kind.narrows? = none) (last : kind.isTerminal = false)
    (rest : ∀ id after, Reached bench after →
      (∃ node, after.builder.network.node? id = some node ∧ node.objectParent = object) →
      Outlined (next id) more after good) :
    Outlined
      (request kind tuple object >>= fun node => builder >>= fun now =>
        place node (share now.config) >>= next)
      (Outline.spend >>= fun _ => more) bench good := by
  unfold Outlined
  simp only [ensures_bind, ensures_builder, result_bind]
  refine grow_grows share linked parents (fun some => absurd narrows some)
    (fun failure exhausted => ?_) fun own id ids builder log handed grew _ => ?_
  · simp only [result_spend_error exhausted]
  · have ledger := grew.ledger
    rw [grownLedger_plain ids narrows last] at ledger
    obtain ⟨node, found, above, _⟩ := grew.there
    have onward := rest id ⟨builder, bench.context, log⟩ ⟨grew.linked, grew.network, rfl⟩
      ⟨node, found, above⟩
    simp only [result_spend_ok handed, ← ledger]
    exact onward

/-- **A root that was just made is registered.** -/
theorem registered_ends {now builder : Builder} {ids : IdSupply} {id own : NodeId}
    {kind : NodeKind} (source : Source) (root : kind.source? = some source)
    (fresh : now.root? source = none)
    (grew : Grew now builder ids ⟨own, kind, none, none, []⟩ id)
    (there : id = own ∧ builder.network.node? id = some ⟨own, kind, none, none, []⟩) :
    (builder.register source id).Linked ∧
      now.network.Extends (builder.register source id).network ∧
      (builder.register source id).root? source = some id ∧
      (builder.register source id).ledger =
        ({ now.ledger with ids := ids } : Ledger).rooted source kind.carries? := by
  obtain ⟨rfl, found⟩ := there
  have plain : kind.narrows? = none ∧ kind.isTerminal = false := by
    cases kind <;> first | exact ⟨rfl, rfl⟩ | cases root
  have bare : ∀ type, builder.network.objectTypeNode? id type = none := by
    intro type
    rw [← Option.isNone_iff_eq_none, ← Option.not_isSome, Network.objectTypeNode?_isSome]
    simp [Network.children, found]
  have unregistered : builder.root? source = none := by rw [grew.root?, fresh]
  have carried : builder.network.streamType? id = kind.carries? := by
    rw [Network.streamType?, found]
    rfl
  have ledger := ledger_register unregistered bare
  rw [grew.ledger, grownLedger_plain ids plain.1 plain.2, carried] at ledger
  refine ⟨grew.linked.register found root, ?_, ?_, ledger⟩
  · rw [network_register]
    exact grew.network
  · rw [root?_register, if_pos rfl]

/-- **The root of an entry point.** -/
theorem entryPointRoot_outlined (linked : bench.builder.Linked) (name : String) :
    Outlined (entryPointRoot name) (Outline.entryPointRoot name) bench fun root _ after =>
      Reached bench after ∧ after.builder.root? (.entryPoint name) = some root := by
  unfold entryPointRoot Outline.entryPointRoot
  refine Outlined.silent (ensures_builder.mpr ⟨rfl, Outlined.look ?_⟩)
  cases registered : bench.builder.entryPoints.get? name with
  | some root =>
    have known : bench.outline.ledger.entryPoints name = true := by
      simp [Workbench.outline, ledger, registered]
    rw [if_pos known]
    exact Outlined.silent (ensures_report fun tracer log =>
      ⟨rfl, Outlined.pure _ _ ⟨.written linked tracer log, registered⟩⟩)
  | none =>
    have unknown : ¬ bench.outline.ledger.entryPoints name = true := by
      simp [Workbench.outline, ledger, registered]
    rw [if_neg unknown]
    unfold Outlined
    simp only [ensures_bind, result_bind]
    refine grow_grows (fun _ => false) linked (fun _ member => by cases member) (fun _ => rfl)
      (fun failure exhausted => ?_) fun own id ids builder log handed grew there => ?_
    · simp only [result_spend_error exhausted]
    · obtain ⟨after, wider, found, ledger⟩ := registered_ends (.entryPoint name) rfl
        registered grew (there rfl)
      simp only [ensures_modifyBuilder, ensures_pure]
      refine ensures_log fun tracer lines => ⟨(), ?_, ⟨after.traced tracer, wider, rfl⟩, found⟩
      simp only [result_spend_ok handed, Outline.modifyLedger, result_modify]
      exact congrArg (fun ledger => (Except.ok (), (⟨ledger, _, _⟩ : Outline))) ledger.symm

/-- **The root of a stream**, and the type that the stream carries. -/
theorem streamRoot_outlined (linked : bench.builder.Linked) (name : String) (type : ObjectType) :
    Outlined (streamRoot name type) (Outline.streamRoot name type) bench fun root carried after =>
      Reached bench after ∧ after.builder.root? (.stream name) = some root ∧
        after.builder.network.streamType? root = some carried := by
  unfold streamRoot Outline.streamRoot
  refine Outlined.silent (ensures_builder.mpr ⟨rfl, Outlined.look ?_⟩)
  cases registered : bench.builder.streams.get? name with
  | some root =>
    obtain ⟨node, found, kind⟩ := linked.roots (.stream name) root registered
    obtain ⟨carried, same⟩ := NodeKind.eq_stream kind
    have typed : bench.builder.network.streamType? root = some carried := by
      rw [Network.streamType?, found, Option.bind_some, same]
      rfl
    have known : bench.outline.ledger.streams name = some carried := by
      simp [Workbench.outline, ledger, registered, typed]
    simp only [known]
    exact Outlined.silent (ensures_report fun tracer log =>
      ⟨rfl, Outlined.pure _ _ ⟨.written linked tracer log, registered, typed⟩⟩)
  | none =>
    have unknown : bench.outline.ledger.streams name = none := by
      simp [Workbench.outline, ledger, registered]
    simp only [unknown]
    unfold Outlined
    simp only [ensures_bind, result_bind]
    refine grow_grows (fun _ => false) linked (fun _ member => by cases member) (fun _ => rfl)
      (fun failure exhausted => ?_) fun own id ids builder log handed grew there => ?_
    · simp only [result_spend_error exhausted]
    · obtain ⟨after, wider, found, ledger⟩ := registered_ends (.stream name) rfl
        registered grew (there rfl)
      simp only [ensures_modifyBuilder, ensures_pure]
      refine ensures_log fun tracer lines =>
        ⟨type, ?_, ⟨after.traced tracer, wider, rfl⟩, found, ?_⟩
      · simp only [result_spend_ok handed, Outline.modifyLedger, result_modify, result_pure]
        exact congrArg (fun ledger => (Except.ok type, (⟨ledger, _, _⟩ : Outline))) ledger.symm
      · show builder.network.streamType? id = some type
        rw [Network.streamType?, (there rfl).2]
        rfl

/-- **The node below a root that narrows to a type.** -/
theorem objectTypeNode_outlined (source : Source) {root : NodeId} (linked : bench.builder.Linked)
    (registered : bench.builder.root? source = some root) (type : ObjectType) :
    Outlined (objectTypeNode root type) (Outline.narrow source type) bench fun id _ after =>
      Reached bench after ∧ after.builder.network.Rooted id := by
  unfold objectTypeNode Outline.narrow
  refine Outlined.silent (ensures_builder.mpr ⟨rfl, Outlined.look ?_⟩)
  have narrowed : bench.outline.ledger.narrowed source type =
      (bench.builder.network.objectTypeNode? root type).isSome :=
    ledger_narrowed_some registered type
  rw [narrowed]
  cases existing : bench.builder.network.objectTypeNode? root type with
  | some id =>
    simp only [Option.isSome_some, if_true]
    have narrows := List.find?_some existing
    obtain ⟨node, found, kind⟩ := Network.narrowedType?_some (of_decide_eq_true narrows)
    exact Outlined.silent (ensures_report fun tracer log => ⟨rfl, Outlined.pure _ _
      ⟨.written linked tracer log, Network.rooted_of_kind found (by rw [kind]; rfl)⟩⟩)
  | none =>
    simp only [Option.isSome_none, Bool.false_eq_true, if_false]
    unfold Outlined
    simp only [ensures_bind, result_bind]
    refine grow_grows (fun _ => true) linked (fun parent named => ?_) (fun _ => rfl)
      (fun failure exhausted => ?_) fun own id ids builder log handed grew _ => ?_
    · rw [List.mem_singleton.mp named]
      exact linked.contains_root registered
    · simp only [result_spend_error exhausted]
    · obtain ⟨node, found, _, typed⟩ := grew.there
      refine ⟨(), ?_, ⟨grew.linked, grew.network, rfl⟩, Network.rooted_of_kind found typed⟩
      simp only [result_spend_ok handed, Outline.modifyLedger, result_modify]
      have ledger := grew.ledger
      rw [grownLedger_objectType linked registered] at ledger
      exact congrArg (fun ledger => (Except.ok (), (⟨ledger, _, _⟩ : Outline))) ledger.symm

/-- A change of the context that does not look at cursors. -/
theorem modifyContext_outlined (change : BuildContext → BuildContext)
    (commutes : ∀ context, (change context).erased = change context.erased)
    (kept : ∀ context, (change context).tupleCursor = context.tupleCursor) :
    Outlined (modifyContext change) (Outline.modifyContext change) bench fun _ _ after =>
      after = { bench with context := change bench.context } := by
  refine ⟨(), ?_, rfl⟩
  simp only [Outline.modifyContext, result_modify, Workbench.outline, commutes, kept]

/-! ### Objects -/

/-- **A step went on to the objects of a pattern.** They are of a known type, and the places and the
tuple cursor are as they were. -/
structure Read (before after : Workbench) : Prop where
  linked : after.builder.Linked
  network : before.builder.network.Extends after.builder.network
  erased : after.context.erased = before.context.erased
  tuple : after.context.tupleCursor = before.context.tupleCursor
  object : ∃ id, after.context.objectCursor = some id ∧ after.builder.network.Rooted id

/-- Where the object cursor was before does not matter. -/
theorem Read.since {start after : Workbench} (read : Read start after)
    (network : bench.builder.network.Extends start.builder.network)
    (erased : start.context.erased = bench.context.erased)
    (tuple : start.context.tupleCursor = bench.context.tupleCursor) : Read bench after :=
  ⟨read.linked, network.trans read.network, read.erased.trans erased, read.tuple.trans tuple,
    read.object⟩

theorem Read.trans {middle after : Workbench} (first : Read bench middle)
    (second : Read middle after) : Read bench after :=
  second.since first.network first.erased first.tuple

/-- **The object cursor moves below the root.** -/
theorem narrow_outlined (source : Source) {root : NodeId} (linked : bench.builder.Linked)
    (registered : bench.builder.root? source = some root) (type : ObjectType) :
    Outlined (objectTypeNode root type >>= fun narrowed =>
        modifyContext fun context => context.setObjectCursor narrowed)
      (Outline.narrow source type) bench fun _ _ after => Read bench after := by
  refine (objectTypeNode_outlined source linked registered type).quietly fun id _ after found => ?_
  obtain ⟨narrowed, rooted⟩ := found
  refine (ensures_modifyContext _).mpr ⟨rfl, narrowed.linked, narrowed.network, ?_, ?_, id, rfl,
    rooted⟩
  · show after.context.erased = _
    rw [narrowed.context]
  · show after.context.tupleCursor = _
    rw [narrowed.context]

/-- The type of a stream is read off its root. -/
theorem streamType_ends {name : String} {root : NodeId} {carried : ObjectType}
    {good : ObjectType → Workbench → Prop} {bad : Failure → Workbench → Prop}
    (typed : bench.builder.network.streamType? root = some carried) (ended : good carried bench) :
    Ensures (streamType name root) bench good bad := by
  unfold Network.streamType? at typed
  cases found : bench.builder.network.node? root with
  | none => simp [found] at typed
  | some node =>
    obtain ⟨own, kind, object, tuple, children⟩ := node
    simp only [found, Option.bind_some] at typed
    cases kind with
    | stream other type =>
      cases typed
      simp only [streamType, ensures_bind, ensures_builder, found]
      exact ended
    | _ => cases typed

/-- **The objects of a source and type.** -/
theorem readSource_outlined (linked : bench.builder.Linked) (source : Source) (type : ObjectType) :
    Outlined (readSource source type) (Outline.readSource source type) bench fun _ _ after =>
      Read bench after := by
  unfold readSource Outline.readSource
  cases source with
  | entryPoint name =>
    refine (entryPointRoot_outlined linked name).bind fun root _ mid found => ?_
    obtain ⟨reached, registered⟩ := found
    refine Outlined.aside rfl rfl ((narrow_outlined (.entryPoint name) (by exact reached.linked)
      (by exact registered) type).mono fun _ _ _ read => read.since reached.network ?_ ?_)
    · rw [← reached.context]
      rfl
    · rw [← reached.context]
  | stream name =>
    refine (streamRoot_outlined linked name type).bind fun root carried mid found => ?_
    obtain ⟨reached, registered, typed⟩ := found
    refine Outlined.aside rfl rfl (Outlined.silent (streamType_ends typed ⟨rfl, ?_⟩))
    have same : mid.context.erased = bench.context.erased ∧
        mid.context.tupleCursor = bench.context.tupleCursor := by
      rw [reached.context]
      exact ⟨rfl, rfl⟩
    by_cases own : carried = type
    · rw [if_pos own, if_pos own]
      obtain ⟨node, found, kind⟩ := reached.linked.roots _ root registered
      obtain ⟨_, sort⟩ := NodeKind.eq_stream kind
      exact Outlined.pure _ _ ⟨reached.linked, reached.network, same.1, same.2, root, rfl,
        Network.rooted_of_kind found (by rw [sort]; rfl)⟩
    · rw [if_neg own, if_neg own]
      by_cases accepts : carried.accepts type = true
      · rw [if_pos accepts, if_pos accepts]
        exact (narrow_outlined (.stream name) (by exact reached.linked) (by exact registered)
          type).mono fun _ _ _ read => read.since reached.network same.1 same.2
      · rw [if_neg accepts, if_neg accepts]
        exact rfl

/-- **A filter below the object cursor.** -/
theorem filter_outlined (linked : bench.builder.Linked) {parent : NodeId}
    (cursor : bench.context.objectCursor = some parent)
    (rooted : bench.builder.network.Rooted parent) (single : SingleConstraint) :
    Outlined (filter single) (do let _ ← Outline.spend) bench fun _ _ after =>
      Read bench after := by
  unfold filter
  refine Outlined.silent (ensures_context.mpr ⟨rfl, ?_⟩)
  rw [BuildContext.requireObjectCursor_some cursor]
  refine Outlined.silent ((ensures_ofOutcome_ok _).mpr ⟨rfl, ?_⟩)
  refine grow_outlined BuildConfig.shareAlpha linked (fun id named => ?_) rfl rfl
    fun id after reached there => ?_
  · rw [List.mem_singleton.mp named]
    exact rooted.contains
  · obtain ⟨node, found, above⟩ := there
    refine ⟨(), ?_, reached.linked, reached.network, ?_, ?_, id, rfl,
      Network.rooted_of_parent found above (rooted.mono reached.network)⟩
    · rfl
    · show after.context.erased = _
      rw [reached.context]
    · show after.context.tupleCursor = _
      rw [reached.context]

/-- **Filters hang below each other.** -/
theorem filters_outlined (linked : bench.builder.Linked) {parent : NodeId}
    (cursor : bench.context.objectCursor = some parent)
    (rooted : bench.builder.network.Rooted parent) (singles : List SingleConstraint) :
    Outlined (singles.forM filter) (singles.forM fun _ => do let _ ← Outline.spend) bench
      fun _ _ after => Read bench after := by
  induction singles generalizing bench parent with
  | nil => exact Outlined.pure _ _ ⟨linked, .refl _, rfl, rfl, parent, cursor, rooted⟩
  | cons single rest hypothesis =>
    show Outlined (filter single >>= fun _ => rest.forM filter)
      ((do let _ ← Outline.spend) >>= fun _ => rest.forM fun _ => do let _ ← Outline.spend) _ _
    refine (filter_outlined linked cursor rooted single).bind fun _ _ mid read => ?_
    obtain ⟨id, cursor, rooted⟩ := read.object
    exact (hypothesis read.linked cursor rooted).mono fun _ _ _ later => read.trans later

end Build

/-! ### Checks -/

section

variable {context other : BuildContext} {own : Variable}

/-- Only the places matter for the class of a constraint. -/
theorem SingleConstraint.classOf_congr (same : context.offset? = other.offset?) (key : String)
    (seen : ConstraintClass) (reads : List Variable) :
    classOf key own context seen reads = classOf key own other seen reads := by
  induction reads generalizing seen with
  | nil => rfl
  | cons v rest hypothesis => simp only [classOf, same, hypothesis]

theorem Classified.partition_congr (same : context.offset? = other.offset?)
    (singles : List SingleConstraint) :
    partition own context singles = partition own other singles := by
  induction singles with
  | nil => rfl
  | cons single rest hypothesis =>
    simp only [partition, SingleConstraint.classify, SingleConstraint.classOf_congr same,
      hypothesis]

theorem BuildContext.requireOffset_congr (same : context.offset? = other.offset?) :
    context.requireOffset = other.requireOffset := by
  funext v reader
  simp only [requireOffset, same]

theorem SingleConstraint.bindAll_congr (same : context.offset? = other.offset?)
    (singles : List SingleConstraint) :
    bindAll singles own context = bindAll singles own other := by
  simp only [bindAll, SingleConstraint.bind, BuildContext.requireOffset_congr same]

/-- **Constraints over variables that have places are bound.** -/
theorem SingleConstraint.bindAll_of_reads {singles : List SingleConstraint}
    (reads : ∀ single ∈ singles, ∀ v ∈ single.reads, context.Reads own v) :
    bindAll singles own context = .ok (singles.map (context.placed own)) := by
  refine Outcome.mapM_eq_ok_map fun single member => ?_
  have slots : (single.reads.mapM fun v =>
      if v.same own then Except.ok Slot.object
      else (context.requireOffset v single.predicate.key >>= fun offset =>
        .ok (Slot.tuple offset) : Outcome Slot)) =
      .ok (single.reads.map (context.slot own)) := by
    refine Outcome.mapM_eq_ok_map fun v read => ?_
    unfold BuildContext.slot
    by_cases same : v.same own = true
    · rw [if_pos same, if_pos same]
    · rw [if_neg same, if_neg same]
      rcases reads single member v read with self | ⟨offset, named⟩
      · exact absurd self same
      · simp [BuildContext.requireOffset, named]
  unfold SingleConstraint.bind
  rw [slots]
  rfl

end

namespace Build

open Builder

variable {bench : Workbench}

/-- The bench differs by what was written to the tracer and the log. -/
def Written (before after : Workbench) : Prop :=
  ∃ tracer log, after = before.written tracer log

theorem forM_written {α : Type} {step : α → Build PUnit} (items : List α)
    (each : ∀ item bench, Ensures (step item) bench (fun _ after => Written bench after)
      fun _ _ => False) :
    Ensures (items.forM step) bench (fun _ after => Written bench after) fun _ _ => False := by
  induction items generalizing bench with
  | nil => exact ⟨bench.builder.tracer, bench.log, rfl⟩
  | cons item rest hypothesis =>
    show Ensures (step item >>= fun _ => rest.forM step) _ _ _
    rw [ensures_bind]
    refine (each item bench).mono (fun _ mid written => ?_) fun _ _ never => never
    obtain ⟨tracer, log, rfl⟩ := written
    refine hypothesis.mono (fun _ after written => ?_) fun _ _ never => never
    obtain ⟨last, lines, rfl⟩ := written
    exact ⟨last, lines, rfl⟩

theorem skip_written (single : SingleConstraint) (bench : Workbench) :
    Ensures (skip single) bench (fun _ after => Written bench after) fun _ _ => False :=
  ensures_report fun tracer log => ⟨tracer, log, rfl⟩

/-- **The objects of a pattern.** -/
theorem objects_outlined (linked : bench.builder.Linked) (pattern : Pattern) :
    Outlined (objects pattern) (Outline.objects pattern) bench fun _ _ after =>
      Read bench after := by
  unfold objects Outline.objects
  refine (readSource_outlined linked pattern.source pattern.subject.type).bind
    fun _ _ mid read => ?_
  refine Outlined.scope ?_
  rw [@Classified.partition_congr mid.context.erased mid.context _ rfl]
  refine Outlined.ofOutcome fun classified sorted => ?_
  refine Outlined.silent ((forM_written classified.constant fun single bench => ?_).mono
    (fun _ after written => ?_) fun _ _ never => never)
  · rw [ensures_bind]
    refine ensures_log fun tracer log => ?_
    exact (skip_written single _).mono (fun _ _ written => written) fun _ _ never => never
  · obtain ⟨tracer, log, rfl⟩ := written
    have read : Read bench (mid.written tracer log) :=
      { read with linked := read.linked.traced tracer }
    obtain ⟨id, cursor, rooted⟩ := read.object
    refine ⟨rfl, Outlined.quietly (@filters_outlined (mid.written tracer log)
      read.linked id cursor rooted classified.alpha) fun _ _ last filtered => ?_⟩
    rw [ensures_bind, ensures_context]
    obtain ⟨_, beta, reads⟩ := Classified.partition_ok sorted
    have same : last.context.offset? = mid.context.offset? :=
      show last.context.erased.offset? = mid.context.erased.offset? by rw [filtered.erased]; rfl
    -- the outline does not bind the constraints that are left, since that cannot fail any more
    have places : ∀ single ∈ classified.beta, ∀ v ∈ single.reads,
        mid.context.Reads pattern.subject v := fun single member =>
      reads single (List.mem_filter.mp (beta ▸ member)).1
    rw [SingleConstraint.bindAll_congr same, SingleConstraint.bindAll_of_reads places,
      ensures_ofOutcome_ok]
    exact ⟨rfl, read.trans filtered⟩

end Build

end RuleNet
