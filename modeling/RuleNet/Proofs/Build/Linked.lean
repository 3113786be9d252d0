/-
**What the basic steps of the compiler write in the ledger.**

* `Builder.Linked`: what the links of a builder with the standard factory look like;
* `ledger_insert`, `ledger_register`: the ledger after a node was added or a root registered;
* `grow_grows`: **asking for a node and attaching it fails only if the ids run out**, and changes
  the ledger in the same way whether or not another node stands in for it;
* `Outlined`: a step does what an outline does, failures included. Sequences of such steps do what
  the sequence of the outlines does.
-/

import RuleNet.Proofs.Build.Outline

namespace RuleNet

open Stateful

/-! ### Links -/

/-- The ledger with a root for a source, which carries a type if it is the root of a stream. -/
def Ledger.rooted (ledger : Ledger) (source : Source) (carried : Option ObjectType) : Ledger :=
  match source with
  | .entryPoint name =>
    { ledger with entryPoints := Function.update ledger.entryPoints name true }
  | .stream name => { ledger with streams := Function.update ledger.streams name carried }

namespace Builder

/-- **The links of a builder with the standard factory.** -/
structure Linked (builder : Builder) : Prop where
  standard : builder.factory = .standard
  tidy : builder.Tidy
  stacked : Network.Stacked builder.network.nodes
  roots : ∀ source root, builder.root? source = some root →
    ∃ node, builder.network.node? root = some node ∧ node.kind.source? = some source

/-- A builder in order has its links in order. -/
theorem Sound.linked {callbacks : Callback → Prop} {builder : Builder}
    (sound : builder.Sound callbacks) : builder.Linked where
  standard := sound.standard
  tidy := sound.tidy
  stacked := sound.layered.stacked
  roots source root registered := by
    cases source with
    | entryPoint name =>
      obtain ⟨node, found, kind⟩ := sound.entryPoints _ (NameMap.mem_of_get? registered)
      exact ⟨node, found, by rw [kind]; rfl⟩
    | stream name =>
      obtain ⟨node, type, found, kind⟩ := sound.streams _ (NameMap.mem_of_get? registered)
      exact ⟨node, found, by rw [kind]; rfl⟩

namespace Linked

variable {builder : Builder} {source other : Source} {root : NodeId}

theorem contains_root (linked : builder.Linked) (registered : builder.root? source = some root) :
    builder.network.contains root = true := by
  obtain ⟨node, found, _⟩ := linked.roots source root registered
  exact Network.contains_of_node? found

/-- A root belongs to one source. -/
theorem root_injective (linked : builder.Linked) (registered : builder.root? source = some root)
    (again : builder.root? other = some root) : other = source := by
  obtain ⟨node, found, kind⟩ := linked.roots source root registered
  obtain ⟨same, there, kinds⟩ := linked.roots other root again
  obtain rfl := Option.some.inj (found.symm.trans there)
  exact Option.some.inj (kinds.symm.trans kind)

/-- Nobody looks at the tracer. -/
theorem traced (linked : builder.Linked) (tracer : Tracer) : (builder.traced tracer).Linked :=
  ⟨linked.standard, { linked.tidy with }, linked.stacked, linked.roots⟩

/-- Asking for a node uses up an id. -/
theorem asked (linked : builder.Linked) {id : NodeId} {ids : IdSupply}
    (handed : builder.ids.next = .ok (id, ids)) (wanted : NodeRequest) :
    (builder.asked ids wanted).Linked := by
  have grown := (IdSupply.next_increases handed).2
  have below : ∀ node ∈ builder.network.nodes, node.id.index < ids.nextIndex :=
    fun node member => by
      have before := linked.tidy.below node member
      omega
  exact ⟨linked.standard, { linked.tidy with below := below }, linked.stacked, linked.roots⟩

/-- **A node without children can be added** below nodes that are there, under the id that was
handed out last. -/
theorem insert (linked : builder.Linked) {node : Node}
    (larger : ∀ other ∈ builder.network.nodes, other.id.index < node.id.index)
    (below : node.id.index < builder.ids.nextIndex) (childless : node.children = [])
    (parents : ∀ parent ∈ node.parents, builder.network.contains parent = true) :
    ({ builder with network := builder.network.insert node } : Builder).Linked := by
  have new : builder.network.contains node.id = false :=
    Network.contains_eq_false.mpr fun other member same =>
      Nat.lt_irrefl _ (same ▸ larger other member)
  have wider := Network.extends_insert new
  refine ⟨linked.standard, ⟨linked.tidy.network.insert new childless, fun other member => ?_,
    fun entry member => wider.contains (linked.tidy.entryPoints entry member),
    fun entry member => wider.contains (linked.tidy.streams entry member)⟩,
    Network.stacked_insert linked.stacked larger parents, fun source root registered => ?_⟩
  · rcases List.mem_cons.mp member with rfl | old
    · exact below
    · obtain ⟨before, inside, rfl⟩ := List.mem_map.mp old
      show (Network.adopted node before).id.index < _
      rw [Network.id_adopted]
      exact linked.tidy.below before inside
  · obtain ⟨there, found, kind⟩ := linked.roots source root registered
    obtain ⟨children, later⟩ := wider.nodes root there found
    exact ⟨_, later, kind⟩

end Linked

/-! ### Ledgers -/

/-- The builder in which a source has a root. -/
def register (builder : Builder) (source : Source) (root : NodeId) : Builder :=
  match source with
  | .entryPoint name => { builder with entryPoints := builder.entryPoints.insert name root }
  | .stream name => { builder with streams := builder.streams.insert name root }

variable {builder : Builder} {source : Source} {root : NodeId}

theorem network_register (builder : Builder) (source : Source) (root : NodeId) :
    (builder.register source root).network = builder.network := by
  cases source <;> rfl

theorem config_register (builder : Builder) (source : Source) (root : NodeId) :
    (builder.register source root).config = builder.config := by
  cases source <;> rfl

theorem root?_register (builder : Builder) (source other : Source) (root : NodeId) :
    (builder.register source root).root? other =
      if other = source then some root else builder.root? other := by
  cases source <;> cases other <;>
    simp only [register, root?, Roots.get?, Roots.insert, Source.entryPoint.injEq,
      Source.stream.injEq, reduceCtorEq, if_false]
  all_goals
    split
    · rename_i same
      rw [same, NameMap.get?_set_same]
    · rename_i different
      rw [NameMap.get?_set_other _ _ different]

/-- The links stay in order when the root of a source is registered. -/
theorem Linked.register (linked : builder.Linked) {node : Node}
    (found : builder.network.node? root = some node) (kind : node.kind.source? = some source) :
    (builder.register source root).Linked := by
  have known := Network.contains_of_node? found
  refine ⟨?_, ?_, ?_, fun other again registered => ?_⟩
  · cases source <;> exact linked.standard
  · cases source with
    | entryPoint name =>
      refine { linked.tidy with entryPoints := fun entry member => ?_ }
      rcases NameMap.mem_set member with rfl | old
      · exact known
      · exact linked.tidy.entryPoints entry old
    | stream name =>
      refine { linked.tidy with streams := fun entry member => ?_ }
      rcases NameMap.mem_set member with rfl | old
      · exact known
      · exact linked.tidy.streams entry old
  · rw [network_register]
    exact linked.stacked
  · rw [root?_register] at registered
    rw [network_register]
    split at registered
    · rename_i same
      cases registered
      exact ⟨node, found, same ▸ kind⟩
    · exact linked.roots other again registered

/-- **The ledger after a node was asked for and attached.** -/
def grownLedger (builder : Builder) (ids : IdSupply) (node : Node) : Ledger :=
  { builder.ledger with
    ids := ids
    narrowed := fun source type => builder.ledger.narrowed source type ||
      (decide (node.kind.narrows? = some type) &&
        (builder.root? source).any fun root => root ∈ node.parents)
    terminals := builder.ledger.terminals ++ if node.kind.isTerminal then [node.id] else [] }

/-- A node of most kinds only uses up an id. -/
theorem grownLedger_plain (ids : IdSupply) {node : Node} (narrows : node.kind.narrows? = none)
    (last : node.kind.isTerminal = false) :
    builder.grownLedger ids node = { builder.ledger with ids := ids } := by
  simp [grownLedger, narrows, last]

/-- **A node below a root narrows the source of the root**, and no other: a root belongs to one
source. -/
theorem grownLedger_objectType (linked : builder.Linked)
    (registered : builder.root? source = some root) (ids : IdSupply) (own : NodeId)
    (type : ObjectType) :
    builder.grownLedger ids ⟨own, .objectType type, some root, none, []⟩ =
      { builder.ledger with
        ids := ids
        narrowed := fun other kind =>
          builder.ledger.narrowed other kind || (other = source && kind = type) } := by
  refine Ledger.ext rfl rfl rfl rfl ?_ (List.append_nil _)
  funext other kind
  have only : ((builder.root? other).any fun found =>
      found ∈ (⟨own, .objectType type, some root, none, []⟩ : Node).parents) =
      decide (other = source) := by
    rw [Bool.eq_iff_iff, decide_eq_true_eq]
    constructor
    · intro found
      cases again : builder.root? other with
      | none => simp [again] at found
      | some parent =>
        simp only [again, Option.any_some, Node.parents, Option.toList_none, List.nil_append,
          Option.toList_some, List.mem_singleton, decide_eq_true_eq] at found
        exact linked.root_injective registered (found ▸ again)
    · rintro rfl
      simp [registered, Node.parents]
  simp only [grownLedger, only, NodeKind.narrows?, Option.some.injEq, eq_comm (a := type),
    Bool.and_comm]

theorem ledger_narrowed_none (unregistered : builder.root? source = none) (type : ObjectType) :
    builder.ledger.narrowed source type = false := by
  simp [ledger, unregistered]

theorem ledger_narrowed_some (registered : builder.root? source = some root) (type : ObjectType) :
    builder.ledger.narrowed source type =
      (builder.network.objectTypeNode? root type).isSome := by
  simp [ledger, registered]

/-- **The ledger after a node was added.** -/
theorem ledger_insert (linked : builder.Linked) {node : Node}
    (new : builder.network.contains node.id = false) :
    ({ builder with network := builder.network.insert node } : Builder).ledger =
      builder.grownLedger builder.ids node := by
  have streams : ({ builder with network := builder.network.insert node } : Builder).ledger.streams
      = builder.ledger.streams := by
    funext name
    simp only [ledger]
    cases registered : builder.streams.get? name with
    | none => rfl
    | some root =>
      exact Network.streamType?_insert new
        (@Linked.contains_root _ (.stream name) _ linked registered)
  have narrowed :
      ({ builder with network := builder.network.insert node } : Builder).ledger.narrowed =
        (builder.grownLedger builder.ids node).narrowed := by
    funext source type
    have same : ({ builder with network := builder.network.insert node } : Builder).root? source =
        builder.root? source := by cases source <;> rfl
    cases registered : builder.root? source with
    | none =>
      rw [ledger_narrowed_none (same.trans registered)]
      simp [grownLedger, ledger_narrowed_none registered, registered]
    | some root =>
      rw [ledger_narrowed_some (same.trans registered)]
      have known := linked.contains_root registered
      simp only [grownLedger, ledger_narrowed_some registered, registered, Option.any_some]
      exact Network.objectTypeNode?_insert new linked.tidy.network known type
  have terminals := Network.terminalsMade_insert builder.network node
  exact Ledger.ext rfl rfl rfl streams narrowed terminals

/-- **A node that stands in for another changes the ledger as the other would.** -/
theorem grownLedger_shared (ids : IdSupply) {node existing : Node}
    {id : NodeId} (listed : id ∈ builder.network.siblings node)
    (found : builder.network.node? id = some existing)
    (shares : existing.equivalent node = true)
    (alone : node.kind.narrows? ≠ none → node.tupleParent = none) :
    builder.grownLedger ids node = { builder.ledger with ids := ids } := by
  simp only [Node.equivalent, Bool.and_eq_true, decide_eq_true_eq] at shares
  obtain ⟨_, kinds⟩ := shares
  have narrowed : (fun source type => builder.ledger.narrowed source type ||
      (decide (node.kind.narrows? = some type) &&
        (builder.root? source).any fun root => root ∈ node.parents)) =
      builder.ledger.narrowed := by
    funext source type
    cases registered : builder.root? source with
    | none => simp
    | some root =>
      rw [ledger_narrowed_some registered, Network.objectTypeNode?_isSome]
      -- the node that stands in is a child of the root, and narrows to the type
      rw [Option.any_some, Bool.or_eq_left_iff_imp, Bool.and_eq_true, decide_eq_true_eq,
        decide_eq_true_eq]
      rintro ⟨narrows, parent⟩
      have single := alone (by simp [narrows])
      rw [Node.parents, single, Option.toList_none, List.nil_append, Option.mem_toList] at parent
      simp only [Network.siblings, single, Option.none_or] at listed
      rw [show node.objectParent = some root from parent] at listed
      refine List.any_eq_true.mpr ⟨id, listed, ?_⟩
      rw [decide_eq_true_eq, Network.narrowedType?_eq, found]
      exact (NodeKind.narrows?_same kinds).trans narrows
  simp only [grownLedger, narrowed, NodeKind.isTerminal_same kinds, Bool.false_eq_true, if_false,
    List.append_nil]

/-- **The ledger after a root was registered** for a source that had none, to which nothing was
narrowed yet. -/
theorem ledger_register (unregistered : builder.root? source = none)
    (bare : ∀ type, builder.network.objectTypeNode? root type = none) :
    (builder.register source root).ledger =
      builder.ledger.rooted source (builder.network.streamType? root) := by
  have narrowed : (builder.register source root).ledger.narrowed = builder.ledger.narrowed := by
    funext other type
    have there := root?_register builder source other root
    simp only [ledger, there, network_register]
    split
    · rename_i same
      simp [same, unregistered, bare]
    · rfl
  cases source with
  | entryPoint name =>
    have known : (fun other => ((builder.entryPoints.insert name root).get? other).isSome) =
        Function.update builder.ledger.entryPoints name true := by
      funext other
      by_cases same : other = name
      · subst same
        simp [Roots.get?, Roots.insert]
      · simp [Roots.get?, Roots.insert, same, ledger]
    exact Ledger.ext rfl rfl known rfl narrowed rfl
  | stream name =>
    have known : (fun other => ((builder.streams.insert name root).get? other).bind
        builder.network.streamType?) =
        Function.update builder.ledger.streams name (builder.network.streamType? root) := by
      funext other
      by_cases same : other = name
      · subst same
        simp [Roots.get?, Roots.insert]
      · simp [Roots.get?, Roots.insert, same, ledger]
    exact Ledger.ext rfl rfl rfl known narrowed rfl

end Builder

/-! ### Asking for nodes -/

/-- An arena refuses a node only if a parent is missing. -/
theorem Network.attach_error {network : Network} {node : Node} {share : Bool} {failure : Failure}
    (refused : network.attach node share = .error failure) :
    ∃ parent ∈ node.parents, network.contains parent = false := by
  unfold attach at refused
  split at refused
  · cases refused
  · split at refused
    · rename_i parent missing
      exact ⟨parent, List.mem_of_find?_eq_some missing, by simpa using List.find?_some missing⟩
    · split at refused <;> cases refused

namespace Build

open Builder

/-- **What is known after a node was asked for and attached**, and of the node it ended at. -/
structure Grew (before after : Builder) (ids : IdSupply) (wanted : Node) (id : NodeId) : Prop where
  linked : after.Linked
  network : before.network.Extends after.network
  root? : after.root? = before.root?
  ledger : after.ledger = before.grownLedger ids wanted
  there : ∃ node, after.network.node? id = some node ∧
    node.objectParent = wanted.objectParent ∧
    node.kind.isObjectTypeRoot = wanted.kind.isObjectTypeRoot

/-- **Asking for a node and attaching it fails only if the ids run out.** -/
theorem grow_grows {now : Builder} {context : BuildContext} {lines : List LogLine}
    {kind : NodeKind} {tuple object : Option NodeId} (share : BuildConfig → Bool)
    (linked : now.Linked)
    (parents : ∀ parent ∈ tuple.toList ++ object.toList, now.network.contains parent = true)
    (alone : kind.narrows? ≠ none → tuple = none)
    {good : NodeId → Workbench → Prop} {bad : Failure → Workbench → Prop}
    (exhausted : ∀ failure, now.ids.next = .error failure → bad failure ⟨now, context, lines⟩)
    (ended : ∀ own id ids builder log, now.ids.next = .ok (own, ids) →
      Grew now builder ids ⟨own, kind, object, tuple, []⟩ id →
      (share now.config = false → id = own ∧
        builder.network.node? id = some ⟨own, kind, object, tuple, []⟩) →
      good id ⟨builder, context, log⟩) :
    Ensures (request kind tuple object) ⟨now, context, lines⟩
      (fun node mid => Ensures (place node (share mid.builder.config)) mid good bad) bad := by
  refine ensures_request exhausted fun own ids handed => ?_
  have counted := IdSupply.next_increases handed
  have asked := linked.asked handed
  refine ⟨fun node made => ?_, fun failure made => ?_⟩
  · rw [linked.standard] at made
    cases made
    have larger : ∀ other ∈ now.network.nodes, other.id.index < own.index :=
      fun other member => counted.1 ▸ linked.tidy.below other member
    refine ensures_place (fun failure refused => ?_) fun attached network answer tracer log => ?_
    · obtain ⟨parent, named, missing⟩ := Network.attach_error refused
      have known : now.network.contains parent = true := parents parent named
      exact absurd (known.symm.trans missing) Bool.noConfusion
    -- the id is fresh, so either another node stands in or the node is added
    rcases Network.attach_cases answer with
      ⟨known, _⟩ | ⟨_, shared, found, _, rfl⟩ | ⟨new, _, rfl, rfl⟩
    · obtain ⟨other, inside, same⟩ := Network.contains_iff.mp known
      exact absurd (same ▸ larger other inside) (Nat.lt_irrefl _)
    · obtain ⟨existing, there, equivalent⟩ := Network.equivalent?_some found
      refine ended own attached.id ids _ _ handed
        ⟨(asked ⟨own, kind, object, tuple⟩).traced tracer, .refl _, rfl, ?_, existing, there, ?_, ?_⟩
        fun unshared => absurd (shared.symm.trans unshared) Bool.noConfusion
      · exact (grownLedger_shared ids (List.mem_of_find?_eq_some found) there equivalent alone).symm
      · simp only [Node.equivalent, Bool.and_eq_true, decide_eq_true_eq] at equivalent
        exact equivalent.1.1
      · simp only [Node.equivalent, Bool.and_eq_true] at equivalent
        exact NodeKind.isObjectTypeRoot_same equivalent.2
    · have below : own.index < ids.nextIndex := by omega
      have inserted := @Linked.insert (now.asked ids ⟨own, kind, object, tuple⟩)
        (asked _) ⟨own, kind, object, tuple, []⟩ larger below rfl parents
      have there := Network.node?_insert_self now.network ⟨own, kind, object, tuple, []⟩
      refine ended own own ids _ _ handed ⟨inserted.traced tracer, Network.extends_insert new, ?_,
        ?_, _, there, rfl, rfl⟩ fun _ => ⟨rfl, there⟩
      · funext source
        cases source <;> rfl
      · exact @ledger_insert (now.asked ids ⟨own, kind, object, tuple⟩) (asked _) _ new
  · rw [linked.standard] at made
    cases made

/-! ### Steps beside their outlines -/

/-- **The step does what the outline does.** Both succeed, and what the step leaves has the outline
that the outline leaves; or both fail with one failure. -/
def Outlined {α β : Type} (step : Build α) (outline : Stateful Outline β) (bench : Workbench)
    (good : α → β → Workbench → Prop) : Prop :=
  Ensures step bench
    (fun value after => ∃ answer, result outline bench.outline = (.ok answer, after.outline) ∧
      good value answer after)
    fun failure after => result outline bench.outline = (.error failure, after.outline)

namespace Outlined

variable {α β γ δ : Type} {step : Build α} {outline : Stateful Outline β} {bench : Workbench}
  {good : α → β → Workbench → Prop} {last : γ → δ → Workbench → Prop}

theorem mono {wide : α → β → Workbench → Prop} (outlined : Outlined step outline bench good)
    (wider : ∀ value answer after, good value answer after → wide value answer after) :
    Outlined step outline bench wide :=
  Ensures.mono outlined (fun value after ended => by
    obtain ⟨answer, same, held⟩ := ended
    exact ⟨answer, same, wider value answer after held⟩) fun _ _ failed => failed

/-- **Sequences do what the sequence of their outlines does.** -/
theorem bind {next : α → Build γ} {more : β → Stateful Outline δ}
    (first : Outlined step outline bench good)
    (rest : ∀ value answer after, good value answer after →
      Outlined (next value) (more answer) after last) :
    Outlined (step >>= next) (outline >>= more) bench last := by
  unfold Outlined
  rw [ensures_bind]
  refine Ensures.mono first (fun value after ended => ?_) fun failure after failed => ?_
  · obtain ⟨answer, same, held⟩ := ended
    simp only [result_bind, same]
    exact rest value answer after held
  · simp only [result_bind, failed]

/-- A step that cannot fail and that the outline does not have. -/
theorem silent {next : α → Build γ} {more : Stateful Outline δ}
    (first : Ensures step bench (fun value after => after.outline = bench.outline ∧
      Outlined (next value) more after last) fun _ _ => False) :
    Outlined (step >>= next) more bench last := by
  unfold Outlined
  rw [ensures_bind]
  refine first.mono (fun value after ended => ?_) fun _ _ never => never.elim
  obtain ⟨same, rest⟩ := ended
  unfold Outlined at rest
  rw [same] at rest
  exact rest

/-- A last step that cannot fail and that the outline does not have. -/
theorem quietly {next : α → Build γ} {wide : γ → β → Workbench → Prop}
    (first : Outlined step outline bench good)
    (rest : ∀ value answer after, good value answer after →
      Ensures (next value) after (fun result done => done.outline = after.outline ∧
        wide result answer done) fun _ _ => False) :
    Outlined (step >>= next) outline bench wide := by
  unfold Outlined
  rw [ensures_bind]
  refine Ensures.mono first (fun value after ended => ?_) fun _ _ failed => failed
  obtain ⟨answer, same, held⟩ := ended
  refine (rest value answer after held).mono (fun final done kept => ?_) fun _ _ never =>
    never.elim
  exact ⟨answer, same.trans (by rw [kept.1]), kept.2⟩

/-- The outline looks at its state. -/
theorem look {more : Outline → Stateful Outline β}
    (rest : Outlined step (more bench.outline) bench good) :
    Outlined step (get >>= more) bench good :=
  rest

/-- Both look at the context. The outline sees it without cursors. -/
theorem scope {next : BuildContext → Build γ} {more : BuildContext → Stateful Outline δ}
    (rest : Outlined (next bench.context) (more bench.context.erased) bench last) :
    Outlined (context >>= next) (Outline.scope >>= more) bench last :=
  rest

/-- A change of cursors that the outline does not have. -/
theorem aside {change : BuildContext → BuildContext} {next : Unit → Build γ}
    {more : Stateful Outline δ}
    (erased : (change bench.context).erased = bench.context.erased)
    (kept : (change bench.context).tupleCursor = bench.context.tupleCursor)
    (rest : Outlined (next ()) more { bench with context := change bench.context } last) :
    Outlined (modifyContext change >>= next) more bench last := by
  refine silent ⟨?_, rest⟩
  simp only [Workbench.outline, erased, kept]

/-- The same outcome is computed. -/
theorem ofOutcome {outcome : Outcome α} {next : α → Build γ} {more : α → Stateful Outline δ}
    (rest : ∀ value, outcome = .ok value → Outlined (next value) (more value) bench last) :
    Outlined (Build.ofOutcome outcome >>= next) (Outline.ofOutcome outcome >>= more) bench last := by
  cases outcome with
  | ok value => exact rest value rfl
  | error failure => rfl

theorem pure (value : α) (answer : β) (held : good value answer bench) :
    Outlined (Pure.pure value) (Pure.pure answer) bench good :=
  ⟨answer, rfl, held⟩

theorem throw (failure : Failure) :
    Outlined (MonadExcept.throw failure : Build α) (MonadExcept.throw failure : Stateful Outline β)
      bench good :=
  rfl

end Outlined

section

variable {bench : Workbench}

/-- What handing out an id returns. -/
theorem result_spend_ok {id : NodeId} {ids : IdSupply}
    (handed : bench.builder.ids.next = .ok (id, ids)) :
    result Outline.spend bench.outline =
      (.ok id, { bench.outline with ledger := { bench.builder.ledger with ids := ids } }) := by
  have handed : bench.outline.ledger.ids.next = .ok (id, ids) := handed
  simp only [Outline.spend, result_bind, result_get, handed, Outline.ofOutcome, result_pure,
    Outline.modifyLedger, result_modify]
  rfl

theorem result_spend_error {failure : Failure}
    (exhausted : bench.builder.ids.next = .error failure) :
    result Outline.spend bench.outline = (.error failure, bench.outline) := by
  have exhausted : bench.outline.ledger.ids.next = .error failure := exhausted
  simp only [Outline.spend, result_bind, result_get, exhausted, Outline.ofOutcome, result_throw]

end

end Build

end RuleNet
