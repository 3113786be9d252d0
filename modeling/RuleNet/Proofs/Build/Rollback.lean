/-
**A rule that fails leaves nothing behind.**

Compiling a rule asks the factory for nodes, attaches them, and registers the roots of sources it
is the first to read. It can fail after any number of these steps. With rollback switched on, all
of it is undone.

* `NodeFactory.Orderly`: the factory gives a node the id it was handed, and no children. It may
  refuse what it likes, and choose kinds and parents as it likes;
* `Builder.Undoable`: the invariant of an open transaction. Taking the journaled nodes out of the
  builder as it is now, newest first, gives the network and the roots it had at the start;
* `undoable_steady`: every step of the compiler keeps the invariant, whether it succeeds or fails;
* `addRule_ends`: a builder after a failed rule is the one before it, up to the ids and requests
  used up, the number of compilations, and the tracer.
-/

import RuleNet.KnowledgeBase
import RuleNet.Proofs.Build.Keeping
import RuleNet.Proofs.NameMap

namespace RuleNet

open Stateful

/-! ### Registries -/

/-- Pruning a root that was just registered under an unused name undoes the registration. -/
theorem Roots.prune_insert {roots : Roots} {name : String} {root : NodeId} {removed : List NodeId}
    (unused : roots.get? name = none) (gone : root ∈ removed) :
    (roots.insert name root).prune removed = roots.prune removed := by
  simp only [Roots.prune, Roots.insert]
  rw [NameMap.filter_set unused (by simpa using gone)]

theorem Roots.prune_nil (roots : Roots) : roots.prune [] = roots := by
  unfold Roots.prune
  rw [List.filter_eq_self.mpr (by simp)]

/-- Pruning does not look at a node that no name leads to. -/
theorem Roots.prune_append {roots : Roots} {removed : List NodeId} {id : NodeId}
    (unlisted : ∀ entry ∈ roots.byName, entry.2 ≠ id) :
    roots.prune (removed ++ [id]) = roots.prune removed := by
  simp only [Roots.prune]
  congr 1
  refine List.filter_congr fun entry member => ?_
  simp [unlisted entry member]

/-! ### Transactions of the builder -/

/-- The factory gives each node the id it was handed, and no children. -/
def NodeFactory.Orderly (factory : NodeFactory) : Prop :=
  ∀ earlier wanted node, factory.make earlier wanted = .ok node →
    node.id = wanted.id ∧ node.children = []

theorem NodeFactory.standard_orderly : NodeFactory.standard.Orderly := by
  rintro earlier wanted node made
  cases made
  exact ⟨rfl, rfl⟩

namespace Builder

/-- **The links of a builder**: a tidy network whose ids were all handed out, and names that lead
to nodes. -/
structure Tidy (builder : Builder) : Prop where
  network : builder.network.Tidy
  below : ∀ node ∈ builder.network.nodes, node.id.index < builder.ids.nextIndex
  entryPoints : ∀ entry ∈ builder.entryPoints.byName, builder.network.contains entry.2 = true
  streams : ∀ entry ∈ builder.streams.byName, builder.network.contains entry.2 = true

/-- **The builder can be taken back** to what it was when its transaction was opened. -/
structure Undoable (base now : Builder) : Prop where
  tidy : now.Tidy
  config : now.config = base.config
  factory : now.factory = base.factory
  compiled : now.compiled = base.compiled
  supplied : base.ids.nextIndex ≤ now.ids.nextIndex
  pending : now.network.journal.isSome = base.network.journal.isSome
  nodes : ∀ added, now.network.journal = some added →
    added.reverse.foldl Network.detach now.network.nodes = base.network.nodes
  roots : ∀ added, now.network.journal = some added →
    (now.network.roots.filter fun id => id ∉ added) = base.network.roots
  entryPoints : ∀ added, now.network.journal = some added →
    now.entryPoints.prune added = base.entryPoints
  streams : ∀ added, now.network.journal = some added → now.streams.prune added = base.streams

/-- A node that can be attached under an id of its own. -/
structure Fresh (builder : Builder) (node : Node) : Prop where
  new : builder.network.contains node.id = false
  childless : node.children = []
  below : node.id.index < builder.ids.nextIndex

/-- The node will be taken out if the transaction is rolled back. -/
def Pending (builder : Builder) (id : NodeId) : Prop :=
  ∀ added, builder.network.journal = some added → id ∈ added

namespace Undoable

variable {base now : Builder}

/-- Nobody looks at the tracer. -/
theorem traced (undoable : Undoable base now) (tracer : Tracer) :
    Undoable base (now.traced tracer) :=
  { undoable with tidy := { undoable.tidy with } }

/-- Asking for a node uses up an id. -/
theorem asked (undoable : Undoable base now) {id : NodeId} {ids : IdSupply}
    (handed : now.ids.next = .ok (id, ids)) (wanted : NodeRequest) :
    Undoable base (now.asked ids wanted) := by
  have grown := (IdSupply.next_increases handed).2
  have supplied := undoable.supplied
  have below : ∀ node ∈ now.network.nodes, node.id.index < ids.nextIndex := fun node member => by
    have before := undoable.tidy.below node member
    omega
  exact { undoable with
    tidy := { undoable.tidy with below := below }
    supplied := show base.ids.nextIndex ≤ ids.nextIndex by omega }

/-- **A new node goes into the journal**, and comes out first when the journal is undone. -/
theorem insert (undoable : Undoable base now) {node : Node} (fresh : now.Fresh node) :
    Undoable base { now with network := now.network.insert node } := by
  have tidy := undoable.tidy
  have unknown : ∀ id, now.network.contains id = true → id ≠ node.id := by
    rintro id known rfl
    rw [fresh.new] at known
    cases known
  have listed : ∀ added, (now.network.insert node).journal = some added →
      ∃ earlier, now.network.journal = some earlier ∧ added = earlier ++ [node.id] := by
    intro added journaled
    obtain ⟨earlier, before, rfl⟩ := Option.map_eq_some_iff.mp journaled
    exact ⟨earlier, before, rfl⟩
  constructor
  · refine ⟨tidy.network.insert fresh.new fresh.childless, ?_, ?_, ?_⟩
    · intro other member
      rcases List.mem_cons.mp member with rfl | old
      · exact fresh.below
      · obtain ⟨before, inside, rfl⟩ := List.mem_map.mp old
        show (Network.adopted node before).id.index < _
        rw [Network.id_adopted]
        exact tidy.below before inside
    · exact fun entry member => Network.contains_insert.mpr (Or.inr (tidy.entryPoints entry member))
    · exact fun entry member => Network.contains_insert.mpr (Or.inr (tidy.streams entry member))
  · exact undoable.config
  · exact undoable.factory
  · exact undoable.compiled
  · exact undoable.supplied
  · rw [← undoable.pending]
    simp [Network.insert]
  · intro added journaled
    obtain ⟨earlier, before, rfl⟩ := listed added journaled
    rw [List.reverse_append, List.reverse_singleton, List.singleton_append, List.foldl_cons]
    show List.foldl _ (Network.detach (now.network.insert node).nodes node.id) _ = _
    rw [Network.detach_insert tidy.network fresh.new]
    exact undoable.nodes earlier before
  · intro added journaled
    obtain ⟨earlier, before, rfl⟩ := listed added journaled
    have old : (now.network.roots.filter fun id => id ∉ earlier ++ [node.id]) =
        base.network.roots := by
      rw [← undoable.roots earlier before]
      refine List.filter_congr fun id member => ?_
      simp [unknown id (tidy.network.roots id member)]
    show (List.filter _ (now.network.insert node).roots) = _
    simp only [Network.insert]
    split
    · rw [List.filter_append, old]
      simp
    · exact old
  · intro added journaled
    obtain ⟨earlier, before, rfl⟩ := listed added journaled
    rw [← undoable.entryPoints earlier before]
    exact Roots.prune_append fun entry member => unknown entry.2 (tidy.entryPoints entry member)
  · intro added journaled
    obtain ⟨earlier, before, rfl⟩ := listed added journaled
    rw [← undoable.streams earlier before]
    exact Roots.prune_append fun entry member => unknown entry.2 (tidy.streams entry member)

/-- A pending root is registered under an unused name of an entry point. -/
theorem registerEntryPoint (undoable : Undoable base now) {name : String} {root : NodeId}
    (unused : now.entryPoints.get? name = none) (pending : now.Pending root)
    (known : now.network.contains root = true) :
    Undoable base { now with entryPoints := now.entryPoints.insert name root } := by
  refine { undoable with tidy := { undoable.tidy with entryPoints := ?_ }, entryPoints := ?_ }
  · intro entry member
    rcases NameMap.mem_set member with rfl | old
    · exact known
    · exact undoable.tidy.entryPoints entry old
  · intro added journaled
    rw [← undoable.entryPoints added journaled]
    exact Roots.prune_insert unused (pending added journaled)

/-- A pending root is registered under an unused name of a stream. -/
theorem registerStream (undoable : Undoable base now) {name : String} {root : NodeId}
    (unused : now.streams.get? name = none) (pending : now.Pending root)
    (known : now.network.contains root = true) :
    Undoable base { now with streams := now.streams.insert name root } := by
  refine { undoable with tidy := { undoable.tidy with streams := ?_ }, streams := ?_ }
  · intro entry member
    rcases NameMap.mem_set member with rfl | old
    · exact known
    · exact undoable.tidy.streams entry old
  · intro added journaled
    rw [← undoable.streams added journaled]
    exact Roots.prune_insert unused (pending added journaled)

end Undoable

end Builder

/-! ### Steps of the compiler -/

namespace Build

open Builder

variable {base : Builder} {bench : Workbench}

/-- **Attaching a fresh node keeps the builder undoable.** Without sharing the node itself is
attached, and it is pending. -/
theorem place_ends {node : Node} {share : Bool} (held : Undoable base bench.builder)
    (fresh : bench.builder.Fresh node) :
    Ensures (place node share) bench
      (fun id after => Undoable base after.builder ∧
        after.builder.entryPoints = bench.builder.entryPoints ∧
        after.builder.streams = bench.builder.streams ∧
        (share = false → after.builder.Pending id ∧ after.builder.network.contains id = true))
      fun _ after => Undoable base after.builder := by
  refine ensures_place (fun _ _ => held) fun ended network answer tracer log => ?_
  rcases Network.attach_cases answer with
    ⟨known, _⟩ | ⟨_, shared, _, _, rfl⟩ | ⟨_, _, rfl, rfl⟩
  · rw [fresh.new] at known
    cases known
  · refine ⟨held.traced tracer, rfl, rfl, fun unshared => ?_⟩
    rw [shared] at unshared
    cases unshared
  · refine ⟨(Undoable.insert held fresh).traced tracer, rfl, rfl, fun _ => ⟨?_, ?_⟩⟩
    · intro added journaled
      obtain ⟨earlier, _, rfl⟩ := Option.map_eq_some_iff.mp journaled
      exact List.mem_append_right _ (List.mem_singleton.mpr rfl)
    · exact Network.contains_insert.mpr (Or.inl rfl)

section

variable (orderly : base.factory.Orderly)

include orderly

/-- **A node that the factory makes is fresh.** -/
theorem request_ends {kind : NodeKind} {tuple object : Option NodeId}
    (held : Undoable base bench.builder) :
    Ensures (request kind tuple object) bench
      (fun node after => Undoable base after.builder ∧ after.builder.Fresh node ∧
        after.builder.entryPoints = bench.builder.entryPoints ∧
        after.builder.streams = bench.builder.streams)
      fun _ after => Undoable base after.builder := by
  refine ensures_request (fun _ _ => held) fun id ids handed => ?_
  have asked := Undoable.asked held handed
  have counted := IdSupply.next_increases handed
  refine ⟨fun node made => ?_, fun _ _ => asked _⟩
  rw [held.factory] at made
  obtain ⟨named, childless⟩ := orderly _ _ _ made
  refine ⟨asked _, ⟨?_, childless, ?_⟩, rfl, rfl⟩
  · refine Network.contains_eq_false.mpr fun other member same => ?_
    have before := held.tidy.below other member
    rw [same, named, counted.1] at before
    exact Nat.lt_irrefl _ before
  · show node.id.index < ids.nextIndex
    rw [named, counted.2, counted.1]
    exact Nat.lt_succ_self _

theorem entryPointRoot_undoable (name : String) :
    Keeps (Holds (Undoable base)) (entryPointRoot name) := by
  intro start held
  unfold entryPointRoot
  simp only [ensures_bind, ensures_builder]
  split
  · rw [ensures_bind]
    exact ensures_report fun tracer _ => held.traced tracer
  · rename_i unused
    simp only [ensures_bind]
    refine (request_ends orderly held).mono (fun node mid asked => ?_) fun _ _ kept => kept
    refine (place_ends asked.1 asked.2.1).mono (fun root after placed => ?_) fun _ _ kept => kept
    obtain ⟨undo, sameNames, _, attached⟩ := placed
    have free : after.builder.entryPoints.get? name = none := by
      rw [sameNames, asked.2.2.1, unused]
    have registered := Undoable.registerEntryPoint undo free (attached rfl).1 (attached rfl).2
    rw [ensures_modifyBuilder]
    refine ensures_log fun tracer _ => ?_
    exact registered.traced tracer

theorem streamRoot_undoable (name : String) (type : ObjectType) :
    Keeps (Holds (Undoable base)) (streamRoot name type) := by
  intro start held
  unfold streamRoot
  simp only [ensures_bind, ensures_builder]
  split
  · rw [ensures_bind]
    exact ensures_report fun tracer _ => held.traced tracer
  · rename_i unused
    simp only [ensures_bind]
    refine (request_ends orderly held).mono (fun node mid asked => ?_) fun _ _ kept => kept
    refine (place_ends asked.1 asked.2.1).mono (fun root after placed => ?_) fun _ _ kept => kept
    obtain ⟨undo, _, sameNames, attached⟩ := placed
    have free : after.builder.streams.get? name = none := by
      rw [sameNames, asked.2.2.2, unused]
    have registered := Undoable.registerStream undo free (attached rfl).1 (attached rfl).2
    rw [ensures_modifyBuilder]
    refine ensures_log fun tracer _ => ?_
    exact registered.traced tracer

/-- **Being undoable is kept by every step of the compiler.** -/
theorem undoable_steady : Steady (Undoable base) where
  traced _ tracer held := held.traced tracer
  grows _ _ _ _ _ _ held :=
    (request_ends orderly held).mono (fun _ _ asked =>
      (place_ends asked.1 asked.2.1).mono (fun _ _ placed => placed.1) fun _ _ kept => kept)
      fun _ _ kept => kept
  entryPointRoot := entryPointRoot_undoable orderly
  streamRoot := streamRoot_undoable orderly

end

end Build

/-! ### Whole rules -/

namespace Builder

/-- **Between rules**: the links are in order, and no transaction is open. -/
structure Settled (builder : Builder) : Prop where
  tidy : builder.Tidy
  closed : builder.network.journal = none

theorem settled_new (config : BuildConfig) (factory : NodeFactory) :
    (Builder.new config factory).Settled where
  tidy := by
    constructor
    · exact Network.tidy_empty
    all_goals simp [Builder.new, Network.empty, Roots.empty]
  closed := rfl

/-- A transaction that was just opened can be undone. -/
theorem Undoable.opened {builder : Builder} (settled : builder.Settled) :
    Undoable builder.opened builder.opened := by
  have tidy : builder.opened.Tidy := by
    unfold Builder.opened
    split
    · exact { settled.tidy with network := { settled.tidy.network with } }
    · exact { settled.tidy with }
  have none : ∀ added, builder.opened.network.journal = some added → added = [] := by
    intro added journaled
    unfold Builder.opened at journaled
    split at journaled
    · simpa [Network.begin] using journaled.symm
    · simp [settled.closed] at journaled
  refine ⟨tidy, rfl, rfl, rfl, Nat.le_refl _, rfl, ?_, ?_, ?_, ?_⟩
  all_goals
    intro added journaled
    obtain rfl := none added journaled
  · rfl
  · simp
  · exact Roots.prune_nil _
  · exact Roots.prune_nil _

/-- The builder is another one up to the ids and requests it used up, the compilations it counted
and the tracer. -/
def SameButUsed (before after : Builder) : Prop :=
  ∃ ids requests compiled tracer, after = { before with
    ids := ids, requests := requests, compiled := compiled, tracer := tracer }

/-- **Rolling back takes the builder back.** -/
theorem Undoable.rolledBack_eq {base now : Builder} (undoable : Undoable base now)
    (opened : base.network.journal.isSome = true) :
    now.rolledBack = { base with
      network := base.network.commit, ids := now.ids, requests := now.requests,
      tracer := now.tracer } := by
  rw [← undoable.pending] at opened
  obtain ⟨added, journaled⟩ := Option.isSome_iff_exists.mp opened
  have nodes := undoable.nodes added journaled
  have roots := undoable.roots added journaled
  have network : now.network.rollback = (added, base.network.commit) := by
    simp only [Network.rollback, journaled, nodes, roots, Network.commit]
  unfold rolledBack
  rw [network, undoable.entryPoints added journaled, undoable.streams added journaled,
    undoable.config, undoable.factory, undoable.compiled]

/-- The links of a builder that was taken back are in order. -/
theorem Undoable.rolledBack_settled {base now : Builder} (undoable : Undoable base now)
    (tidy : base.Tidy) (opened : base.network.journal.isSome = true) : now.rolledBack.Settled := by
  rw [undoable.rolledBack_eq opened]
  have below : ∀ node ∈ base.network.nodes, node.id.index < now.ids.nextIndex :=
    fun node member => Nat.lt_of_lt_of_le (tidy.below node member) undoable.supplied
  exact ⟨{ tidy with network := { tidy.network with }, below := below }, rfl⟩

theorem Settled.traced {builder : Builder} (settled : builder.Settled) (tracer : Tracer) :
    (builder.traced tracer).Settled :=
  { settled with tidy := { settled.tidy with } }

theorem Undoable.committed_settled {base now : Builder} (undoable : Undoable base now) :
    now.committed.Settled :=
  ⟨{ undoable.tidy with network := { undoable.tidy.network with } }, rfl⟩

/-- A transaction is open while a rule is compiled exactly if rollback is switched on. -/
theorem Settled.opened_pending {builder : Builder} (settled : builder.Settled) :
    builder.opened.network.journal.isSome = builder.config.rollback := by
  unfold Builder.opened
  cases on : builder.config.rollback <;> simp [Network.begin, settled.closed]

/-- **What a failed rule leaves is settled**, and with rollback it is what was there before. -/
theorem Undoable.abandoned_ends {builder now : Builder} (settled : builder.Settled)
    (undoable : Undoable builder.opened now) :
    now.abandoned.Settled ∧
      (builder.config.rollback = true → SameButUsed builder now.abandoned) := by
  have tidy := (Undoable.opened settled).tidy
  have config : now.config.rollback = builder.config.rollback := by rw [undoable.config]; rfl
  have pending := settled.opened_pending
  unfold abandoned
  rw [config]
  by_cases rollback : builder.config.rollback = true
  · rw [if_pos rollback]
    rw [rollback] at pending
    refine ⟨undoable.rolledBack_settled tidy pending, fun _ => ?_⟩
    refine ⟨now.ids, now.requests, builder.compiled + 1, now.tracer, ?_⟩
    rw [undoable.rolledBack_eq pending]
    simp [Builder.opened, rollback, Network.begin, Network.commit, ← settled.closed]
  · rw [if_neg rollback]
    have closed : now.network.journal = none := by
      rw [← Option.isNone_iff_eq_none, ← Option.not_isSome, undoable.pending, pending]
      simpa using rollback
    exact ⟨⟨undoable.tidy, closed⟩, fun on => absurd on rollback⟩

/-- **A rule that is compiled between rules can be undone**, however far it gets. -/
theorem rule_undoable {builder : Builder} (settled : builder.Settled)
    (orderly : builder.factory.Orderly) (rule : Rule) (tracer : Tracer) (log : List LogLine) :
    Ensures (Build.rule rule) ⟨(builder.traced tracer).opened, .new rule.name, log⟩
      (fun _ after => Undoable (builder.traced tracer).opened after.builder)
      fun _ after => Undoable (builder.traced tracer).opened after.builder :=
  have undoable : Holds (Undoable (builder.traced tracer).opened)
      ⟨(builder.traced tracer).opened, .new rule.name, log⟩ :=
    Undoable.opened (settled.traced tracer)
  have orderly : (builder.traced tracer).opened.factory.Orderly := orderly
  Build.rule_keeps (Build.undoable_steady orderly).upheld rule _ undoable

/-- **Adding a rule keeps a builder settled.** With rollback, a failure leaves it as it was. -/
theorem addRule_ends {bench : Workbench} (settled : bench.builder.Settled)
    (orderly : bench.builder.factory.Orderly) (rule : Rule) :
    Ensures (addRule rule) bench
      (fun _ after => after.builder.Settled ∧ after.builder.config = bench.builder.config ∧
        after.builder.factory = bench.builder.factory)
      fun _ after => after.builder.Settled ∧ after.builder.config = bench.builder.config ∧
        after.builder.factory = bench.builder.factory ∧
        (bench.builder.config.rollback = true → SameButUsed bench.builder after.builder) := by
  refine ensures_addRule fun tracer log => ?_
  have ready := settled.traced tracer
  have kept := rule_undoable settled orderly rule tracer log
  refine kept.mono (fun terminal after undo => ?_) fun failure after undo => ?_
  · exact fun tracer _ => ⟨undo.committed_settled.traced tracer, undo.config, undo.factory⟩
  · intro last _
    obtain ⟨left, back⟩ := Undoable.abandoned_ends ready undo
    have sameRest : after.builder.abandoned.config = after.builder.config ∧
        after.builder.abandoned.factory = after.builder.factory := by
      unfold abandoned
      split <;> exact ⟨rfl, rfl⟩
    refine ⟨left.traced last, sameRest.1.trans undo.config, sameRest.2.trans undo.factory,
      fun rollback => ?_⟩
    obtain ⟨ids, requests, compiled, tracer, same⟩ := back rollback
    refine ⟨ids, requests, compiled, last, ?_⟩
    show after.builder.abandoned.traced last = _
    rw [same]
    rfl

/-- **Ids are never given back**, however adding a rule ends. -/
theorem addRule_supplied {bench : Workbench} (settled : bench.builder.Settled)
    (orderly : bench.builder.factory.Orderly) (rule : Rule) :
    Ensures (addRule rule) bench
      (fun _ after => bench.builder.ids.nextIndex ≤ after.builder.ids.nextIndex)
      fun _ after => bench.builder.ids.nextIndex ≤ after.builder.ids.nextIndex := by
  refine ensures_addRule fun tracer log => ?_
  have kept := rule_undoable settled orderly rule tracer log
  refine kept.mono (fun terminal after undo => ?_) fun failure after undo => ?_
  · exact fun _ _ => undo.supplied
  · intro _ _
    show _ ≤ after.builder.abandoned.ids.nextIndex
    rw [abandoned_ids]
    exact undo.supplied

end Builder

end RuleNet
