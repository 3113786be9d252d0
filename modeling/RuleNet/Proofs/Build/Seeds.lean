/-
**The seed of a rule.**

A view without patterns, and one whose first pattern must extend a match, start with the initial
fact: above everything else that the rule is compiled to stands an adapter below the default entry
point, narrowed to the initial fact. One such adapter may be shared by many rules.

* `Network.Seeds`: an adapter that seeds matches with the initial fact;
* `Seeds.tokens`: **its tokens are the initial facts of the default entry point**, one each;
* `Network.Stems`: a node that extends the tuples of a seed, directly or through others;
* `Build.Adapted`: the tuple cursor is on an adapter, which stands below an object;
* `Build.seeded_tracked`: **every step of the compiler keeps the seed above the tuple cursor**, once
  there is one;
* `Build.body_seeds`: a rule up to its terminal;
* `Grown.seeded`: **the terminal of such a rule stems from a seed**, and reads the seed itself if
  the view is empty.
-/

import RuleNet.Proofs.Build.Recompiled

namespace RuleNet

open Stateful

/-- **The initial facts of the default entry point.** -/
def WorkingMemory.initialFacts (memory : WorkingMemory) : List Held :=
  Operator.narrow .initialFact (memory.objects (.entryPoint defaultEntryPoint))

namespace Network

variable {network after : Network} {seed id : NodeId}

/-- **An adapter that seeds matches with the initial fact.** It reads the default entry point,
narrowed to the type of the initial fact. -/
def Seeds (network : Network) (seed : NodeId) : Prop :=
  ∃ root source narrowed type adapter,
    (network.node? root = some source ∧ source.kind = .entryPoint defaultEntryPoint) ∧
    (network.node? narrowed = some type ∧ type.kind = .objectType .initialFact ∧
      type.objectParent = some root) ∧
    network.node? seed = some adapter ∧ adapter.kind = .adapter ∧
      adapter.objectParent = some narrowed

/-- **The node stems from the seed**: it is the seed, or it reads the tuples of a node that stems
from it. -/
inductive Stems (network : Network) (seed : NodeId) : NodeId → Prop
  | seed : Stems network seed seed
  | extended {id tuple : NodeId} {node : Node} (found : network.node? id = some node)
      (parent : node.tupleParent = some tuple) (above : Stems network seed tuple) :
      Stems network seed id

/-- The tuple cursor stands below a seed. -/
def Seeded (network : Network) (cursor : Option NodeId) : Prop :=
  ∃ seed tuple, cursor = some tuple ∧ network.Seeds seed ∧ network.Stems seed tuple

/-- A network that grows keeps its seeds. -/
theorem Seeds.mono (seeds : network.Seeds seed) (wider : network.Extends after) :
    after.Seeds seed := by
  obtain ⟨root, source, narrowed, type, adapter, ⟨rooted, entry⟩, ⟨typed, kind, below⟩, there,
    adapts, reads⟩ := seeds
  obtain ⟨_, rooted⟩ := wider.nodes _ _ rooted
  obtain ⟨_, typed⟩ := wider.nodes _ _ typed
  obtain ⟨_, there⟩ := wider.nodes _ _ there
  exact ⟨root, _, narrowed, _, _, ⟨rooted, entry⟩, ⟨typed, kind, below⟩, there, adapts, reads⟩

theorem Stems.mono (stems : network.Stems seed id) (wider : network.Extends after) :
    after.Stems seed id := by
  induction stems with
  | seed => exact .seed
  | extended found parent _ hypothesis =>
    obtain ⟨children, there⟩ := wider.nodes _ _ found
    exact .extended there parent hypothesis

theorem Seeded.mono {cursor : Option NodeId} (seeded : network.Seeded cursor)
    (wider : network.Extends after) : after.Seeded cursor := by
  obtain ⟨seed, tuple, set, seeds, stems⟩ := seeded
  exact ⟨seed, tuple, set, seeds.mono wider, stems.mono wider⟩

/-- **The tokens of a seed** are the initial facts of the default entry point, one each. -/
theorem Seeds.tokens (seeds : network.Seeds seed) (layered : Layered network.nodes)
    (memory : WorkingMemory) :
    (feedAt network.nodes seed).tokens memory = .ok (memory.initialFacts.map Token.ofHeld) := by
  obtain ⟨root, source, narrowed, type, adapter, ⟨rooted, entry⟩, ⟨typed, kind, below⟩, there,
    adapts, reads⟩ := seeds
  have feeds : ∀ {id : NodeId} {node : Node}, network.node? id = some node →
      feedAt network.nodes id = node.feed (feedAt network.nodes) := by
    intro id node found
    obtain rfl := node?_id found
    exact layered.feed_node (node?_mem found)
  have given : (feedAt network.nodes narrowed).objects memory = .ok memory.initialFacts := by
    rw [feeds typed]
    simp only [Node.feed, Node.objectsGiven, kind, Node.objectsRead, Node.needObject, below,
      Outcome.ok_bind]
    rw [feeds rooted]
    simp only [Node.feed, Node.objectsGiven, entry, Outcome.ok_bind]
    rfl
  rw [feeds there]
  simp only [Node.feed, Node.tokensGiven, adapts, Node.objectsRead, Node.needObject, reads, given,
    Outcome.ok_bind]

end Network

/-! ### Compiling -/

namespace Build

open Builder

variable {bench : Workbench}

/-- **Every step of the compiler keeps the seed above the tuple cursor**, once there is one: the
cursor moves only onto nodes that extend the tuples at it. -/
theorem seeded_tracked : Tracked (fun _ => True) fun builder cursor =>
    builder.Complete ∧ builder.network.Seeded cursor := by
  refine tracked_of_moves Network.Seeded (fun wider seeded => seeded.mono wider)
    fun asks _ moves seeded stands => ?_
  obtain ⟨seed, tuple, rfl, seeds, stems⟩ := seeded
  obtain ⟨node, found, ⟨_, above⟩, _⟩ := stands
  rcases moves with ⟨_, unset⟩ | ⟨_, rfl⟩
  · cases unset
  · exact ⟨seed, _, rfl, seeds, .extended found above stems⟩

/-- **The tuple cursor is on an adapter below an object.** The context knows the typed node above
the object. -/
structure Adapted (bench : Workbench) (object adapter : NodeId) : Prop where
  cursor : bench.context.tupleCursor = some adapter
  stands : Stands .adapter none (some object) bench.builder adapter
  root : ∃ root, bench.context.rootObjectType = some root ∧
    bench.builder.network.objectTypeRoot object = some root

/-- An adapter that is missing is made below the object cursor, or another one stands in. -/
theorem ensureAdapter_adapts (complete : bench.builder.Complete)
    (fresh : bench.context.tupleCursor = none) {object : NodeId}
    (cursor : bench.context.objectCursor = some object) :
    Ensures ensureAdapter bench
      (fun id after => bench.builder.Widened after.builder ∧ Adapted after object id)
      fun _ _ => True := by
  unfold ensureAdapter
  rw [ensures_bind, ensures_context, fresh]
  dsimp only
  rw [ensures_bind]
  refine ensures_ofOutcome (fun found required => ?_) fun _ _ => trivial
  obtain rfl : object = found := by
    simpa [BuildContext.requireObjectCursor, cursor] using required
  rw [ensures_bind, ensures_builder]
  split
  · exact trivial
  · rename_i root above
    rw [ensures_bind, ensures_modifyContext, grown_bind, ensures_bind]
    refine Ensures.mono (grown_widens (.adapter object) (by decide) complete)
      (fun id after ended => ?_) fun _ _ _ => trivial
    obtain ⟨widened, same, stands⟩ := ended
    have known : after.context.rootObjectType = some root := by rw [same]
    simp only [ensures_bind, ensures_modifyContext, ensures_pure]
    exact ensures_report fun tracer _ => ⟨(widened_steady _).traced _ tracer widened, rfl, stands,
      root, known, Network.objectTypeRoot_mono above widened.2.network widened.1.stacked⟩

/-- **The initial fact sets the tuple cursor onto a seed**, if it was not set. -/
theorem initialFact_seeds (complete : bench.builder.Complete)
    (fresh : bench.context.tupleCursor = none) :
    Ensures initialFact bench
      (fun _ after => after.builder.Complete ∧
        ∃ object seed, Adapted after object seed ∧ after.builder.network.Seeds seed)
      fun _ _ => True := by
  unfold initialFact
  simp only [ensures_bind, ensures_modifyContext]
  refine ((entryPointRoot_complete _ bench complete).both
    (entryPointRoot_registers _ bench)).mono (fun root rooted entered => ?_) fun _ _ _ => trivial
  obtain ⟨complete, unmoved, registered⟩ := entered
  obtain ⟨source, found, entry⟩ := complete.roots _ root registered
  let begun : Workbench :=
    { rooted with context := { rooted.context with entryPoint := some root } }
  have complete : begun.builder.Complete := complete
  refine ((objectTypeNode_keeps (widened_steady rooted.builder) root .initialFact begun
    complete.widened).both (objectTypeNode_stands complete root .initialFact)).mono
    (fun narrowed typed asked => ?_) fun _ _ _ => trivial
  obtain ⟨widened, same, type, there, ⟨below, _⟩, kind⟩ := asked
  refine ensures_report fun tracer _ => ?_
  refine Ensures.mono (ensureAdapter_adapts (widened.1.traced tracer) ?_ rfl)
    (fun seed last ended => ?_) fun _ _ _ => trivial
  · show typed.context.tupleCursor = none
    rw [same]
    show rooted.context.tupleCursor = none
    rw [unmoved, fresh]
  · obtain ⟨grown, adapted⟩ := ended
    refine ⟨grown.1, narrowed, seed, ⟨adapted.cursor, adapted.stands, adapted.root⟩, ?_⟩
    obtain ⟨adapter, last, ⟨reads, _⟩, adapts⟩ := adapted.stands
    obtain ⟨_, found⟩ := (widened.2.network.trans grown.2.network).nodes _ _ found
    obtain ⟨_, there⟩ := grown.2.network.nodes _ _ there
    exact ⟨root, _, narrowed, _, adapter, ⟨found, NodeKind.eq_entryPoint entry⟩,
      ⟨there, NodeKind.eq_objectType kind, below⟩, last, NodeKind.eq_adapter adapts, reads⟩

/-- Where a match must be started, it is started with the initial fact. -/
theorem start_seeds (complete : bench.builder.Complete)
    (fresh : bench.context.tupleCursor = none) :
    Ensures (start true) bench
      (fun _ after => after.builder.Complete ∧
        ∃ object seed, Adapted after object seed ∧ after.builder.network.Seeds seed)
      fun _ _ => True := by
  unfold start
  simp only [ensures_bind, ensures_context, fresh, Option.isNone_none, Bool.and_self, if_true]
  exact initialFact_seeds complete fresh

/-- **What holds between the patterns of a view.** Before the first one no match is started. If the
first one needs a tuple, the tuple cursor stays below a seed after it. -/
structure Sown (done : List Pattern) (bench : Workbench) : Prop where
  complete : bench.builder.Complete
  fresh : done = [] → bench.context.tupleCursor = none
  seeded : ∀ first ∈ done.head?, first.needsTuple = true →
    bench.builder.network.Seeded bench.context.tupleCursor

/-- **A pattern keeps it.** -/
theorem pattern_sows (leaf : Pattern) {done : List Pattern} (sown : Sown done bench) :
    Ensures (pattern leaf) bench (fun _ last => Sown (done ++ [leaf]) last) fun _ _ => True := by
  have wants : leaf.Wants fun _ => True := ⟨fun _ _ => trivial, fun _ => trivial⟩
  have unempty : done ++ [leaf] ≠ [] := List.append_ne_nil_of_right_ne_nil _ (List.cons_ne_nil _ _)
  have keeps := pattern_tracks complete_steady.upheld.tracked wants trivial bench sown.complete
  -- a view whose first pattern needs no tuple is not seeded
  have needless : ∀ first : Pattern, (done ++ [leaf]).head? = some first →
      first.needsTuple ≠ true → Ensures (pattern leaf) bench
        (fun _ last => Sown (done ++ [leaf]) last) fun _ _ => True := by
    intro first heads free
    refine keeps.mono (fun _ last kept => ⟨kept, fun none => absurd none unempty, ?_⟩)
      fun _ _ _ => trivial
    intro other named needed
    rw [heads] at named
    exact absurd (Option.some.inj named ▸ needed) free
  cases done with
  | cons first rest =>
    by_cases needs : first.needsTuple = true
    · have seeded := sown.seeded first rfl needs
      exact (pattern_tracks seeded_tracked wants trivial bench ⟨sown.complete, seeded⟩).mono
        (fun _ last kept => ⟨kept.1, nofun, fun _ _ _ => kept.2⟩) fun _ _ _ => trivial
    · exact needless first rfl needs
  | nil =>
    by_cases needs : leaf.needsTuple = true
    · rw [pattern_eq, needs, ensures_bind]
      refine (start_seeds sown.complete (sown.fresh rfl)).mono (fun _ mid started => ?_)
        fun _ _ _ => trivial
      obtain ⟨complete, _, seed, adapted, seeds⟩ := started
      have onward := keeps_bind (use_tracks seeded_tracked wants trivial) fun _ => check_keeps
      exact (onward mid ⟨complete, seed, seed, adapted.cursor, seeds, .seed⟩).mono
        (fun _ last kept => ⟨kept.1, nofun, fun _ _ _ => kept.2⟩) fun _ _ _ => trivial
    · exact needless leaf rfl needs

/-- **A rule up to its terminal.** If its first pattern needs a tuple, or it has none, the tuple
cursor stands below a seed in the end. For an empty view it stands on the seed. -/
theorem body_seeds {view : Condition}
    (needs : ∀ first ∈ view.patterns.head?, first.needsTuple = true)
    (complete : bench.builder.Complete) (fresh : bench.context.tupleCursor = none) :
    Ensures (body view) bench
      (fun _ after => ∃ seed tuple, after.context.tupleCursor = some tuple ∧
        after.builder.network.Seeds seed ∧ after.builder.network.Stems seed tuple ∧
        (view.patterns = [] → tuple = seed))
      fun _ _ => True := by
  have walks : Walks Sown fun _ => True :=
    ⟨fun _ _ sown => ⟨sown.complete, sown.fresh, sown.seeded⟩, fun _ => trivial⟩
  have walked := walks.condition view (fun leaf _ done mid sown => pattern_sows leaf sown) [] bench
    ⟨complete, fun _ => fresh, nofun⟩
  unfold body
  rw [ensures_bind]
  refine walked.mono (fun _ mid sown => ?_) fun _ _ _ => trivial
  rw [List.nil_append] at sown
  cases patterns : view.patterns with
  | nil =>
    rw [patterns] at sown
    rw [ensures_bind]
    refine (start_seeds sown.complete (sown.fresh rfl)).mono (fun _ last started => ?_)
      fun _ _ _ => trivial
    obtain ⟨_, _, seed, adapted, seeds⟩ := started
    refine (check_keeps last ?_).mono (fun _ _ kept => kept) fun _ _ _ => trivial
    exact ⟨seed, seed, adapted.cursor, seeds, .seed, fun _ => rfl⟩
  | cons first rest =>
    rw [patterns] at sown needs
    have onward := keeps_bind (start_tracks seeded_tracked trivial true) fun _ => check_keeps
    refine (onward mid ⟨sown.complete, sown.seeded first rfl (needs first rfl)⟩).mono
      (fun _ last kept => ?_) fun _ _ _ => trivial
    obtain ⟨_, seed, tuple, set, seeds, stems⟩ := kept
    exact ⟨seed, tuple, set, seeds, stems, nofun⟩

end Build

namespace KnowledgeBase

variable {config : BuildConfig} {attempts : List (Rule × Outcome RuleHandle)} {kb : KnowledgeBase}

/-- **The terminal of a rule whose view is empty, or whose first pattern needs a tuple, stems from a
seed**, whatever rules share its nodes. For an empty view it reads the seed itself. -/
theorem Grown.seeded (grown : Grown config .standard attempts kb) {rule : Rule}
    {handle : RuleHandle} (added : (rule, .ok handle) ∈ attempts)
    (needs : ∀ first ∈ rule.view.patterns.head?, first.needsTuple = true) :
    ∃ last tuple seed, kb.network.node? handle.terminal = some last ∧
      last.tupleParent = some tuple ∧ kb.network.Seeds seed ∧ kb.network.Stems seed tuple ∧
      (rule.view.patterns = [] → tuple = seed) := by
  obtain ⟨start, done, mid, tuple, places, children, complete, new, ended, within, seated, found⟩ :=
    Build.compiled_body (grown.compiled added)
  have sown := Build.body_seeds needs complete (by rw [new]; rfl)
  unfold Ensures at sown
  rw [ended] at sown
  obtain ⟨seed, last, set, seeds, stems, whole⟩ := sown
  obtain rfl : tuple = last := Option.some.inj (seated.tuple.symm.trans set)
  exact ⟨_, tuple, seed, found, rfl, seeds.mono within.network, stems.mono within.network, whole⟩

end KnowledgeBase

end RuleNet
