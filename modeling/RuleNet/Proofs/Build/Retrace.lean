/-
**Compiling again what was compiled before.**

A rule over renamed variables is compiled again, later, into a network in which everything that its
first compilation made is still there. Every request of the second run is answered with the node
that the first run ended at.

* `Beside`: a bench of the second run beside one of the first;
* `Retraces`: **the second step ends where the first one ended** and adds nothing, unless the ids
  run out. Sequences of such steps retrace the sequence (`Retraces.bind`);
* `Retraces.met`: a step that is answered by what is there;
* `Complete.attach_again`: a node that can be shared is shared with the one node that it can be
  shared with;
* `grown_retraces`, `entryPointRoot_retraces`, `streamRoot_retraces`, `objectTypeNode_retraces`:
  **the requests of the compiler**;
* `tracked_of_moves`: **what holds of the node at the tuple cursor** and of those it moves onto.
-/

import RuleNet.Proofs.Build.Renaming
import RuleNet.Proofs.Build.Within

namespace RuleNet

open Stateful

/-! ### Two runs -/

theorem IdSupply.next_error {supply : IdSupply} {failure : Failure}
    (exhausted : supply.next = .error failure) :
    failure.kind = .limit ∧ bound ≤ supply.nextIndex := by
  unfold next at exhausted
  split at exhausted
  · cases exhausted
  · rename_i full
    cases exhausted
    exact ⟨rfl, Nat.le_of_not_lt full⟩

namespace Builder

theorem SameButUsed.refl (builder : Builder) : builder.SameButUsed builder :=
  ⟨builder.ids, builder.requests, builder.compiled, builder.tracer, rfl⟩

theorem SameButUsed.traced (builder : Builder) (tracer : Tracer) :
    builder.SameButUsed (builder.traced tracer) :=
  ⟨builder.ids, builder.requests, builder.compiled, tracer, rfl⟩

theorem SameButUsed.asked (builder : Builder) (ids : IdSupply) (wanted : NodeRequest) :
    builder.SameButUsed (builder.asked ids wanted) :=
  ⟨ids, wanted :: builder.requests, builder.compiled, builder.tracer, rfl⟩

theorem SameButUsed.trans {first second third : Builder} (left : first.SameButUsed second)
    (right : second.SameButUsed third) : first.SameButUsed third := by
  obtain ⟨_, _, _, _, rfl⟩ := left
  obtain ⟨ids, requests, compiled, tracer, rfl⟩ := right
  exact ⟨ids, requests, compiled, tracer, rfl⟩

/-- **The builder is complete and grew from another one.** -/
def Widened (base now : Builder) : Prop :=
  now.Complete ∧ base.Within now

theorem widened_steady (base : Builder) : Steady base.Widened :=
  (within_stepwise base).steady fun _ _ within => ⟨within.network, within.roots⟩

theorem Complete.widened {builder : Builder} (complete : builder.Complete) :
    builder.Widened builder :=
  ⟨complete, .refl _⟩

end Builder

namespace Build

open Builder

variable {names : Renaming}

/-- **A bench of the second run beside one of the first.** The second run shares all nodes. -/
structure Beside (names : Renaming) (first second : Workbench) : Prop where
  complete : second.builder.Complete
  shareAlpha : second.builder.config.shareAlpha = true
  shareBeta : second.builder.config.shareBeta = true
  context : first.context.Renamed names second.context

/-- The first run may change anything but its context, and the second may use up ids and write to
the tracer and the log. -/
theorem Beside.used {first second later done : Workbench} (beside : Beside names first second)
    (context : later.context = first.context) (complete : done.builder.Complete)
    (same : second.builder.SameButUsed done.builder) (kept : done.context = second.context) :
    Beside names later done := by
  obtain ⟨ids, requests, compiled, tracer, equal⟩ := same
  refine ⟨complete, ?_, ?_, ?_⟩
  · rw [equal]
    exact beside.shareAlpha
  · rw [equal]
    exact beside.shareBeta
  · rw [context, kept]
    exact beside.context

/-- The ids ran out. -/
def Spent (failure : Failure) (bench : Workbench) : Prop :=
  failure.kind = .limit ∧ IdSupply.bound ≤ bench.builder.ids.nextIndex

/-- The step gave an answer, and used up ids at most. -/
def Unchanged {α : Type} (bench : Workbench) (value : α) (answer : α) (done : Workbench) : Prop :=
  answer = value ∧ done.context = bench.context ∧ done.builder.Complete ∧
    bench.builder.SameButUsed done.builder

/-- **The second step ends where the first one ended**, with a related answer, and uses up ids at
most. Everything that the first step left is still there. -/
structure Retraces {α β : Type} (names : Renaming) (step : Build α) (again : Build β)
    (related : α → β → Prop) : Prop where
  keeps : ∀ base, Keeps (Holds (Widened base)) step
  retraces : ∀ start value after, result step start = (.ok value, after) →
    start.builder.Complete → ∀ bench, Beside names start bench →
      after.builder.Within bench.builder →
        Ensures again bench (fun answer done => related value answer ∧ Beside names after done ∧
          bench.builder.SameButUsed done.builder) Spent

namespace Retraces

variable {α β γ δ : Type} {step : Build α} {again : Build β} {next : α → Build γ}
  {more : β → Build δ} {related : α → β → Prop} {last : γ → δ → Prop}

/-- **Sequences retrace the sequence**, if every answer of the first part is related to some. -/
theorem bind (first : Retraces names step again related)
    (total : ∀ value, ∃ answer, related value answer)
    (rest : ∀ value answer, related value answer →
      Retraces names (next value) (more answer) last) :
    Retraces names (step >>= next) (again >>= more) last where
  keeps base := keeps_bind (first.keeps base) fun value => by
    obtain ⟨answer, held⟩ := total value
    exact (rest value answer held).keeps base
  retraces start value after ended complete bench beside within := by
    rw [result_bind] at ended
    cases one : result step start with
    | mk outcome mid =>
      rw [one] at ended
      cases outcome with
      | error failure => cases ended
      | ok known =>
        have grown : start.builder.Widened mid.builder := by
          have kept := first.keeps start.builder start complete.widened
          unfold Ensures at kept
          rw [one] at kept
          exact kept
        -- the rest of the first run keeps what the first part left
        have later : mid.builder.Within after.builder := by
          obtain ⟨answer, held⟩ := total known
          have kept := (rest known answer held).keeps mid.builder mid grown.1.widened
          unfold Ensures at kept
          rw [show result (next known) mid = (.ok value, after) from ended] at kept
          exact kept.2
        rw [ensures_bind]
        refine (first.retraces start known mid one complete bench beside
          (later.trans within)).mono (fun answer middle halfway => ?_) fun _ _ spent => spent
        obtain ⟨held, nearby, used⟩ := halfway
        refine ((rest known answer held).retraces mid value after ended grown.1 middle nearby
          (within.trans (.of_used used))).mono (fun final done finished => ?_) fun _ _ spent => spent
        exact ⟨finished.1, finished.2.1, used.trans finished.2.2⟩

/-- The same for parts whose answers are not looked at, or are the same. -/
theorem follow {rest : γ → Build α} {others : γ → Build β} {one : Build γ} {two : Build γ}
    (first : Retraces names one two (· = ·))
    (later : ∀ value, Retraces names (rest value) (others value) related) :
    Retraces names (one >>= rest) (two >>= others) related :=
  first.bind (fun value => ⟨value, rfl⟩) fun value _ same => same ▸ later value

theorem pure {value : α} {answer : β} (held : related value answer) :
    Retraces names (Pure.pure value) (Pure.pure answer) related where
  keeps _ := keeps_pure _
  retraces _ _ _ ended _ bench beside _ := by
    cases ended
    exact ⟨held, beside, .refl _⟩

/-- The first run does not get beyond a fault. -/
theorem throw (failure : Failure) (again : Build β) :
    Retraces names (MonadExcept.throw failure : Build α) again related where
  keeps _ := keeps_throw _
  retraces _ _ _ ended := by cases ended

/-- A change of both contexts. -/
theorem modifyContext {change other : BuildContext → BuildContext}
    (kept : ∀ context copy, context.Renamed names copy →
      (change context).Renamed names (other copy)) :
    Retraces names (Build.modifyContext change) (Build.modifyContext other) (· = ·) where
  keeps _ := modifyContext_keeps _
  retraces start value after ended _ bench beside _ := by
    cases ended
    exact ⟨rfl, ⟨beside.complete, beside.shareAlpha, beside.shareBeta, kept _ _ beside.context⟩,
      .refl _⟩

theorem report (event other : BuildEvent) :
    Retraces names (Build.report event) (Build.report other) (· = ·) where
  keeps base := report_keeps (widened_steady base) event
  retraces start value after ended _ bench beside _ := by
    cases ended
    refine ensures_report fun tracer log => ⟨rfl, ?_, .traced _ tracer⟩
    exact beside.used rfl (beside.complete.traced tracer) (.traced _ tracer) rfl

theorem log (level : LogLevel) (text other : String) :
    Retraces names (Build.log level text) (Build.log level other) (· = ·) where
  keeps _ := log_keeps level text
  retraces start value after ended _ bench beside _ := by
    cases ended
    refine ensures_log fun tracer log => ⟨rfl, ?_, .traced _ tracer⟩
    exact beside.used rfl (beside.complete.traced tracer) (.traced _ tracer) rfl

/-- Both look at their contexts. -/
theorem look {next : BuildContext → Build γ} {more : BuildContext → Build δ}
    (rest : ∀ context copy, context.Renamed names copy →
      Retraces names (next context) (more copy) last) :
    Retraces names (context >>= next) (context >>= more) last where
  keeps base := keeps_bind context_keeps fun known =>
    (rest known { known with
      bound := known.bound.map fun entry => (names.rename entry.1, entry.2) }
      ⟨rfl, rfl, rfl, rfl⟩).keeps base
  retraces start value after ended complete bench beside within :=
    (rest _ _ beside.context).retraces start value after ended complete bench beside within

/-- **A check of the first run that succeeds** succeeds in the second run. -/
theorem outcome {first : Outcome α} {second : Outcome β} (mirrors : first.Mirrors second related)
    (rest : ∀ value answer, related value answer →
      Retraces names (next value) (more answer) last) :
    Retraces names (ofOutcome first >>= next) (ofOutcome second >>= more) last := by
  cases first with
  | error failure =>
    refine ⟨fun base => keeps_throw failure, fun start value after ended => ?_⟩
    cases ended
  | ok value =>
    obtain ⟨answer, rfl, held⟩ := mirrors value rfl
    exact rest value answer held

/-- The last check. -/
theorem lastOutcome {first : Outcome α} {second : Outcome β}
    (mirrors : first.Mirrors second related) :
    Retraces names (ofOutcome first) (ofOutcome second) related := by
  cases first with
  | error failure => exact throw failure _
  | ok value =>
    obtain ⟨answer, rfl, held⟩ := mirrors value rfl
    exact pure held

/-- **A step that is answered by what is there.** The first run leaves a fact behind that lasts, and
where it holds the second run gives the same answer. -/
theorem met {step again : Build α} (holds : Builder → α → Prop)
    (keeps : ∀ base, Keeps (Holds (Widened base)) step)
    (first : ∀ start, start.builder.Complete → Ensures step start (fun value after =>
      after.context = start.context ∧ holds after.builder value) fun _ _ => True)
    (lasts : ∀ {base now : Builder} {value}, base.Within now → holds base value → holds now value)
    (second : ∀ (bench : Workbench) value, bench.builder.Complete →
      bench.builder.config.shareAlpha = true → bench.builder.config.shareBeta = true →
        holds bench.builder value → Ensures again bench (Unchanged bench value) Spent) :
    Retraces names step again (· = ·) where
  keeps := keeps
  retraces start value after ended complete bench beside within := by
    have left := first start complete
    unfold Ensures at left
    rw [ended] at left
    have found := second bench value beside.complete beside.shareAlpha beside.shareBeta
      (lasts within left.2)
    refine found.mono (fun answer done finished => ?_) fun _ _ spent => spent
    obtain ⟨rfl, context, whole, used⟩ := finished
    exact ⟨rfl, beside.used left.1 whole used context, used⟩

/-- Lists are gone through side by side. -/
theorem forM {step : α → Build PUnit} {again : β → Build PUnit} {items : List α} {others : List β}
    (each : List.Forall₂ related items others)
    (steps : ∀ item other, related item other → Retraces names (step item) (again other) (· = ·)) :
    Retraces names (items.forM step) (others.forM again) (· = ·) := by
  induction each with
  | nil => exact pure rfl
  | cons one _ hypothesis => exact (steps _ _ one).follow fun _ => hypothesis

end Retraces

end Build

/-! ### Nodes that are there already -/

theorem NodeKind.shareable_all {config : BuildConfig} (alpha : config.shareAlpha = true)
    (beta : config.shareBeta = true) {kind : NodeKind} (last : kind.isTerminal = false) :
    kind.shareable config = true := by
  cases kind <;> simp_all [shareable, isTerminal]

namespace Builder.Complete

variable {builder : Builder} {node wanted : Node}

/-- Nodes of a kind that is shared are told apart by what they are compared by. -/
theorem eq_of_equivalent (complete : builder.Complete) {a b : Node}
    (here : a ∈ builder.network.nodes) (there : b ∈ builder.network.nodes)
    (shared : a.kind.shareable builder.config = true) (same : a.equivalent b = true) : a = b := by
  by_contra different
  exact absurd (same.symm.trans (complete.alone a here b there different shared)) Bool.noConfusion

/-- **A node that can be shared is shared**, with the one node that it can be shared with. -/
theorem attach_again (complete : builder.Complete) (member : node ∈ builder.network.nodes)
    (same : node.equivalent wanted = true) (shared : node.kind.shareable builder.config = true)
    (parent : (wanted.tupleParent.or wanted.objectParent).isSome = true)
    (new : builder.network.contains wanted.id = false) :
    builder.network.attach wanted true = .ok (⟨node.id, true⟩, builder.network) := by
  obtain ⟨⟨object, tuple⟩, _⟩ := (Node.equivalent_iff _ _).mp same
  have parents : wanted.parents = node.parents := by rw [Node.parents, Node.parents, object, tuple]
  have unmissed : (wanted.parents.find? fun parent => !builder.network.contains parent) = none := by
    refine List.find?_eq_none.mpr fun above named => ?_
    rw [parents] at named
    simp [complete.contains_parent member named]
  have found : builder.network.equivalent? wanted = some node.id := by
    cases search : builder.network.equivalent? wanted with
    | none =>
      have unlike := Network.equivalent?_none complete.listed complete.tidy.network parent search
        node member
      exact absurd (same.symm.trans unlike) Bool.noConfusion
    | some id =>
      obtain ⟨existing, there, stands⟩ := Network.equivalent?_some search
      have again := Node.equivalent_trans same (Node.equivalent_symm stands)
      have equal := complete.eq_of_equivalent member (Network.node?_mem there) shared again
      rw [← Network.node?_id there, equal]
  unfold Network.attach
  rw [new, unmissed, if_neg Bool.false_ne_true, if_pos rfl, found]

end Builder.Complete

/-- The nodes that the tuple cursor may move onto can be shared. -/
theorem Builder.Moves.sharesWith {cursor tuple : Option NodeId} {kind : NodeKind}
    (moves : Builder.Moves cursor kind tuple) : kind.sharesWith kind = true := by
  have keyed : kind.sharingKey?.isSome = true := by
    rcases moves with ⟨rfl, _⟩ | ⟨extending, _⟩
    · rfl
    · cases kind <;> first | rfl | cases extending
  exact (NodeKind.sharesWith_iff kind kind).mpr ⟨keyed, rfl⟩

namespace Build

open Builder Builder.Complete

variable {names : Renaming} {bench : Workbench} {kind other : NodeKind}
  {tuple object : Option NodeId} {share : Builder → Bool}

/-- The node is there that was asked for, or one that stands in for it. -/
def Stands (kind : NodeKind) (tuple object : Option NodeId) (builder : Builder) (id : NodeId) :
    Prop :=
  ∃ node, builder.network.node? id = some node ∧
    (node.objectParent = object ∧ node.tupleParent = tuple) ∧ node.kind.sharesWith kind = true

theorem Stands.lasts {base now : Builder} {id : NodeId} (within : base.Within now)
    (stands : Stands kind tuple object base id) : Stands kind tuple object now id := by
  obtain ⟨node, found, parents, kinds⟩ := stands
  obtain ⟨children, later⟩ := within.network.nodes id node found
  exact ⟨_, later, parents, kinds⟩

/-- **A node that was asked for is there** afterwards. -/
theorem grown_stands (keyed : kind.sharesWith kind = true) (complete : bench.builder.Complete) :
    Ensures (grown kind tuple object share) bench
      (fun id after => after.context = bench.context ∧ Stands kind tuple object after.builder id)
      fun _ _ => True := by
  unfold grown
  simp only [ensures_bind, ensures_builder]
  refine ensures_request (fun _ _ => trivial) fun id ids handed =>
    ⟨fun node made => ?_, fun _ _ => trivial⟩
  rw [complete.standard] at made
  cases made
  refine ensures_place (fun _ _ => trivial) fun ended network answer tracer log => ⟨rfl, ?_⟩
  rcases Network.attach_cases answer with ⟨known, _⟩ | ⟨_, _, found, _, rfl⟩ | ⟨_, _, rfl, rfl⟩
  · obtain ⟨old, member, same⟩ := Network.contains_iff.mp known
    have below := complete.tidy.below old member
    have own := (IdSupply.next_increases handed).1
    rw [same] at below
    exact absurd (own ▸ below) (Nat.lt_irrefl _)
  · obtain ⟨existing, there, stands⟩ := Network.equivalent?_some found
    exact ⟨existing, there, (Node.equivalent_iff _ _).mp stands⟩
  · exact ⟨_, Network.node?_insert_self _ _, ⟨rfl, rfl⟩, keyed⟩

/-- **A node that is there is found again.** -/
theorem grown_again (complete : bench.builder.Complete)
    (alpha : bench.builder.config.shareAlpha = true) (beta : bench.builder.config.shareBeta = true)
    (asks : Asks other tuple object share) {id : NodeId}
    (stands : Stands other tuple object bench.builder id) :
    Ensures (grown other tuple object share) bench (Unchanged bench id) Spent := by
  obtain ⟨node, found, parents, same⟩ := stands
  have member := Network.node?_mem found
  obtain rfl := Network.node?_id found
  have last := NodeKind.isTerminal_same same
  unfold grown
  simp only [ensures_bind, ensures_builder]
  refine ensures_request (fun failure exhausted => IdSupply.next_error exhausted)
    fun id ids handed => ?_
  have asked := complete.asked handed ⟨id, other, object, tuple⟩
  have new : bench.builder.network.contains id = false := by
    refine Network.contains_eq_false.mpr fun old inside equal => ?_
    have below := complete.tidy.below old inside
    rw [equal, (IdSupply.next_increases handed).1] at below
    exact Nat.lt_irrefl _ below
  refine ⟨fun made answer => ?_, fun failure never => ?_⟩
  · rw [complete.standard] at answer
    cases answer
    have on : share (bench.builder.asked ids ⟨id, other, object, tuple⟩) = true := by
      rw [asks.share_eq]
      exact NodeKind.shareable_all alpha beta last
    have shared : node.kind.shareable bench.builder.config = true := by
      rw [NodeKind.shareable_same same]
      exact NodeKind.shareable_all alpha beta last
    have attached := @attach_again _ node ⟨id, other, object, tuple, []⟩ asked member
      ((Node.equivalent_iff _ _).mpr ⟨parents, same⟩) shared asks.parent new
    rw [on]
    refine ensures_place (fun failure refused => ?_) fun ended network answer tracer log => ?_
    · cases attached.symm.trans refused
    · cases attached.symm.trans answer
      exact ⟨rfl, rfl, asked.traced tracer, (SameButUsed.asked _ ids _).trans (.traced _ tracer)⟩
  · rw [complete.standard] at never
    cases never

/-- **A request is answered as before**, if its kind has the same key. -/
theorem grown_retraces (asks : Asks kind tuple object share) (again : Asks other tuple object share)
    (same : kind.sharesWith other = true) :
    Retraces names (grown kind tuple object share) (grown other tuple object share) (· = ·) := by
  have keyed := NodeKind.sharesWith_trans same (NodeKind.sharesWith_symm same)
  refine Retraces.met (Stands kind tuple object) (fun base start held => ?_)
    (fun start => grown_stands keyed) Stands.lasts fun bench id complete alpha beta stands => ?_
  · unfold grown
    simp only [ensures_bind, ensures_builder]
    exact (widened_steady base).grows start kind tuple object share asks held
  · obtain ⟨node, found, parents, kinds⟩ := stands
    exact grown_again complete alpha beta again
      ⟨node, found, parents, NodeKind.sharesWith_trans kinds same⟩

/-! ### Roots and types -/

/-- The root of a source that was read is registered. -/
theorem entryPointRoot_registers (name : String) (start : Workbench) :
    Ensures (entryPointRoot name) start (fun root after => after.context = start.context ∧
      after.builder.root? (.entryPoint name) = some root) fun _ _ => True := by
  unfold entryPointRoot
  simp only [ensures_bind, ensures_builder]
  split
  · rename_i root registered
    rw [ensures_bind]
    exact ensures_report fun _ _ => ⟨rfl, registered⟩
  · simp only [ensures_bind]
    refine ensures_request (fun _ _ => trivial) fun id ids _ => ⟨fun node _ => ?_, fun _ _ => trivial⟩
    refine ensures_place (fun _ _ => trivial) fun ended network _ tracer log => ?_
    rw [ensures_modifyBuilder]
    exact ensures_log fun _ _ => ⟨rfl, NameMap.get?_set_same _ _ _⟩

theorem streamRoot_registers (name : String) (type : ObjectType) (start : Workbench) :
    Ensures (streamRoot name type) start (fun root after => after.context = start.context ∧
      after.builder.root? (.stream name) = some root) fun _ _ => True := by
  unfold streamRoot
  simp only [ensures_bind, ensures_builder]
  split
  · rename_i root registered
    rw [ensures_bind]
    exact ensures_report fun _ _ => ⟨rfl, registered⟩
  · simp only [ensures_bind]
    refine ensures_request (fun _ _ => trivial) fun id ids _ => ⟨fun node _ => ?_, fun _ _ => trivial⟩
    refine ensures_place (fun _ _ => trivial) fun ended network _ tracer log => ?_
    rw [ensures_modifyBuilder]
    exact ensures_log fun _ _ => ⟨rfl, NameMap.get?_set_same _ _ _⟩

theorem entryPointRoot_retraces (name : String) :
    Retraces names (entryPointRoot name) (entryPointRoot name) (· = ·) := by
  refine Retraces.met (fun builder root => builder.root? (.entryPoint name) = some root)
    (fun base => (widened_steady base).entryPointRoot name)
    (fun start _ => entryPointRoot_registers name start) (fun within => within.roots _ _)
    fun bench root complete _ _ registered => ?_
  unfold entryPointRoot
  simp only [ensures_bind, ensures_builder]
  rw [show bench.builder.entryPoints.get? name = some root from registered]
  simp only [ensures_bind]
  exact ensures_report fun tracer _ => ⟨rfl, rfl, complete.traced tracer, .traced _ tracer⟩

theorem streamRoot_retraces (name : String) (type : ObjectType) :
    Retraces names (streamRoot name type) (streamRoot name type) (· = ·) := by
  refine Retraces.met (fun builder root => builder.root? (.stream name) = some root)
    (fun base => (widened_steady base).streamRoot name type)
    (fun start _ => streamRoot_registers name type start) (fun within => within.roots _ _)
    fun bench root complete _ _ registered => ?_
  unfold streamRoot
  simp only [ensures_bind, ensures_builder]
  rw [show bench.builder.streams.get? name = some root from registered]
  simp only [ensures_bind]
  exact ensures_report fun tracer _ => ⟨rfl, rfl, complete.traced tracer, .traced _ tracer⟩

/-- The type of a stream stays that of its root. -/
theorem streamType_retraces (name : String) (root : NodeId) :
    Retraces names (streamType name root) (streamType name root) (· = ·) := by
  refine Retraces.met (fun builder type => ∃ node carried,
      builder.network.node? root = some node ∧ node.kind = .stream carried type)
    (fun base => streamType_keeps name root) (fun start _ => ?_) (fun within held => ?_)
    fun bench type complete _ _ held => ?_
  · unfold streamType
    simp only [ensures_bind, ensures_builder]
    split
    · rename_i id carried type object tuple children found
      exact ⟨rfl, _, carried, found, rfl⟩
    · exact trivial
  · obtain ⟨node, carried, found, kind⟩ := held
    obtain ⟨children, later⟩ := within.network.nodes root node found
    exact ⟨_, carried, later, kind⟩
  · obtain ⟨⟨id, kind, object, tuple, children⟩, carried, found, rfl⟩ := held
    unfold streamType
    simp only [ensures_bind, ensures_builder, found]
    exact ⟨rfl, rfl, complete, .refl _⟩

/-- The node that narrows a root to a type is found by the type. -/
theorem stands_objectType (complete : bench.builder.Complete) {root id : NodeId}
    {type : ObjectType} (found : bench.builder.network.objectTypeNode? root type = some id) :
    Stands (.objectType type) none (some root) bench.builder id := by
  have tidy := complete.tidy.network
  have listed := (List.mem_filter.mp (List.mem_of_find?_eq_some found)).1
  have narrows : bench.builder.network.narrowedType? id = some type := by
    simpa using List.find?_some found
  rw [Network.narrowedType?_eq] at narrows
  obtain ⟨node, there, kind⟩ := Option.bind_eq_some_iff.mp narrows
  have alone := complete.tupleless node (Network.node?_mem there) (by rw [kind]; simp)
  -- the root lists its child, so the child names the root
  have above : node.objectParent = some root := by
    unfold Network.children at listed
    cases owner : bench.builder.network.node? root with
    | none => simp [owner] at listed
    | some parent =>
      rw [owner] at listed
      obtain ⟨child, inside, same, named⟩ := tidy.children parent (Network.node?_mem owner) id listed
      have found := tidy.node?_of_mem inside
      rw [same, there] at found
      obtain rfl := Option.some.inj found
      rw [Network.node?_id owner, Node.parents, alone] at named
      simpa using named
  refine ⟨node, there, ⟨above, alone⟩, ?_⟩
  cases own : node.kind <;> simp_all [NodeKind.narrows?, NodeKind.sharesWith]

/-- **A node that narrows is there** after it was asked for. -/
theorem objectTypeNode_stands (complete : bench.builder.Complete) (root : NodeId)
    (type : ObjectType) :
    Ensures (objectTypeNode root type) bench
      (fun id after => after.context = bench.context ∧
        Stands (.objectType type) none (some root) after.builder id) fun _ _ => True := by
  unfold objectTypeNode
  simp only [ensures_bind, ensures_builder]
  split
  · rename_i existing found
    rw [ensures_bind]
    exact ensures_report fun _ _ => ⟨rfl, stands_objectType complete found⟩
  · have stands := @grown_stands bench (.objectType type) none (some root) (fun _ => true)
      (by simp [NodeKind.sharesWith]) complete
    unfold grown at stands
    simpa only [ensures_bind, ensures_builder] using stands

theorem objectTypeNode_retraces (root : NodeId) (type : ObjectType) :
    Retraces names (objectTypeNode root type) (objectTypeNode root type) (· = ·) := by
  refine Retraces.met (Stands (.objectType type) none (some root))
    (fun base => objectTypeNode_keeps (widened_steady base) root type)
    (fun start complete => objectTypeNode_stands complete root type)
    Stands.lasts fun bench id complete _ _ stands => ?_
  obtain ⟨node, found, ⟨above, alone⟩, kinds⟩ := stands
  obtain rfl := Network.node?_id found
  have member := Network.node?_mem found
  have listed := complete.listed node member root (by simp [Node.parents, above])
  have narrows : bench.builder.network.narrowedType? node.id = some type := by
    rw [Network.narrowedType?_eq, found, Option.bind_some, NodeKind.narrows?_same kinds]
    rfl
  have narrowed : (bench.builder.network.objectTypeNode? root type).isSome = true := by
    rw [Network.objectTypeNode?_isSome]
    exact List.any_eq_true.mpr ⟨node.id, listed, decide_eq_true narrows⟩
  obtain ⟨existing, search⟩ := Option.isSome_iff_exists.mp narrowed
  obtain ⟨other, there, ⟨higher, single⟩, same⟩ := stands_objectType complete search
  have shared : node.kind.shareable bench.builder.config = true := by
    rw [NodeKind.shareable_same kinds]
    rfl
  have equal := complete.eq_of_equivalent member (Network.node?_mem there) shared
    ((Node.equivalent_iff _ _).mpr ⟨⟨above.trans higher.symm, alone.trans single.symm⟩,
      NodeKind.sharesWith_trans kinds (NodeKind.sharesWith_symm same)⟩)
  unfold objectTypeNode
  simp only [ensures_bind, ensures_builder, search]
  refine ensures_report fun tracer _ => ⟨?_, rfl, complete.traced tracer, .traced _ tracer⟩
  rw [← Network.node?_id there, equal]

/-! ### The node at the tuple cursor -/

/-- Asking for a node and attaching it only adds to the network, and the node is there. -/
theorem grown_widens (asks : Asks kind tuple object share) (keyed : kind.sharesWith kind = true)
    (complete : bench.builder.Complete) :
    Ensures (grown kind tuple object share) bench
      (fun id after => bench.builder.Widened after.builder ∧ after.context = bench.context ∧
        Stands kind tuple object after.builder id)
      fun _ after => bench.builder.Widened after.builder := by
  have widens := (widened_steady bench.builder).grows bench kind tuple object share asks
    complete.widened
  have grows : Ensures (grown kind tuple object share) bench
      (fun _ after => bench.builder.Widened after.builder)
      fun _ after => bench.builder.Widened after.builder := by
    unfold grown
    simpa only [ensures_bind, ensures_builder] using widens
  exact (grows.both (grown_stands keyed complete)).mono (fun _ _ ended => ended)
    fun _ _ failed => failed.1

/-- **A property of the node at the tuple cursor is tracked** if a network that grows keeps it and
the cursor moves onto nodes that have it again. -/
theorem tracked_of_moves {wanted : NodeKind → Prop} (good : Network → Option NodeId → Prop)
    (mono : ∀ {network after : Network} {cursor : Option NodeId}, network.Extends after →
      good network cursor → good after cursor)
    (moved : ∀ {builder : Builder} {cursor : Option NodeId} {kind : NodeKind}
      {tuple object : Option NodeId} {share : Builder → Bool} {id : NodeId},
      Asks kind tuple object share → wanted kind → Moves cursor kind tuple →
      good builder.network cursor → Stands kind tuple object builder id →
      good builder.network (some id)) :
    Tracked wanted fun builder cursor => builder.Complete ∧ good builder.network cursor := by
  have later : ∀ {first second : Builder} {cursor : Option NodeId},
      first.Complete ∧ good first.network cursor → first.Widened second →
        second.Complete ∧ good second.network cursor :=
    fun held widened => ⟨widened.1, mono widened.2.network held.2⟩
  -- a step that leaves the tuple cursor leaves what is above it
  have leaves : ∀ {α : Type} {step : Build α},
      (∀ base, Keeps (Holds (Widened base)) step) → ∀ cursor,
        Keeps (Holds fun builder => builder.Complete ∧ good builder.network cursor) step :=
    fun widens cursor start held => (widens start.builder start held.1.widened).mono
      (fun _ _ widened => later held widened) fun _ _ widened => later held widened
  refine
    { aside := fun event cursor _ =>
        leaves (fun base => report_keeps (widened_steady base) event) cursor
      grows := fun bench kind tuple object share cursor asks want held => ?_
      entryPointRoot := fun name => leaves fun base => (widened_steady base).entryPointRoot name
      streamRoot := fun name type => leaves fun base => (widened_steady base).streamRoot name type
      objectTypeNode := fun root type =>
        leaves fun base => objectTypeNode_keeps (widened_steady base) root type }
  by_cases moves : Moves cursor kind tuple
  · have ends := grown_widens asks moves.sharesWith held.1
    unfold grown at ends
    simp only [ensures_bind, ensures_builder] at ends
    refine ends.mono (fun node mid asked => asked.mono (fun id after placed => ?_)
      fun _ _ widened => later held widened) fun _ _ widened => later held widened
    have kept := later held placed.1
    exact ⟨kept, fun _ => ⟨kept.1, moved asks want moves kept.2 placed.2.2⟩⟩
  · have widens := (widened_steady bench.builder).grows bench kind tuple object share asks
      held.1.widened
    refine widens.mono (fun node mid asked => ?_) fun _ _ widened => later held widened
    exact asked.mono (fun id after widened =>
      ⟨later held widened, fun onto => absurd onto moves⟩) fun _ _ widened => later held widened

end Build

end RuleNet
