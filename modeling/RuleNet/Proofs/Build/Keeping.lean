/-
**What every step of the compiler keeps.**

The compiler changes the builder in few ways: it asks the factory for a node and attaches it, it
registers the roots of sources, and it writes to the tracer. A property that these keep is kept by
all of its steps. It may also speak of the tuple cursor, which moves onto a node that starts tuples
or extends those at the cursor.

* `Builder.Asks`: the nodes that the compiler asks for, apart from roots;
* `Builder.Tracked`: a property of builders and of the tuple cursor that the basic steps keep,
  whether they succeed or fail, as long as the nodes that patterns ask for are of wanted kinds;
* `Builder.Upheld`: a property of builders that the basic steps keep, and that reports in between
  keep, too. It may speak of the tracer;
* `Builder.Steady`: the same for a property that the tracer does not matter to;
* `Walks`: what holds between the patterns of a view, and `Walks.condition`: **a view goes on from
  what its patterns go on from**;
* `condition_tracks`, `body_tracks`: **compiling a view keeps every property that is tracked**, if
  its patterns want the nodes that they ask for;
* `rule_keeps`: **compiling keeps every property that is upheld**, however far it gets.
-/

import RuleNet.Proofs.Build.Agreement
import RuleNet.Proofs.Build.Step

namespace RuleNet

open Stateful

/-- The event is about a step that was taken, and not about a node that was made or shared. -/
def BuildEvent.isAside : BuildEvent → Bool
  | adapterInserted _ _ | initialFactInserted _ | constraintSkipped _ => true
  | _ => false

namespace Builder

/-- The bench's builder has the property. -/
def Holds (property : Builder → Prop) (bench : Workbench) : Prop :=
  property bench.builder

/-- **The nodes that the compiler asks for**, apart from roots: their kind, their parents, the tuple
parent first, and whether another node may stand in for them. -/
inductive Asks : NodeKind → Option NodeId → Option NodeId → (Builder → Bool) → Prop
  | objectType (type : ObjectType) (root : NodeId) :
    Asks (.objectType type) none (some root) fun _ => true
  | alpha (predicate : Predicate) (arity : Nat) (parent : NodeId) :
    Asks (.alpha predicate arity) none (some parent) fun builder => builder.config.shareAlpha
  | adapter (object : NodeId) : Asks .adapter none (some object) fun builder =>
    builder.config.shareBeta
  | beta {kind : NodeKind} (extending : kind.isBeta = true) (tuple : NodeId)
      (object : Option NodeId) :
    Asks kind (some tuple) object fun builder => builder.config.shareBeta
  | terminal (terminal : Terminal) (tuple : NodeId) :
    Asks (.terminal terminal) (some tuple) none fun _ => false

/-- **The basic steps keep the property**, whether they succeed or fail. -/
structure Steady (property : Builder → Prop) : Prop where
  traced : ∀ builder tracer, property builder → property (builder.traced tracer)
  grows : ∀ bench kind tuple object share, Asks kind tuple object share →
    property bench.builder →
    Ensures (Build.request kind tuple object) bench
      (fun node mid => Ensures (Build.place node (share mid.builder)) mid
        (fun _ after => property after.builder) fun _ after => property after.builder)
      fun _ after => property after.builder
  entryPointRoot : ∀ name, Keeps (Holds property) (Build.entryPointRoot name)
  streamRoot : ∀ name type, Keeps (Holds property) (Build.streamRoot name type)

/-- **The basic steps keep the property, and so do the reports in between**, whether they succeed or
fail. -/
structure Upheld (property : Builder → Prop) : Prop where
  aside : ∀ event, event.isAside = true → Keeps (Holds property) (Build.report event)
  grows : ∀ bench kind tuple object share, Asks kind tuple object share →
    property bench.builder →
    Ensures (Build.request kind tuple object) bench
      (fun node mid => Ensures (Build.place node (share mid.builder)) mid
        (fun _ after => property after.builder) fun _ after => property after.builder)
      fun _ after => property after.builder
  entryPointRoot : ∀ name, Keeps (Holds property) (Build.entryPointRoot name)
  streamRoot : ∀ name type, Keeps (Holds property) (Build.streamRoot name type)
  objectTypeNode : ∀ root type, Keeps (Holds property) (Build.objectTypeNode root type)

/-- The property holds of the bench's builder and of its tuple cursor. -/
def Tracks (property : Builder → Option NodeId → Prop) (bench : Workbench) : Prop :=
  property bench.builder bench.context.tupleCursor

/-- The tuple cursor may move onto such a node: it starts tuples where there are none yet, or
extends those at the cursor. -/
def Moves (cursor : Option NodeId) (kind : NodeKind) (tuple : Option NodeId) : Prop :=
  kind = .adapter ∧ cursor = none ∨ kind.isBeta = true ∧ tuple = cursor

/-- **The basic steps keep the property under every tuple cursor**, whether they succeed or fail, if
nodes are of wanted kinds. A node that the cursor may move onto has the property as the cursor. -/
structure Tracked (wanted : NodeKind → Prop) (property : Builder → Option NodeId → Prop) :
    Prop where
  aside : ∀ event cursor, event.isAside = true →
    Keeps (Holds (property · cursor)) (Build.report event)
  grows : ∀ bench kind tuple object share cursor, Asks kind tuple object share → wanted kind →
    property bench.builder cursor →
    Ensures (Build.request kind tuple object) bench
      (fun node mid => Ensures (Build.place node (share mid.builder)) mid
        (fun id after => property after.builder cursor ∧
          (Moves cursor kind tuple → property after.builder (some id)))
        fun _ after => property after.builder cursor)
      fun _ after => property after.builder cursor
  entryPointRoot : ∀ name cursor, Keeps (Holds (property · cursor)) (Build.entryPointRoot name)
  streamRoot : ∀ name type cursor, Keeps (Holds (property · cursor)) (Build.streamRoot name type)
  objectTypeNode : ∀ root type cursor,
    Keeps (Holds (property · cursor)) (Build.objectTypeNode root type)

/-- What does not speak of the cursor is tracked for all kinds of nodes. -/
theorem Upheld.tracked {property : Builder → Prop} (upheld : Upheld property) :
    Tracked (fun _ => True) fun builder _ => property builder where
  aside event _ := upheld.aside event
  grows bench kind tuple object share _ asks _ held :=
    (upheld.grows bench kind tuple object share asks held).mono
      (fun _ _ placed => placed.mono (fun _ _ kept => ⟨kept, fun _ => kept⟩) fun _ _ kept => kept)
      fun _ _ kept => kept
  entryPointRoot name _ := upheld.entryPointRoot name
  streamRoot name type _ := upheld.streamRoot name type
  objectTypeNode root type _ := upheld.objectTypeNode root type

/-- What is tracked for all kinds of nodes and does not speak of the cursor is upheld. -/
theorem Tracked.upheld {property : Builder → Prop}
    (tracked : Tracked (fun _ => True) fun builder _ => property builder) : Upheld property where
  aside event := tracked.aside event none
  grows bench kind tuple object share asks held :=
    (tracked.grows bench kind tuple object share none asks trivial held).mono
      (fun _ _ placed => placed.mono (fun _ _ kept => kept.1) fun _ _ kept => kept)
      fun _ _ kept => kept
  entryPointRoot name := tracked.entryPointRoot name none
  streamRoot name type := tracked.streamRoot name type none
  objectTypeNode root type := tracked.objectTypeNode root type none

end Builder

/-- **The nodes that the pattern asks for are of wanted kinds**, whatever places its variables
have. -/
structure Pattern.Wants (wanted : NodeKind → Prop) (leaf : Pattern) : Prop where
  filters : ∀ single ∈ leaf.constraint.singles, wanted (.alpha single.predicate single.reads.length)
  node : ∀ scope : BuildContext, wanted (scope.kindOf leaf)

namespace Build

open Builder

variable {property : Builder → Prop}

/-- Asks for a node and attaches it. -/
def grown (kind : NodeKind) (tuple object : Option NodeId) (share : Builder → Bool) :
    Build NodeId := do
  let node ← request kind tuple object
  let known ← builder
  place node (share known)

/-- Asking for a node, attaching it, and going on. -/
theorem grown_bind {α : Type} (kind : NodeKind) (tuple object : Option NodeId)
    (share : Builder → Bool) (next : NodeId → Build α) :
    (do
      let node ← request kind tuple object
      let known ← builder
      let id ← place node (share known)
      next id) = grown kind tuple object share >>= next := by
  simp only [grown, bind_assoc]

/-- The same for nodes that are always shared, or never. -/
theorem attached_bind {α : Type} (kind : NodeKind) (tuple object : Option NodeId) (share : Bool)
    (next : NodeId → Build α) :
    (do
      let node ← request kind tuple object
      let id ← place node share
      next id) = grown kind tuple object (fun _ => share) >>= next := by
  rw [grown, bind_assoc]
  rfl

section

variable {kept : Workbench → Prop}

/-- Steps that only look at the bench. -/
theorem context_keeps : Keeps kept context :=
  fun _ held => held

theorem builder_keeps : Keeps kept builder :=
  fun _ held => held

theorem ofOutcome_keeps {α : Type} (outcome : Outcome α) : Keeps kept (ofOutcome outcome) :=
  fun _ held => ensures_ofOutcome (fun _ _ => held) fun _ _ => held

theorem streamType_keeps (name : String) (root : NodeId) : Keeps kept (streamType name root) := by
  unfold streamType
  refine keeps_bind builder_keeps fun known => ?_
  split
  · exact keeps_pure _
  · exact keeps_throw _

theorem check_keeps : Keeps kept check :=
  keeps_bind context_keeps fun _ => ofOutcome_keeps _

end

theorem modifyContext_keeps (change : BuildContext → BuildContext) :
    Keeps (Holds property) (modifyContext change) :=
  fun _ held => held

theorem log_keeps (level : LogLevel) (text : String) : Keeps (Holds property) (log level text) :=
  fun _ held => held

theorem report_keeps (steady : Steady property) (event : BuildEvent) :
    Keeps (Holds property) (report event) :=
  fun _ held => ensures_report fun tracer _ => steady.traced _ tracer held

theorem objectTypeNode_keeps (steady : Steady property) (root : NodeId) (type : ObjectType) :
    Keeps (Holds property) (objectTypeNode root type) := by
  unfold objectTypeNode
  refine keeps_bind builder_keeps fun known => ?_
  split
  · exact keeps_bind (report_keeps steady _) fun _ => keeps_pure _
  · intro start held
    simp only [ensures_bind]
    exact steady.grows start _ _ _ (fun _ => true) (.objectType type root) held

end Build

/-- What the tracer does not matter to is kept by every report. -/
theorem Builder.Steady.upheld {property : Builder → Prop} (steady : Steady property) :
    Upheld property where
  aside event _ := Build.report_keeps steady event
  grows := steady.grows
  entryPointRoot := steady.entryPointRoot
  streamRoot := steady.streamRoot
  objectTypeNode := Build.objectTypeNode_keeps steady

namespace Build

open Builder

/-! ### Walking over a view -/

/-- **What holds between the patterns of a view**, after some of them, and what is left when one
fails. Frames and the number of patterns met do not matter. -/
structure Walks (between : List Pattern → Workbench → Prop) (failed : Workbench → Prop) : Prop where
  unframed : ∀ {done : List Pattern} {bench : Workbench} (frames : List String) (count : Nat),
    between done bench → between done
      { bench with context := { bench.context with frames := frames, patterns := count } }
  halts : ∀ {done : List Pattern} {bench : Workbench}, between done bench → failed bench

namespace Walks

variable {between : List Pattern → Workbench → Prop} {failed : Workbench → Prop}
  {done after : List Pattern}

theorem framed (walks : Walks between failed) {frame : String} {step : Build Unit}
    {bench : Workbench} (held : between done bench)
    (ends : ∀ inner, between done inner →
      Ensures step inner (fun _ last => between after last) fun _ last => failed last) :
    Ensures (framed frame step) bench (fun _ last => between after last)
      fun _ last => failed last := by
  unfold Build.framed
  simp only [ensures_bind, ensures_modifyContext]
  refine (ends _ (walks.unframed _ bench.context.patterns held)).mono (fun _ last ended => ?_)
    fun _ _ left => left
  exact walks.unframed _ last.context.patterns ended

mutual

/-- **A view goes on from pattern to pattern**, if each of its patterns does. -/
theorem condition (walks : Walks between failed) (view : Condition)
    (steps : ∀ leaf ∈ view.patterns, ∀ done bench, between done bench →
      Ensures (pattern leaf) bench (fun _ last => between (done ++ [leaf]) last)
        fun _ last => failed last)
    (done : List Pattern) (bench : Workbench) (held : between done bench) :
    Ensures (condition view) bench (fun _ last => between (done ++ view.patterns) last)
      fun _ last => failed last := by
  cases view with
  | pattern leaf =>
    simp only [Build.condition, ensures_bind, ensures_modifyContext, ensures_context]
    exact walks.framed (walks.unframed bench.context.frames _ held) fun inner held =>
      steps leaf (List.mem_singleton.mpr rfl) done inner held
  | and parts =>
    exact walks.framed held fun inner held => conditions walks parts steps done inner held
  | or _ => exact walks.framed held fun _ held => walks.halts held
  | objectPath _ => exact walks.framed held fun _ held => walks.halts held
termination_by structural view

theorem conditions (walks : Walks between failed) (parts : List Condition)
    (steps : ∀ leaf ∈ Condition.patternsOf parts, ∀ done bench, between done bench →
      Ensures (pattern leaf) bench (fun _ last => between (done ++ [leaf]) last)
        fun _ last => failed last)
    (done : List Pattern) (bench : Workbench) (held : between done bench) :
    Ensures (conditions parts) bench
      (fun _ last => between (done ++ Condition.patternsOf parts) last)
      fun _ last => failed last := by
  cases parts with
  | nil => simpa [Build.conditions, Condition.patternsOf] using held
  | cons part rest =>
    simp only [Build.conditions, Condition.patternsOf] at steps ⊢
    rw [ensures_bind]
    refine (condition walks part (fun leaf listed => steps leaf (List.mem_append_left _ listed))
      done bench held).mono (fun _ mid halfway => ?_) fun _ _ left => left
    rw [← List.append_assoc]
    exact conditions walks rest (fun leaf listed => steps leaf (List.mem_append_right _ listed))
      (done ++ part.patterns) mid halfway
termination_by structural parts

end

end Walks

/-! ### Steps that leave the context -/

/-- The step leaves the context as it is, however it ends. -/
def Still {α : Type} (step : Build α) : Prop :=
  ∀ context, Keeps (fun bench => bench.context = context) step

theorem request_still (kind : NodeKind) (tuple object : Option NodeId) :
    Still (request kind tuple object) :=
  fun _ _ held => ensures_request (fun _ _ => held) fun _ _ _ => ⟨fun _ _ => held, fun _ _ => held⟩

theorem place_still (node : Node) (share : Bool) : Still (place node share) :=
  fun _ _ held => ensures_place (fun _ _ => held) fun _ _ _ _ _ => held

theorem report_still (event : BuildEvent) : Still (report event) :=
  fun _ _ held => ensures_report fun _ _ => held

theorem entryPointRoot_still (name : String) : Still (entryPointRoot name) := by
  intro context
  unfold entryPointRoot
  refine keeps_bind builder_keeps fun known => ?_
  split
  · exact keeps_bind (report_still _ _) fun _ => keeps_pure _
  · refine keeps_bind (request_still _ _ _ _) fun node => ?_
    refine keeps_bind (place_still _ _ _) fun root => keeps_bind (fun _ held => held) fun _ => ?_
    exact keeps_bind (fun _ held => held) fun _ => keeps_pure _

theorem streamRoot_still (name : String) (type : ObjectType) : Still (streamRoot name type) := by
  intro context
  unfold streamRoot
  refine keeps_bind builder_keeps fun known => ?_
  split
  · exact keeps_bind (report_still _ _) fun _ => keeps_pure _
  · refine keeps_bind (request_still _ _ _ _) fun node => ?_
    refine keeps_bind (place_still _ _ _) fun root => keeps_bind (fun _ held => held) fun _ => ?_
    exact keeps_bind (fun _ held => held) fun _ => keeps_pure _

theorem objectTypeNode_still (root : NodeId) (type : ObjectType) :
    Still (objectTypeNode root type) := by
  intro context
  unfold objectTypeNode
  refine keeps_bind builder_keeps fun known => ?_
  split
  · exact keeps_bind (report_still _ _) fun _ => keeps_pure _
  · exact keeps_bind (request_still _ _ _ _) fun node => place_still _ _ _

/-! ### Steps that patterns are made of -/

/-- Results are bound to the places that follow. -/
theorem ensures_placeAggregates {bench : Workbench} {good : List PlacedAggregate → Workbench → Prop}
    {bad : Failure → Workbench → Prop} (bindings : List Binding) :
    Ensures (bindings.mapM placeAggregate) bench good bad ↔
      good (bench.context.placeAll bindings)
        { bench with context := bench.context.bindResults bindings } := by
  induction bindings generalizing bench good with
  | nil => exact Iff.rfl
  | cons binding rest hypothesis =>
    rw [List.mapM_cons, placeAggregate]
    simp only [ensures_bind, ensures_context, ensures_modifyContext, ensures_pure, hypothesis]
    exact Iff.rfl

section

variable {wanted : NodeKind → Prop} {property : Builder → Option NodeId → Prop} {bench : Workbench}

/-- A step that leaves the context keeps what it keeps under every cursor. -/
theorem Still.tracks {α : Type} {step : Build α} (still : Still step)
    (keeps : ∀ cursor, Keeps (Holds (property · cursor)) step) : Keeps (Tracks property) step := by
  intro start held
  refine ((still start.context start rfl).both (keeps start.context.tupleCursor start held)).mono
    (fun _ after kept => ?_) fun _ after kept => ?_
  all_goals
    unfold Tracks
    rw [kept.1]
    exact kept.2

/-- A change of the context that leaves the tuple cursor. -/
theorem modifyContext_tracks {change : BuildContext → BuildContext}
    (same : ∀ context, (change context).tupleCursor = context.tupleCursor) :
    Keeps (Tracks property) (modifyContext change) := by
  intro start held
  show property start.builder (change start.context).tupleCursor
  rw [same]
  exact held

theorem log_tracks (level : LogLevel) (text : String) : Keeps (Tracks property) (log level text) :=
  fun _ held => held

variable (tracked : Tracked wanted property)

include tracked

/-- **Asking for a node, attaching it, and going on.** -/
theorem grow_tracks {α : Type} {kind : NodeKind} {tuple object : Option NodeId}
    {share : Builder → Bool} {next : NodeId → Build α} {good : α → Workbench → Prop}
    (asks : Asks kind tuple object share) (want : wanted kind) (held : Tracks property bench)
    (onward : ∀ id after, after.context = bench.context → Tracks property after →
      (Moves bench.context.tupleCursor kind tuple → property after.builder (some id)) →
      Ensures (next id) after good fun _ last => Tracks property last) :
    Ensures (do
      let node ← request kind tuple object
      let known ← builder
      let id ← place node (share known)
      next id) bench good fun _ after => Tracks property after := by
  have grown := tracked.grows bench kind tuple object share _ asks want held
  have left : ∀ {after : Workbench}, after.context = bench.context →
      property after.builder bench.context.tupleCursor → Tracks property after := by
    intro after same kept
    unfold Tracks
    rw [same]
    exact kept
  simp only [ensures_bind, ensures_builder]
  refine ((request_still kind tuple object _ bench rfl).both grown).mono
    (fun node mid asked => ?_) fun _ _ failed => left failed.1 failed.2
  refine ((place_still node (share mid.builder) _ mid asked.1).both asked.2).mono
    (fun id after placed => ?_) fun _ _ failed => left failed.1 failed.2
  exact onward id after placed.1 (left placed.1 placed.2.1) placed.2.2

theorem report_tracks {event : BuildEvent} (aside : event.isAside = true) :
    Keeps (Tracks property) (report event) :=
  (report_still event).tracks fun cursor => tracked.aside event cursor aside

theorem entryPointRoot_tracks (name : String) : Keeps (Tracks property) (entryPointRoot name) :=
  (entryPointRoot_still name).tracks (tracked.entryPointRoot name)

theorem objectTypeNode_tracks (root : NodeId) (type : ObjectType) :
    Keeps (Tracks property) (objectTypeNode root type) :=
  (objectTypeNode_still root type).tracks (tracked.objectTypeNode root type)

theorem ensureAdapter_tracks (adapter : wanted .adapter) :
    Keeps (Tracks property) ensureAdapter := by
  intro start held
  unfold ensureAdapter
  rw [ensures_bind, ensures_context]
  split
  · exact held
  · rename_i fresh
    rw [ensures_bind]
    refine ensures_ofOutcome (fun object _ => ?_) fun _ _ => held
    rw [ensures_bind, ensures_builder]
    split
    · exact held
    · rw [ensures_bind, ensures_modifyContext]
      refine grow_tracks tracked (.adapter _) adapter held fun id after _ kept moved => ?_
      simp only [ensures_bind]
      -- the report keeps the property for the new cursor as well
      refine ((report_tracks tracked rfl after kept).both
        (tracked.aside _ (some id) rfl after (moved (Or.inl ⟨rfl, fresh⟩)))).mono
        (fun _ last told => told.2) fun _ _ told => told.1

theorem initialFact_tracks (adapter : wanted .adapter) :
    Keeps (Tracks property) initialFact := by
  unfold initialFact
  refine keeps_bind (entryPointRoot_tracks tracked _) fun root => ?_
  refine keeps_bind (modifyContext_tracks fun _ => rfl) fun _ => ?_
  refine keeps_bind (objectTypeNode_tracks tracked _ _) fun narrowed => ?_
  refine keeps_bind (modifyContext_tracks fun _ => rfl) fun _ => ?_
  refine keeps_bind (report_tracks tracked rfl) fun _ => ?_
  exact keeps_bind (ensureAdapter_tracks tracked adapter) fun _ =>
    modifyContext_tracks fun _ => rfl

theorem readSource_tracks (source : Source) (type : ObjectType) :
    Keeps (Tracks property) (readSource source type) := by
  unfold readSource
  cases source with
  | entryPoint name =>
    refine keeps_bind (entryPointRoot_tracks tracked _) fun root => ?_
    refine keeps_bind (modifyContext_tracks fun _ => rfl) fun _ => ?_
    exact keeps_bind (objectTypeNode_tracks tracked _ _) fun _ => modifyContext_tracks fun _ => rfl
  | stream name =>
    refine keeps_bind ((streamRoot_still name type).tracks (tracked.streamRoot name type))
      fun root => ?_
    refine keeps_bind (modifyContext_tracks fun _ => rfl) fun _ => ?_
    refine keeps_bind (streamType_keeps _ _) fun carried => ?_
    split
    · exact keeps_pure _
    · split
      · exact keeps_bind (objectTypeNode_tracks tracked _ _) fun _ =>
          modifyContext_tracks fun _ => rfl
      · exact keeps_throw _

theorem filter_tracks {single : SingleConstraint}
    (want : wanted (.alpha single.predicate single.reads.length)) :
    Keeps (Tracks property) (filter single) := by
  unfold filter
  refine keeps_bind context_keeps fun context => keeps_bind (ofOutcome_keeps _)
    fun parent start held => ?_
  exact grow_tracks tracked (.alpha _ _ _) want held fun id after _ kept _ =>
    modifyContext_tracks (fun _ => rfl) after kept

/-- The constraints that are left are those that relate the object to the tuple, with the places
that their variables have. -/
theorem objects_tracks {leaf : Pattern} (wants : leaf.Wants wanted)
    (held : Tracks property bench) :
    Ensures (objects leaf) bench
      (fun constraints after => Tracks property after ∧
        constraints = leaf.otherSingles.map (after.context.placed leaf.subject))
      fun _ after => Tracks property after := by
  unfold objects
  rw [ensures_bind]
  refine (readSource_tracks tracked _ _ bench held).mono (fun _ mid read => ?_) fun _ _ kept => kept
  simp only [ensures_bind, ensures_context]
  refine ensures_ofOutcome (fun classified sorted => ?_) fun _ _ => read
  obtain ⟨alpha, beta, _⟩ := Classified.partition_ok sorted
  have skips : Keeps (Tracks property) (classified.constant.forM fun single => do
      log .trace ("skipping constant constraint " ++ single.predicate.key)
      skip single) :=
    keeps_forM fun single _ => keeps_bind (log_tracks _ _) fun _ => report_tracks tracked rfl
  have filters : Keeps (Tracks property) (classified.alpha.forM filter) := by
    refine keeps_forM fun single listed => filter_tracks tracked (wants.filters single ?_)
    rw [alpha] at listed
    exact (List.mem_filter.mp listed).1
  refine (skips mid read).mono (fun _ skipped kept => ?_) fun _ _ kept => kept
  refine (filters skipped kept).mono (fun _ last filtered => ?_) fun _ _ kept => kept
  refine ensures_ofOutcome (fun constraints bound => ⟨filtered, ?_⟩) fun _ _ => filtered
  rw [(SingleConstraint.bindAll_ok bound).1, beta]
  rfl

/-- **The tuple cursor moves onto a node that extends its tuples.** -/
theorem extend_tracks {kind : NodeKind} (extending : kind.isBeta = true) (want : wanted kind)
    {tuple : NodeId} (cursor : bench.context.tupleCursor = some tuple) (object : Option NodeId)
    (held : Tracks property bench) :
    Ensures (extend kind tuple object) bench (fun _ after => Tracks property after)
      fun _ after => Tracks property after := by
  unfold extend
  exact grow_tracks tracked (.beta extending _ _) want held fun id after _ _ moved =>
    moved (Or.inr ⟨extending, cursor.symm⟩)

/-- The constraints of the pattern at hand, with the places that its variables have. -/
theorem plain_tracks {leaf : Pattern} (how : leaf.use = .plain) (wants : leaf.Wants wanted)
    (adapter : wanted .adapter) (held : Tracks property bench) :
    Ensures (plain leaf.subject (leaf.otherSingles.map (bench.context.placed leaf.subject))) bench
      (fun _ after => Tracks property after) fun _ after => Tracks property after := by
  have want := wants.node bench.context
  simp only [BuildContext.kindOf, how] at want
  unfold plain
  simp only [ensures_bind, ensures_context]
  cases cursor : bench.context.tupleCursor with
  | none =>
    rw [ensures_bind]
    exact ensureAdapter_tracks tracked adapter bench held
  | some tuple =>
    simp only [ensures_bind]
    refine ensures_ofOutcome (fun object _ => ?_) fun _ _ => held
    exact extend_tracks tracked rfl want cursor _ held

theorem existential_tracks {leaf : Pattern} {quantifier : Quantifier}
    (how : leaf.use = .existential quantifier) (wants : leaf.Wants wanted)
    (held : Tracks property bench) :
    Ensures (existential quantifier (leaf.otherSingles.map (bench.context.placed leaf.subject)))
      bench (fun _ after => Tracks property after) fun _ after => Tracks property after := by
  have want := wants.node bench.context
  simp only [BuildContext.kindOf, how] at want
  unfold existential
  simp only [ensures_bind, ensures_context, ensures_modifyContext]
  refine ensures_ofOutcome (fun tuple begun => ?_) fun _ _ => held
  refine ensures_ofOutcome (fun object _ => ?_) fun _ _ => held
  exact extend_tracks tracked rfl want (BuildContext.requireTupleCursor_ok begun) _ held

theorem accumulate_tracks {leaf : Pattern} {bindings : List Binding}
    (how : leaf.use = .accumulate bindings) (wants : leaf.Wants wanted)
    (held : Tracks property bench) :
    Ensures (accumulate bindings (leaf.otherSingles.map (bench.context.placed leaf.subject))) bench
      (fun _ after => Tracks property after) fun _ after => Tracks property after := by
  have want := wants.node bench.context
  simp only [BuildContext.kindOf, how] at want
  unfold accumulate
  simp only [ensures_bind, ensures_context, ensures_placeAggregates]
  refine ensures_ofOutcome (fun tuple begun => ?_) fun _ _ => held
  refine ensures_ofOutcome (fun object _ => ?_) fun _ _ => held
  have same := (BuildContext.cursors_bindResults bench.context bindings).1
  refine extend_tracks tracked rfl want ?_ _ ?_
  · exact same.trans (BuildContext.requireTupleCursor_ok begun)
  · unfold Tracks
    rw [same]
    exact held

theorem invoke_tracks {leaf : Pattern} {invocation : Invocation}
    (how : leaf.use = .invoke invocation) (wants : leaf.Wants wanted)
    (held : Tracks property bench) :
    Ensures (invoke leaf invocation) bench (fun _ after => Tracks property after)
      fun _ after => Tracks property after := by
  have want := wants.node bench.context
  simp only [BuildContext.kindOf, how] at want
  unfold invoke
  simp only [ensures_bind, ensures_context, ensures_modifyContext]
  refine ensures_ofOutcome (fun tuple begun => ?_) fun _ _ => held
  refine ensures_ofOutcome (fun args named => ?_) fun _ _ => held
  obtain ⟨rfl, _⟩ := BuildContext.mapM_requireOffset named
  have skips : Keeps (fun after => Tracks property after ∧ after.context = bench.context)
      ((leaf.constraint.singles.filter SingleConstraint.isConstant).forM skip) :=
    keeps_forM fun single _ start kept =>
      ((report_tracks tracked rfl start kept.1).both (report_still _ _ start kept.2))
  refine (skips bench ⟨held, rfl⟩).mono (fun _ mid kept => ?_) fun _ _ kept => kept.1
  refine ensures_ofOutcome (fun constraints bound => ?_) fun _ _ => kept.1
  obtain ⟨rfl, _⟩ := SingleConstraint.bindAll_ok bound
  refine extend_tracks tracked rfl want ?_ _ kept.1
  rw [kept.2]
  exact BuildContext.requireTupleCursor_ok begun

theorem use_tracks {leaf : Pattern} (wants : leaf.Wants wanted) (adapter : wanted .adapter) :
    Keeps (Tracks property) (use leaf) := by
  intro start held
  unfold use
  cases how : leaf.use with
  | plain =>
    rw [ensures_bind]
    refine (objects_tracks tracked wants held).mono (fun _ mid read => ?_) fun _ _ kept => kept
    obtain ⟨kept, rfl⟩ := read
    exact plain_tracks tracked how wants adapter kept
  | existential quantifier =>
    rw [ensures_bind]
    refine (objects_tracks tracked wants held).mono (fun _ mid read => ?_) fun _ _ kept => kept
    obtain ⟨kept, rfl⟩ := read
    exact existential_tracks tracked how wants kept
  | accumulate bindings =>
    rw [ensures_bind]
    refine (objects_tracks tracked wants held).mono (fun _ mid read => ?_) fun _ _ kept => kept
    obtain ⟨kept, rfl⟩ := read
    exact accumulate_tracks tracked how wants kept
  | invoke invocation => exact invoke_tracks tracked how wants held

theorem start_tracks (adapter : wanted .adapter) (needed : Bool) :
    Keeps (Tracks property) (start needed) := by
  unfold start
  refine keeps_bind context_keeps fun context => ?_
  split
  · exact initialFact_tracks tracked adapter
  · exact keeps_pure _

theorem pattern_tracks {leaf : Pattern} (wants : leaf.Wants wanted) (adapter : wanted .adapter) :
    Keeps (Tracks property) (Build.pattern leaf) := by
  rw [pattern_eq]
  refine keeps_bind (start_tracks tracked adapter _) fun _ => ?_
  exact keeps_bind (use_tracks tracked wants adapter) fun _ => check_keeps

/-- **Compiling a view keeps every property that is tracked**, however far it gets. -/
theorem condition_tracks (adapter : wanted .adapter) {view : Condition}
    (wants : ∀ leaf ∈ view.patterns, leaf.Wants wanted) :
    Keeps (Tracks property) (condition view) := by
  have walks : Walks (fun _ => Tracks property) (Tracks property) :=
    ⟨fun _ _ held => held, fun held => held⟩
  exact walks.condition view
    (fun leaf listed _ => pattern_tracks tracked (wants leaf listed) adapter) []

/-- **So does a rule up to its terminal.** -/
theorem body_tracks (adapter : wanted .adapter) {view : Condition}
    (wants : ∀ leaf ∈ view.patterns, leaf.Wants wanted) : Keeps (Tracks property) (body view) :=
  keeps_bind (condition_tracks tracked adapter wants) fun _ =>
    keeps_bind (start_tracks tracked adapter true) fun _ => check_keeps

theorem terminal_tracks {rule : Rule} (want : ∀ terminal, wanted (.terminal terminal)) :
    Keeps (Tracks property) (terminal rule) := by
  unfold terminal
  refine keeps_bind (modifyContext_tracks fun _ => rfl) fun _ => ?_
  refine keeps_bind context_keeps fun context => ?_
  refine keeps_bind (ofOutcome_keeps _) fun tuple => ?_
  refine keeps_bind (ofOutcome_keeps _) fun offsets start held => ?_
  rw [attached_bind, ← grown_bind]
  refine grow_tracks tracked (.terminal _ _) (want _) held fun id after _ kept _ => ?_
  exact (ensures_bind _ _).mpr (modifyContext_tracks (fun _ => rfl) after kept)

/-- **Compiling a rule keeps every property that is tracked**, whether it succeeds or fails. -/
theorem rule_tracks {rule : Rule} (adapter : wanted .adapter)
    (wants : ∀ leaf ∈ rule.view.patterns, leaf.Wants wanted)
    (want : ∀ terminal, wanted (.terminal terminal)) :
    Keeps (Tracks property) (Build.rule rule) := by
  rw [rule_eq_body]
  exact keeps_bind (body_tracks tracked adapter wants) fun _ => terminal_tracks tracked want

end

/-! ### Properties of the builder alone -/

section

variable {property : Builder → Prop} (upheld : Upheld property)

include upheld

theorem body_keeps (view : Condition) : Keeps (Holds property) (body view) :=
  body_tracks upheld.tracked trivial fun _ _ => ⟨fun _ _ => trivial, fun _ => trivial⟩

theorem terminal_keeps (rule : Rule) : Keeps (Holds property) (terminal rule) :=
  terminal_tracks upheld.tracked fun _ => trivial

/-- **Compiling a rule keeps every property that is upheld**, whether it succeeds or fails. -/
theorem rule_keeps (rule : Rule) : Keeps (Holds property) (Build.rule rule) :=
  rule_tracks upheld.tracked trivial (fun _ _ => ⟨fun _ _ => trivial, fun _ => trivial⟩)
    fun _ => trivial

end

end Build

end RuleNet
