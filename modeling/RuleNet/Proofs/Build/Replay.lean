/-
**Compiling a rule again under other node ids.**

Two builders that hold the same network under different ids compile a rule alike, as long as they
hand out corresponding ids from then on. So what was compiled after failures can be compiled without
them.

* `Builder.Image`: a builder holds the network of another one under other ids;
* `Build.Follows`: **where the first step succeeds, so does the second**, with the same answer up to
  ids, and the benches still correspond. Sequences of such steps follow the sequence
  (`Follows.bind`);
* `grown_follows`, `entryPointRoot_follows`, …, `rule_follows`: **every step of the compiler follows
  itself**;
* `addRule_replays`: so a rule that is accepted is accepted by the other builder.
-/

import RuleNet.Proofs.Build.Outlined
import RuleNet.Proofs.Network.Renumbering

namespace RuleNet

open Stateful

/-! ### Contexts -/

namespace Renumbering

variable (numbers : Renumbering)

def context (context : BuildContext) : BuildContext :=
  { context with
    objectCursor := context.objectCursor.map numbers.nodeId
    tupleCursor := context.tupleCursor.map numbers.nodeId
    entryPoint := context.entryPoint.map numbers.nodeId
    rootObjectType := context.rootObjectType.map numbers.nodeId }

theorem tupleCursor_context (context : BuildContext) :
    (numbers.context context).tupleCursor = context.tupleCursor.map numbers.nodeId := rfl

/-- The first id is the second one, renumbered. -/
def Names (id own : NodeId) : Prop :=
  id = numbers.nodeId own

theorem mirrors_requireObjectCursor (context : BuildContext) (reader : String) :
    Outcome.Mirrors ((numbers.context context).requireObjectCursor reader)
      (context.requireObjectCursor reader) numbers.Names := by
  unfold BuildContext.requireObjectCursor Renumbering.context
  cases context.objectCursor with
  | some node => exact .ok rfl
  | none => exact fun value never => nomatch never

theorem mirrors_requireTupleCursor (context : BuildContext) (reader : String) :
    Outcome.Mirrors ((numbers.context context).requireTupleCursor reader)
      (context.requireTupleCursor reader) numbers.Names := by
  unfold BuildContext.requireTupleCursor Renumbering.context
  cases context.tupleCursor with
  | some node => exact .ok rfl
  | none => exact fun value never => nomatch never

theorem mirrors_checkComplete (context : BuildContext) :
    Outcome.Mirrors (numbers.context context).checkComplete context.checkComplete (· = ·) := by
  unfold BuildContext.checkComplete Renumbering.context
  cases context.objectCursor with
  | some node => exact fun value never => nomatch never
  | none =>
    cases context.tupleCursor with
    | some tuple => exact .ok rfl
    | none => exact fun value never => nomatch never

end Renumbering

/-! ### Builders -/

/-- **The builder holds the network of another one under other ids**, and will hand out
corresponding ids. What was asked of the factory, the tracer and the number of compilations may
differ. -/
structure Builder.Image (numbers : Renumbering) (twin builder : Builder) : Prop where
  network : builder.network = numbers.network twin.network
  entryPoints : builder.entryPoints = numbers.roots twin.entryPoints
  streams : builder.streams = numbers.roots twin.streams
  config : builder.config = twin.config
  factory : builder.factory = .standard
  standard : twin.factory = .standard
  next : builder.ids.nextIndex = numbers.number twin.ids.nextIndex
  onward : ∀ index, twin.ids.nextIndex ≤ index →
    numbers.number (index + 1) = numbers.number index + 1

/-- **The handle of one rule** under other ids. The number of its compilation may differ. -/
structure RuleHandle.Image (numbers : Renumbering) (own handle : RuleHandle) : Prop where
  name : handle.name = own.name
  salience : handle.salience = own.salience
  terminal : handle.terminal = numbers.nodeId own.terminal

/-- **Benches half way through one rule**, on such builders. -/
structure Workbench.Image (numbers : Renumbering) (twin bench : Workbench) : Prop where
  builder : twin.builder.Image numbers bench.builder
  context : bench.context = numbers.context twin.context

section

variable {numbers : Renumbering} {twin builder : Builder}

theorem Builder.Image.traced (image : twin.Image numbers builder) (tracer last : Tracer) :
    (twin.traced tracer).Image numbers (builder.traced last) :=
  { image with }

theorem Builder.Image.asked (image : twin.Image numbers builder) {id own : NodeId}
    {ids left : IdSupply} (handed : builder.ids.next = .ok (id, ids))
    (given : twin.ids.next = .ok (own, left)) (wanted other : NodeRequest) :
    numbers.Names id own ∧ (twin.asked left other).Image numbers (builder.asked ids wanted) := by
  obtain ⟨index, after⟩ := IdSupply.next_increases handed
  obtain ⟨start, later⟩ := IdSupply.next_increases given
  refine ⟨?_, { image with next := ?_, onward := fun index above => image.onward index ?_ }⟩
  · cases id
    exact congrArg NodeId.mk (by rw [start]; exact index.trans image.next)
  · show ids.nextIndex = numbers.number left.nextIndex
    rw [later, image.onward _ (Nat.le_refl _), after, image.next]
  · have above : left.nextIndex ≤ index := above
    omega

/-- The other builder does not run out of ids first, since its ids are smaller. -/
theorem Builder.Image.supplied (image : twin.Image numbers builder) {id : NodeId} {ids : IdSupply}
    (handed : builder.ids.next = .ok (id, ids)) : ∃ own left, twin.ids.next = .ok (own, left) := by
  unfold IdSupply.next at handed ⊢
  split at handed
  · rename_i room
    rw [image.next] at room
    rw [if_pos (Nat.lt_of_le_of_lt (numbers.le_number _) room)]
    exact ⟨_, _, rfl⟩
  · cases handed

end

namespace Build

open Builder

variable {numbers : Renumbering}

/-! ### Steps that follow each other -/

/-- **Where the first step succeeds, so does the second**, with a related answer. -/
def Follows {α β : Type} (numbers : Renumbering) (step : Build α) (replay : Build β)
    (related : α → β → Prop) : Prop :=
  ∀ twin bench : Workbench, twin.Image numbers bench →
    Ensures step bench (fun value after => Ensures replay twin (fun answer done =>
      related value answer ∧ done.Image numbers after) fun _ _ => False) fun _ _ => True

namespace Follows

variable {α β γ δ : Type} {step : Build α} {replay : Build β} {next : α → Build γ}
  {more : β → Build δ} {related : α → β → Prop} {last : γ → δ → Prop}

/-- **Sequences follow the sequence.** -/
theorem bind (first : Follows numbers step replay related)
    (rest : ∀ value answer, related value answer →
      Follows numbers (next value) (more answer) last) :
    Follows numbers (step >>= next) (replay >>= more) last := by
  intro twin bench image
  rw [ensures_bind]
  refine (first twin bench image).mono (fun value mid followed => ?_) fun _ _ _ => trivial
  unfold Ensures at followed
  cases halfway : result replay twin with
  | mk outcome middle =>
    rw [halfway] at followed
    cases outcome with
    | error failure => exact followed.elim
    | ok answer =>
      refine (rest value answer followed.1 middle mid followed.2).mono
        (fun final after ended => ?_) fun _ _ _ => trivial
      rw [ensures_bind]
      unfold Ensures
      rw [halfway]
      exact ended

theorem pure {value : α} {answer : β} (held : related value answer) :
    Follows numbers (Pure.pure value) (Pure.pure answer) related :=
  fun _ _ image => ⟨held, image⟩

theorem throw (failure : Failure) (replay : Build β) :
    Follows numbers (MonadExcept.throw failure : Build α) replay related :=
  fun _ _ _ => trivial

theorem modifyContext {change other : BuildContext → BuildContext}
    (same : ∀ context, change (numbers.context context) = numbers.context (other context)) :
    Follows numbers (Build.modifyContext change) (Build.modifyContext other) (· = ·) :=
  fun _ _ image => ⟨rfl, image.builder, (congrArg change image.context).trans (same _)⟩

theorem modifyBuilder {change other : Builder → Builder}
    (kept : ∀ {twin builder : Builder}, twin.Image numbers builder →
      (other twin).Image numbers (change builder)) :
    Follows numbers (Build.modifyBuilder change) (Build.modifyBuilder other) (· = ·) :=
  fun _ _ image => ⟨rfl, kept image.builder, image.context⟩

theorem report (event other : BuildEvent) :
    Follows numbers (Build.report event) (Build.report other) (· = ·) :=
  fun _ _ image => ensures_report fun tracer _ => ensures_report fun last _ =>
    ⟨rfl, image.builder.traced last tracer, image.context⟩

theorem log (level : LogLevel) (text other : String) :
    Follows numbers (Build.log level text) (Build.log level other) (· = ·) :=
  fun _ _ image => ensures_log fun tracer _ => ensures_log fun last _ =>
    ⟨rfl, image.builder.traced last tracer, image.context⟩

/-- Both look at their contexts. -/
theorem look {next : BuildContext → Build γ} {more : BuildContext → Build δ}
    (rest : ∀ context, Follows numbers (next (numbers.context context)) (more context) last) :
    Follows numbers (context >>= next) (context >>= more) last := by
  intro twin bench image
  have followed := rest twin.context twin bench image
  rw [← image.context] at followed
  exact followed

/-- Both look at their builders. -/
theorem lookAt {next : Builder → Build γ} {more : Builder → Build δ}
    (rest : ∀ {twin builder : Builder}, twin.Image numbers builder →
      Follows numbers (next builder) (more twin) last) :
    Follows numbers (builder >>= next) (builder >>= more) last :=
  fun twin bench image => rest image.builder twin bench image

theorem outcome {first : Outcome α} {second : Outcome β} (mirrors : first.Mirrors second related) :
    Follows numbers (ofOutcome first) (ofOutcome second) related := by
  cases first with
  | error failure => exact throw failure _
  | ok value =>
    obtain ⟨answer, rfl, held⟩ := mirrors value rfl
    exact pure held

/-- One check of both. -/
theorem check (first : Outcome α) :
    Follows numbers (ofOutcome first) (ofOutcome first) (· = ·) :=
  outcome fun value ended => ⟨value, ended, rfl⟩

/-- The same for parts with the same answer. -/
theorem follow {rest : γ → Build α} {others : γ → Build β} {one two : Build γ}
    (first : Follows numbers one two (· = ·))
    (later : ∀ value, Follows numbers (rest value) (others value) related) :
    Follows numbers (one >>= rest) (two >>= others) related :=
  first.bind fun value _ same => same ▸ later value

/-- Both change their contexts, and go on. -/
theorem change {change other : BuildContext → BuildContext} {rest : Unit → Build α}
    {others : Unit → Build β}
    (same : ∀ context, change (numbers.context context) = numbers.context (other context))
    (later : Follows numbers (rest ()) (others ()) related) :
    Follows numbers (Build.modifyContext change >>= rest) (Build.modifyContext other >>= others)
      related :=
  (modifyContext same).follow fun _ => later

theorem forM {step again : γ → Build PUnit} (items : List γ)
    (steps : ∀ item, Follows numbers (step item) (again item) (· = ·)) :
    Follows numbers (items.forM step) (items.forM again) (· = ·) := by
  induction items with
  | nil => exact pure rfl
  | cons item rest hypothesis => exact (steps item).follow fun _ => hypothesis

theorem mapM {step again : γ → Build α} (items : List γ)
    (steps : ∀ item, Follows numbers (step item) (again item) (· = ·)) :
    Follows numbers (items.mapM step) (items.mapM again) (· = ·) := by
  induction items with
  | nil => exact pure rfl
  | cons item rest hypothesis =>
    rw [List.mapM_cons, List.mapM_cons]
    exact (steps item).follow fun _ => hypothesis.follow fun _ => pure rfl

end Follows

/-! ### Nodes -/

/-- **A node that is asked for and attached** ends under the corresponding id. -/
theorem grown_follows (kind : NodeKind) (tuple object : Option NodeId) {share : Builder → Bool}
    (agree : ∀ {twin builder : Builder}, twin.Image numbers builder →
      share builder = share twin) :
    Follows numbers (grown kind (tuple.map numbers.nodeId) (object.map numbers.nodeId) share)
      (grown kind tuple object share) numbers.Names := by
  intro twin bench image
  unfold grown
  simp only [ensures_bind, ensures_builder]
  refine ensures_request (fun _ _ => trivial) fun id ids handed =>
    ⟨fun node made => ?_, fun _ _ => trivial⟩
  rw [image.builder.factory] at made
  cases made
  refine ensures_place (fun _ _ => trivial) fun ended network answer tracer log => ?_
  obtain ⟨own, left, given⟩ := image.builder.supplied handed
  refine ensures_request (fun failure exhausted => ?_) fun other rest again =>
    ⟨fun node made => ?_, fun failure never => ?_⟩
  · rw [given] at exhausted
    cases exhausted
  · cases given.symm.trans again
    rw [image.builder.standard] at made
    cases made
    obtain ⟨named, asked⟩ := image.builder.asked handed given ⟨id, kind, object.map numbers.nodeId,
      tuple.map numbers.nodeId⟩ ⟨own, kind, object, tuple⟩
    have same : (⟨id, kind, object.map numbers.nodeId, tuple.map numbers.nodeId, []⟩ : Node) =
        numbers.node ⟨own, kind, object, tuple, []⟩ := by
      rw [named]
      rfl
    obtain ⟨found, attached, twins⟩ := numbers.mirrors_attach twin.builder.network
      ⟨own, kind, object, tuple, []⟩ (share (twin.builder.asked left ⟨own, kind, object, tuple⟩))
      (ended, network) (by rw [← same, ← agree asked, ← image.builder.network]; exact answer)
    refine ensures_place (fun failure refused => ?_) fun known after reply last lines => ?_
    · cases attached.symm.trans refused
    · cases attached.symm.trans reply
      exact ⟨twins.1, { asked with network := twins.2 }, image.context⟩
  · rw [image.builder.standard] at never
    cases never

/-- The same, in the middle of a step. -/
theorem Follows.grow {α β : Type} {kind : NodeKind} (tuple object : Option NodeId)
    {share : Builder → Bool} {next : NodeId → Build α} {more : NodeId → Build β}
    {related : α → β → Prop}
    (agree : ∀ {twin builder : Builder}, twin.Image numbers builder → share builder = share twin)
    (rest : ∀ own, Follows numbers (next (numbers.nodeId own)) (more own) related) :
    Follows numbers
      (do
        let node ← request kind (tuple.map numbers.nodeId) (object.map numbers.nodeId)
        let known ← builder
        let id ← place node (share known)
        next id)
      (do
        let node ← request kind tuple object
        let known ← builder
        let id ← place node (share known)
        more id) related := by
  rw [grown_bind, grown_bind]
  exact (grown_follows kind tuple object agree).bind fun _ own named => named ▸ rest own

/-! ### Roots and types -/

theorem entryPointRoot_follows (name : String) :
    Follows numbers (entryPointRoot name) (entryPointRoot name) numbers.Names := by
  unfold entryPointRoot
  refine Follows.lookAt fun {twin builder} image => ?_
  rw [image.entryPoints, Renumbering.get?_roots]
  cases twin.entryPoints.get? name with
  | some root => exact (Follows.report _ _).follow fun _ => .pure rfl
  | none =>
    simp only [Option.map_none, attached_bind]
    refine (grown_follows (.entryPoint name) none none fun _ => rfl).bind fun root own named => ?_
    refine Follows.follow ?_ fun _ => (Follows.log _ _ _).follow fun _ => .pure named
    refine Follows.modifyBuilder fun image => { image with entryPoints := ?_ }
    rw [named, image.entryPoints, Renumbering.insert_roots]

theorem streamRoot_follows (name : String) (type : ObjectType) :
    Follows numbers (streamRoot name type) (streamRoot name type) numbers.Names := by
  unfold streamRoot
  refine Follows.lookAt fun {twin builder} image => ?_
  rw [image.streams, Renumbering.get?_roots]
  cases twin.streams.get? name with
  | some root => exact (Follows.report _ _).follow fun _ => .pure rfl
  | none =>
    simp only [Option.map_none, attached_bind]
    refine (grown_follows (.stream name type) none none fun _ => rfl).bind fun root own named => ?_
    refine Follows.follow ?_ fun _ => (Follows.log _ _ _).follow fun _ => .pure named
    refine Follows.modifyBuilder fun image => { image with streams := ?_ }
    rw [named, image.streams, Renumbering.insert_roots]

theorem streamType_follows (name : String) (root : NodeId) :
    Follows numbers (streamType name (numbers.nodeId root)) (streamType name root) (· = ·) := by
  unfold streamType
  refine Follows.lookAt fun {twin builder} image => ?_
  rw [image.network, Renumbering.node?_network]
  cases twin.network.node? root with
  | none => exact Follows.throw _ _
  | some node =>
    obtain ⟨id, kind, object, tuple, children⟩ := node
    cases kind with
    | stream carried type => exact Follows.pure rfl
    | _ => exact Follows.throw _ _

theorem objectTypeNode_follows (root : NodeId) (type : ObjectType) :
    Follows numbers (objectTypeNode (numbers.nodeId root) type) (objectTypeNode root type)
      numbers.Names := by
  unfold objectTypeNode
  refine Follows.lookAt fun {twin builder} image => ?_
  rw [image.network, Renumbering.objectTypeNode?_network]
  cases twin.network.objectTypeNode? root type with
  | some existing => exact (Follows.report _ _).follow fun _ => .pure rfl
  | none =>
    exact @grown_follows numbers (.objectType type) none (some root) (fun _ => true) fun _ => rfl

theorem ensureAdapter_follows : Follows numbers ensureAdapter ensureAdapter numbers.Names := by
  unfold ensureAdapter
  refine Follows.look fun context => ?_
  rw [Renumbering.tupleCursor_context]
  cases context.tupleCursor with
  | some tuple => exact Follows.pure rfl
  | none =>
    refine (Follows.outcome (numbers.mirrors_requireObjectCursor context _)).bind ?_
    rintro _ object rfl
    refine Follows.lookAt fun {twin builder} image => ?_
    rw [image.network, Renumbering.objectTypeRoot_network]
    cases twin.network.objectTypeRoot object with
    | none => exact Follows.throw _ _
    | some root =>
      refine Follows.change (fun _ => rfl) ?_
      refine Follows.grow none (some object)
        (fun image => by rw [image.config]) fun adapter => ?_
      refine (Follows.report _ _).follow fun _ => ?_
      exact Follows.change (fun _ => rfl) <| .pure rfl

theorem initialFact_follows : Follows numbers initialFact initialFact (· = ·) := by
  unfold initialFact
  refine (entryPointRoot_follows _).bind ?_
  rintro _ root rfl
  refine Follows.change (fun _ => rfl) ?_
  refine (objectTypeNode_follows root .initialFact).bind ?_
  rintro _ narrowed rfl
  refine Follows.change (fun _ => rfl) ((Follows.report _ _).follow fun _ => ?_)
  exact ensureAdapter_follows.bind fun _ _ _ => .modifyContext fun _ => rfl

theorem start_follows (needed : Bool) :
    Follows numbers (start needed) (start needed) (· = ·) := by
  unfold start
  refine Follows.look fun context => ?_
  rw [Renumbering.tupleCursor_context, Option.isNone_map]
  split
  · exact initialFact_follows
  · exact Follows.pure rfl

theorem check_follows : Follows numbers check check (· = ·) :=
  Follows.look fun context => .outcome (numbers.mirrors_checkComplete context)

/-! ### Patterns -/

theorem readSource_follows (source : Source) (type : ObjectType) :
    Follows numbers (readSource source type) (readSource source type) (· = ·) := by
  unfold readSource
  cases source with
  | entryPoint name =>
    refine (entryPointRoot_follows name).bind ?_
    rintro _ root rfl
    refine Follows.change (fun _ => rfl) ?_
    refine (objectTypeNode_follows root type).bind ?_
    rintro _ narrowed rfl
    exact Follows.modifyContext fun _ => rfl
  | stream name =>
    refine (streamRoot_follows name type).bind ?_
    rintro _ root rfl
    refine Follows.change (fun _ => rfl) ?_
    refine (streamType_follows name root).follow fun carried => ?_
    split
    · exact Follows.pure rfl
    · split
      · refine (objectTypeNode_follows root type).bind ?_
        rintro _ narrowed rfl
        exact Follows.modifyContext fun _ => rfl
      · exact Follows.throw _ _

theorem filter_follows (single : SingleConstraint) :
    Follows numbers (filter single) (filter single) (· = ·) := by
  unfold filter
  refine Follows.look fun context => ?_
  refine (Follows.outcome (numbers.mirrors_requireObjectCursor context _)).bind ?_
  rintro _ parent rfl
  refine Follows.grow none (some parent)
    (fun image => by rw [image.config]) fun id => ?_
  exact Follows.modifyContext fun _ => rfl

theorem objects_follows (leaf : Pattern) :
    Follows numbers (objects leaf) (objects leaf) (· = ·) := by
  unfold objects
  refine (readSource_follows _ _).follow fun _ => Follows.look fun context => ?_
  rw [@Classified.partition_congr (numbers.context context) context _ rfl]
  refine (Follows.check _).follow fun classified => ?_
  refine (Follows.forM _ fun single => ?_).follow fun _ => ?_
  · exact (Follows.log _ _ _).follow fun _ => Follows.report _ _
  refine (Follows.forM _ fun single => filter_follows single).follow fun _ => ?_
  refine Follows.look fun context => ?_
  rw [@SingleConstraint.bindAll_congr (numbers.context context) context _ rfl]
  exact Follows.check _

theorem extend_follows (kind : NodeKind) (tuple : NodeId) (object : Option NodeId) :
    Follows numbers (extend kind (numbers.nodeId tuple) (object.map numbers.nodeId))
      (extend kind tuple object) (· = ·) := by
  unfold extend
  refine Follows.grow (some tuple) object (fun image => by rw [image.config]) fun id => ?_
  exact Follows.modifyContext fun _ => rfl

theorem plain_follows (subject : Variable) (constraints : List BoundConstraint) :
    Follows numbers (plain subject constraints) (plain subject constraints) (· = ·) := by
  unfold plain
  refine Follows.look fun context => ?_
  rw [Renumbering.tupleCursor_context]
  cases context.tupleCursor with
  | none =>
    exact ensureAdapter_follows.bind fun _ _ _ => .modifyContext fun _ => rfl
  | some tuple =>
    refine (Follows.outcome (numbers.mirrors_requireObjectCursor context _)).bind ?_
    rintro _ object rfl
    refine (extend_follows (.join constraints) tuple (some object)).follow fun _ => ?_
    exact Follows.modifyContext fun _ => rfl

theorem existential_follows (quantifier : Quantifier) (constraints : List BoundConstraint) :
    Follows numbers (existential quantifier constraints) (existential quantifier constraints)
      (· = ·) := by
  unfold existential
  refine Follows.look fun context => ?_
  refine (Follows.outcome (numbers.mirrors_requireTupleCursor context _)).bind ?_
  rintro _ tuple rfl
  refine (Follows.outcome (numbers.mirrors_requireObjectCursor context _)).bind ?_
  rintro _ object rfl
  refine (extend_follows (.existential quantifier constraints) tuple (some object)).follow fun _ => ?_
  exact Follows.modifyContext fun _ => rfl

theorem placeAggregate_follows (binding : Binding) :
    Follows numbers (placeAggregate binding) (placeAggregate binding) (· = ·) :=
  Follows.look fun _ => Follows.change (fun _ => rfl) <| .pure rfl

theorem accumulate_follows (bindings : List Binding) (constraints : List BoundConstraint) :
    Follows numbers (accumulate bindings constraints) (accumulate bindings constraints)
      (· = ·) := by
  unfold accumulate
  refine Follows.look fun context => ?_
  refine (Follows.outcome (numbers.mirrors_requireTupleCursor context _)).bind ?_
  rintro _ tuple rfl
  refine (Follows.outcome (numbers.mirrors_requireObjectCursor context _)).bind ?_
  rintro _ object rfl
  refine (Follows.mapM _ placeAggregate_follows).follow fun functions => ?_
  exact extend_follows (.accumulate constraints [] functions) tuple (some object)

theorem invoke_follows (leaf : Pattern) (invocation : Invocation) :
    Follows numbers (invoke leaf invocation) (invoke leaf invocation) (· = ·) := by
  unfold invoke
  refine Follows.look fun context => ?_
  refine (Follows.outcome (numbers.mirrors_requireTupleCursor context _)).bind ?_
  rintro _ tuple rfl
  refine (Follows.check _).follow fun args => ?_
  refine (Follows.forM _ fun single => Follows.report _ _).follow fun _ => ?_
  rw [@SingleConstraint.bindAll_congr (numbers.context context) context _ rfl]
  refine (Follows.check _).follow fun constraints => ?_
  refine (extend_follows (.invoker invocation args constraints) tuple none).follow fun _ => ?_
  exact Follows.modifyContext fun _ => rfl

theorem use_follows (leaf : Pattern) : Follows numbers (use leaf) (use leaf) (· = ·) := by
  unfold use
  split
  · exact (objects_follows leaf).follow fun _ => plain_follows _ _
  · exact (objects_follows leaf).follow fun _ => existential_follows _ _
  · exact (objects_follows leaf).follow fun _ => accumulate_follows _ _
  · exact invoke_follows leaf _

/-! ### Rules -/

theorem framed_follows {frame : String} {step : Build Unit}
    (inside : Follows numbers step step (· = ·)) :
    Follows numbers (framed frame step) (framed frame step) (· = ·) :=
  Follows.change (fun _ => rfl) <| inside.follow fun _ => .modifyContext fun _ => rfl

mutual

theorem condition_follows : (view : Condition) →
    Follows numbers (condition view) (condition view) (· = ·)
  | .pattern leaf => by
    refine Follows.change (fun _ => rfl) <| Follows.look fun _ => ?_
    refine framed_follows ?_
    rw [pattern_eq]
    exact (start_follows _).follow fun _ => (use_follows leaf).follow fun _ => check_follows
  | .and parts => framed_follows (conditions_follow parts)
  | .or _ => framed_follows (Follows.throw _ _)
  | .objectPath _ => framed_follows (Follows.throw _ _)

theorem conditions_follow : (parts : List Condition) →
    Follows numbers (conditions parts) (conditions parts) (· = ·)
  | [] => Follows.pure rfl
  | part :: rest => (condition_follows part).follow fun _ => conditions_follow rest

end

theorem terminal_follows (whole : Rule) :
    Follows numbers (terminal whole) (terminal whole) numbers.Names := by
  unfold terminal
  refine Follows.change (fun _ => rfl) <| Follows.look fun context => ?_
  refine (Follows.outcome (numbers.mirrors_requireTupleCursor context _)).bind ?_
  rintro _ tuple rfl
  refine (Follows.check _).follow fun places => ?_
  simp only [attached_bind]
  refine (grown_follows _ (some tuple) none fun _ => rfl).bind fun id own named => ?_
  exact Follows.change (fun _ => rfl) <| .pure named

/-- **Compiling a rule follows itself.** -/
theorem rule_follows (whole : Rule) :
    Follows numbers (Build.rule whole) (Build.rule whole) numbers.Names := by
  rw [rule_eq]
  refine (condition_follows whole.view).follow fun _ => (start_follows true).follow fun _ => ?_
  exact check_follows.follow fun _ => terminal_follows whole

end Build

namespace Builder

variable {numbers : Renumbering} {twin builder : Builder}

theorem Image.opened (image : twin.Image numbers builder) :
    twin.opened.Image numbers builder.opened := by
  refine { image with network := ?_ }
  simp only [Builder.opened, image.config, image.network]
  split <;> rfl

theorem Image.committed (image : twin.Image numbers builder) :
    twin.committed.Image numbers builder.committed := by
  refine { image with network := ?_ }
  simp only [Builder.committed, image.network]
  rfl

/-- **A rule that is accepted is accepted by the other builder**, and the two still correspond. -/
theorem addRule_replays {start bench : Workbench}
    (image : start.builder.Image numbers bench.builder) (rule : Rule) :
    Ensures (addRule rule) bench (fun handle after => Ensures (addRule rule) start
      (fun own done => own.Image numbers handle ∧ done.builder.Image numbers after.builder)
      fun _ _ => False) fun _ _ => True := by
  refine ensures_addRule fun tracer log => ?_
  have followed := fun last lines => Build.rule_follows rule
    ⟨(start.builder.traced last).opened, .new rule.name, lines⟩
    ⟨(bench.builder.traced tracer).opened, .new rule.name, log⟩
    ⟨(image.traced last tracer).opened, rfl⟩
  unfold Ensures
  cases ended : result (Build.rule rule)
      ⟨(bench.builder.traced tracer).opened, .new rule.name, log⟩ with
  | mk outcome after =>
    cases outcome with
    | error failure => exact fun _ _ => trivial
    | ok terminal =>
      intro tracer _
      refine ensures_addRule fun last lines => ?_
      have one := followed last lines
      unfold Ensures at one
      rw [ended] at one
      refine Ensures.mono one (fun own done followed => ?_) fun _ _ never => never.elim
      exact fun last _ => ⟨⟨rfl, rfl, followed.1⟩, followed.2.builder.committed.traced last tracer⟩

end Builder

end RuleNet
