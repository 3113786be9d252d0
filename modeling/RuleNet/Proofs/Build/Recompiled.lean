/-
**Recompiling a rule costs one node.**

A rule that was accepted can be added again over other variables, under another name, with another
salience and other callbacks of the same keys. Where all nodes are shared, its view is compiled to
the nodes of the first compilation, and only its terminal is new.

* `pattern_retraces`, `condition_retraces`: **patterns and views** are compiled to the nodes that
  are there;
* `terminal_made`: a terminal is made below the tuple cursor, and nothing else changes;
* `compiled_body`: what the first compilation left, and still is there;
* `recompiled`: **adding the rule again adds its terminal** below the node that the first rule's
  terminal reads, with the same places.
-/

import RuleNet.Proofs.Build.Meaning
import RuleNet.Proofs.Build.Retrace
import RuleNet.Proofs.Build.Scoping

namespace RuleNet

open Stateful

/-! ### Contexts -/

namespace BuildContext.Renamed

variable {names : Renaming} {context again : BuildContext}

theorem setObjectCursor (renamed : context.Renamed names again) (node : NodeId) :
    (context.setObjectCursor node).Renamed names (again.setObjectCursor node) :=
  ⟨rfl, renamed.tupleCursor, renamed.width, renamed.bound⟩

theorem absorb (renamed : context.Renamed names again) (node : NodeId) :
    (context.absorb node).Renamed names (again.absorb node) :=
  ⟨rfl, rfl, renamed.width, renamed.bound⟩

theorem reserve (renamed : context.Renamed names again) :
    context.reserve.Renamed names again.reserve :=
  ⟨renamed.objectCursor, renamed.tupleCursor, congrArg (· + 1) renamed.width, renamed.bound⟩

theorem bind (renamed : context.Renamed names again) (v : Variable) :
    (context.bind v).Renamed names (again.bind (names.rename v)) := by
  refine ⟨renamed.objectCursor, renamed.tupleCursor, congrArg (· + 1) renamed.width, ?_⟩
  simp only [BuildContext.bind, renamed.bound, renamed.width, List.map_append, List.map_cons,
    List.map_nil]

end BuildContext.Renamed

namespace Build

open Builder

variable {names : Renaming}

/-! ### Sources and filters -/

/-- A node is asked for, and the rest goes on from it. -/
theorem Retraces.grow {α β : Type} {kind other : NodeKind} {tuple object : Option NodeId}
    {share : Builder → Bool} {next : NodeId → Build α} {more : NodeId → Build β}
    {related : α → β → Prop} (asks : Asks kind tuple object share)
    (again : Asks other tuple object share) (same : kind.sharesWith other = true)
    (rest : ∀ id, Retraces names (next id) (more id) related) :
    Retraces names
      (do
        let node ← request kind tuple object
        let known ← builder
        let id ← place node (share known)
        next id)
      (do
        let node ← request other tuple object
        let known ← builder
        let id ← place node (share known)
        more id) related := by
  rw [grown_bind, grown_bind]
  exact (grown_retraces asks again same).follow rest

/-- **Climbing ends in the second run** if it ended in the first. -/
theorem Retraces.climb {α β : Type} {object : NodeId} {fault other : Fault}
    {next : NodeId → Build α} {more : NodeId → Build β} {related : α → β → Prop}
    (rest : ∀ root again, Retraces names (next root) (more again) related) :
    Retraces names
      (do
        match (← builder).network.objectTypeRoot object with
        | none => fail fault
        | some root => next root)
      (do
        match (← builder).network.objectTypeRoot object with
        | none => fail other
        | some root => more root) related where
  keeps base := by
    refine keeps_bind builder_keeps fun known => ?_
    split
    · exact keeps_throw _
    · rename_i root _
      exact (rest root root).keeps base
  retraces start value after ended complete bench beside within := by
    have ended : result (match start.builder.network.objectTypeRoot object with
      | none => fail fault
      | some root => next root) start = (.ok value, after) := ended
    cases top : start.builder.network.objectTypeRoot object with
    | none =>
      rw [top] at ended
      cases ended
    | some root =>
      rw [top] at ended
      have kept := (rest root root).keeps start.builder start complete.widened
      unfold Ensures at kept
      rw [ended] at kept
      have rooted : start.builder.network.Rooted object := ⟨_, by
        rw [show start.builder.network.climb _ object = some root from top]
        rfl⟩
      obtain ⟨again, there⟩ := Network.objectTypeRoot_of_rooted beside.complete.stacked
        (rooted.mono (kept.2.trans within).network)
      simp only [ensures_bind, ensures_builder, there]
      exact (rest root again).retraces start value after ended complete bench beside within

theorem ensureAdapter_retraces : Retraces names ensureAdapter ensureAdapter (· = ·) := by
  unfold ensureAdapter
  refine Retraces.look fun context copy renamed => ?_
  rw [renamed.tupleCursor]
  cases context.tupleCursor with
  | some tuple => exact Retraces.pure rfl
  | none =>
    refine Retraces.outcome (BuildContext.mirrors_requireObjectCursor renamed _ _) ?_
    rintro object _ rfl
    refine Retraces.climb fun root again => ?_
    refine (Retraces.modifyContext fun _ _ kept => ?_).follow fun _ => ?_
    · exact ⟨kept.objectCursor, kept.tupleCursor, kept.width, kept.bound⟩
    refine Retraces.grow (.adapter object) (.adapter object) rfl fun adapter => ?_
    refine (Retraces.report _ _).follow fun _ => ?_
    exact (Retraces.modifyContext fun _ _ kept => kept.absorb adapter).follow fun _ => .pure rfl

theorem initialFact_retraces : Retraces names initialFact initialFact (· = ·) := by
  unfold initialFact
  refine (entryPointRoot_retraces _).follow fun root => ?_
  refine (Retraces.modifyContext fun _ _ kept => ?_).follow fun _ => ?_
  · exact ⟨kept.objectCursor, kept.tupleCursor, kept.width, kept.bound⟩
  refine (objectTypeNode_retraces _ _).follow fun narrowed => ?_
  refine (Retraces.modifyContext fun _ _ kept => kept.setObjectCursor narrowed).follow fun _ => ?_
  refine (Retraces.report _ _).follow fun _ => ensureAdapter_retraces.follow fun _ => ?_
  exact Retraces.modifyContext fun _ _ kept => kept.reserve

theorem start_retraces (needed : Bool) : Retraces names (start needed) (start needed) (· = ·) := by
  unfold start
  refine Retraces.look fun context copy renamed => ?_
  rw [renamed.tupleCursor]
  split
  · exact initialFact_retraces
  · exact Retraces.pure rfl

theorem check_retraces : Retraces names check check (· = ·) :=
  Retraces.look fun _ _ renamed => .lastOutcome (BuildContext.mirrors_checkComplete renamed)

theorem readSource_retraces (source : Source) (type : ObjectType) :
    Retraces names (readSource source type) (readSource source type) (· = ·) := by
  unfold readSource
  cases source with
  | entryPoint name =>
    refine (entryPointRoot_retraces name).follow fun root => ?_
    refine (Retraces.modifyContext fun _ _ kept => ?_).follow fun _ => ?_
    · exact ⟨rfl, kept.tupleCursor, kept.width, kept.bound⟩
    refine (objectTypeNode_retraces _ _).follow fun narrowed => ?_
    exact Retraces.modifyContext fun _ _ kept => kept.setObjectCursor narrowed
  | stream name =>
    refine (streamRoot_retraces name type).follow fun root => ?_
    refine (Retraces.modifyContext fun _ _ kept => ?_).follow fun _ => ?_
    · exact ⟨rfl, kept.tupleCursor, kept.width, kept.bound⟩
    refine (streamType_retraces name root).follow fun carried => ?_
    split
    · exact Retraces.pure rfl
    · split
      · refine (objectTypeNode_retraces _ _).follow fun narrowed => ?_
        exact Retraces.modifyContext fun _ _ kept => kept.setObjectCursor narrowed
      · exact Retraces.throw _ _

theorem filter_retraces {first second : SingleConstraint} (same : first.Renamed names second) :
    Retraces names (filter first) (filter second) (· = ·) := by
  unfold filter
  refine Retraces.look fun context copy renamed => ?_
  refine Retraces.outcome (BuildContext.mirrors_requireObjectCursor renamed _ _) ?_
  rintro parent _ rfl
  refine Retraces.grow (.alpha _ _ _) (.alpha _ _ _) ?_ fun id => ?_
  · simp [NodeKind.sharesWith, Predicate.same, same.key, same.reads]
  · exact Retraces.modifyContext fun _ _ kept => kept.setObjectCursor id

/-- Constraints that are compared by the same keys. -/
def SameKeys (first second : List BoundConstraint) : Prop :=
  first.map BoundConstraint.sharingKey = second.map BoundConstraint.sharingKey

/-- **The objects of a pattern**, and the constraints that are left. -/
theorem objects_retraces {first second : Pattern} (same : first.Renamed names second) :
    Retraces names (objects first) (objects second) SameKeys := by
  unfold objects
  rw [same.source, same.subject, names.type]
  refine (readSource_retraces _ _).follow fun _ => Retraces.look fun context copy renamed => ?_
  refine Retraces.outcome (Classified.mirrors_partition renamed same.constraint) ?_
  intro classified again parts
  refine (Retraces.forM parts.constant fun single other one => ?_).follow fun _ => ?_
  · exact (Retraces.log _ _ _).follow fun _ => Retraces.report _ _
  refine (Retraces.forM parts.alpha fun single other one => filter_retraces one).follow fun _ => ?_
  refine Retraces.look fun context copy renamed => ?_
  exact Retraces.lastOutcome (SingleConstraint.mirrors_bindAll renamed parts.beta)

/-! ### Patterns -/

theorem extend_retraces {first second : NodeKind} (extending : first.isBeta = true)
    (again : second.isBeta = true) (same : first.sharesWith second = true) (tuple : NodeId)
    (object : Option NodeId) :
    Retraces names (extend first tuple object) (extend second tuple object) (· = ·) := by
  unfold extend
  refine Retraces.grow (.beta extending _ _) (.beta again _ _) same fun id => ?_
  exact Retraces.modifyContext fun _ _ kept => kept.absorb id

theorem plain_retraces (subject : Variable) {first second : List BoundConstraint}
    (same : SameKeys first second) :
    Retraces names (plain subject first) (plain (names.rename subject) second) (· = ·) := by
  unfold plain
  refine Retraces.look fun context copy renamed => ?_
  rw [renamed.tupleCursor]
  cases context.tupleCursor with
  | none =>
    refine ensureAdapter_retraces.follow fun _ => ?_
    exact Retraces.modifyContext fun _ _ kept => kept.bind subject
  | some tuple =>
    refine Retraces.outcome (BuildContext.mirrors_requireObjectCursor renamed _ _) ?_
    rintro object _ rfl
    refine (extend_retraces rfl rfl ?_ tuple (some object)).follow fun _ => ?_
    · exact (BoundConstraint.sameAll_iff _ _).mpr same
    · exact Retraces.modifyContext fun _ _ kept => kept.bind subject

theorem existential_retraces (quantifier : Quantifier) {first second : List BoundConstraint}
    (same : SameKeys first second) :
    Retraces names (existential quantifier first) (existential quantifier second) (· = ·) := by
  unfold existential
  refine Retraces.look fun context copy renamed => ?_
  refine Retraces.outcome (BuildContext.mirrors_requireTupleCursor renamed _ _) ?_
  rintro tuple _ rfl
  refine Retraces.outcome (BuildContext.mirrors_requireObjectCursor renamed _ _) ?_
  rintro object _ rfl
  refine (extend_retraces rfl rfl ?_ tuple (some object)).follow fun _ => ?_
  · simp [NodeKind.sharesWith, (BoundConstraint.sameAll_iff _ _).mpr same]
  · exact Retraces.modifyContext fun _ _ kept => kept.reserve

/-- Folds of the same keys at the same places. -/
def SameFolds (first second : List PlacedAggregate) : Prop :=
  first.map PlacedAggregate.sharingKey = second.map PlacedAggregate.sharingKey

theorem placeAggregates_retraces {bindings others : List Binding}
    (each : List.Forall₂ (Binding.Renamed names) bindings others) :
    Retraces names (bindings.mapM placeAggregate) (others.mapM placeAggregate) SameFolds := by
  induction each with
  | nil => exact Retraces.pure rfl
  | @cons binding other _ _ one _ hypothesis =>
    rw [List.mapM_cons, List.mapM_cons]
    have first : Retraces names (placeAggregate binding) (placeAggregate other)
        fun a b => a.sharingKey = b.sharingKey := by
      unfold placeAggregate
      refine Retraces.look fun context copy renamed => ?_
      refine (Retraces.modifyContext fun _ _ kept => ?_).follow fun _ => ?_
      · rw [one.result]
        exact kept.bind binding.result
      · exact Retraces.pure (Prod.ext one.key.symm renamed.width.symm)
    refine first.bind (fun value => ⟨value, rfl⟩) fun value answer equal => ?_
    refine hypothesis.bind (fun values => ⟨values, rfl⟩) fun values answers same => ?_
    exact Retraces.pure (by rw [SameFolds, List.map_cons, List.map_cons, equal, same])

theorem accumulate_retraces {bindings others : List Binding}
    (each : List.Forall₂ (Binding.Renamed names) bindings others)
    {first second : List BoundConstraint} (same : SameKeys first second) :
    Retraces names (accumulate bindings first) (accumulate others second) (· = ·) := by
  unfold accumulate
  refine Retraces.look fun context copy renamed => ?_
  refine Retraces.outcome (BuildContext.mirrors_requireTupleCursor renamed _ _) ?_
  rintro tuple _ rfl
  refine Retraces.outcome (BuildContext.mirrors_requireObjectCursor renamed _ _) ?_
  rintro object _ rfl
  refine (placeAggregates_retraces each).bind (fun functions => ⟨functions, rfl⟩) ?_
  intro functions places folds
  refine extend_retraces rfl rfl ?_ tuple (some object)
  simp [NodeKind.sharesWith, (BoundConstraint.sameAll_iff _ _).mpr same,
    (PlacedAggregate.sameAll_iff _ _).mpr folds, BoundConstraint.sameAll]

theorem invoke_retraces {first second : Pattern} (same : first.Renamed names second)
    {invocation other : Invocation} (calls : invocation.Renamed names other) :
    Retraces names (invoke first invocation) (invoke second other) (· = ·) := by
  unfold invoke
  refine Retraces.look fun context copy renamed => ?_
  refine Retraces.outcome (BuildContext.mirrors_requireTupleCursor renamed _ _) ?_
  rintro tuple _ rfl
  rw [calls.params]
  refine Retraces.outcome (BuildContext.mirrors_requireOffsets renamed _ _ _) ?_
  rintro args _ rfl
  have constant := List.rel_filter (p := SingleConstraint.isConstant)
    (q := SingleConstraint.isConstant) (fun single again one => by simp only [one.isConstant])
    same.constraint
  have reading := List.rel_filter (p := fun single => !single.isConstant)
    (q := fun single => !single.isConstant) (fun single again one => by simp only [one.isConstant])
    same.constraint
  refine (Retraces.forM constant fun single again one => Retraces.report _ _).follow fun _ => ?_
  rw [same.subject]
  refine Retraces.outcome (SingleConstraint.mirrors_bindAll renamed reading) ?_
  intro constraints bound keys
  refine (extend_retraces rfl rfl ?_ tuple none).follow fun _ => ?_
  · simp [NodeKind.sharesWith, Invocation.same, calls.key, calls.iterable,
      (BoundConstraint.sameAll_iff _ _).mpr keys]
  · exact Retraces.modifyContext fun _ _ kept => kept.bind first.subject

/-- **A pattern is compiled to the nodes that are there.** -/
theorem pattern_retraces {first second : Pattern} (same : first.Renamed names second) :
    Retraces names (Build.pattern first) (Build.pattern second) (· = ·) := by
  have total : ∀ constraints, ∃ others, SameKeys constraints others :=
    fun constraints => ⟨constraints, rfl⟩
  have objects := objects_retraces same
  have uses := same.use
  rw [pattern_eq, pattern_eq]
  unfold use Pattern.needsTuple
  generalize first.use = one, second.use = other at uses ⊢
  cases uses with
  | plain =>
    refine (start_retraces _).follow fun _ => Retraces.follow ?_ fun _ => check_retraces
    rw [same.subject]
    exact objects.bind total fun _ _ keys => plain_retraces _ keys
  | existential quantifier =>
    refine (start_retraces _).follow fun _ => Retraces.follow ?_ fun _ => check_retraces
    exact objects.bind total fun _ _ keys => existential_retraces _ keys
  | accumulate each =>
    refine (start_retraces _).follow fun _ => Retraces.follow ?_ fun _ => check_retraces
    exact objects.bind total fun _ _ keys => accumulate_retraces each keys
  | invoke calls =>
    refine (start_retraces _).follow fun _ => Retraces.follow ?_ fun _ => check_retraces
    exact invoke_retraces same calls

/-! ### Views -/

theorem framed_retraces {frame other : String} {step again : Build Unit}
    (inside : Retraces names step again (· = ·)) :
    Retraces names (framed frame step) (framed other again) (· = ·) := by
  unfold framed
  refine (Retraces.modifyContext fun _ _ kept => ?_).follow fun _ => inside.follow fun _ => ?_
  · exact ⟨kept.objectCursor, kept.tupleCursor, kept.width, kept.bound⟩
  · refine Retraces.modifyContext fun _ _ kept => ?_
    exact ⟨kept.objectCursor, kept.tupleCursor, kept.width, kept.bound⟩

mutual

/-- **A view is compiled to the nodes that are there.** -/
theorem condition_retraces : (view again : Condition) → view.Renamed names again →
    Retraces names (condition view) (condition again) (· = ·)
  | .pattern first, .pattern second, same => by
    refine (Retraces.modifyContext fun _ _ kept => ?_).follow fun _ => ?_
    · exact ⟨kept.objectCursor, kept.tupleCursor, kept.width, kept.bound⟩
    · exact Retraces.look fun _ _ _ => framed_retraces (pattern_retraces same)
  | .and parts, .and others, same => framed_retraces (conditions_retrace parts others same)
  | .or _, .or _, _ => framed_retraces (Retraces.throw _ _)
  | .objectPath _, .objectPath _, _ => framed_retraces (Retraces.throw _ _)

theorem conditions_retrace : (parts others : List Condition) →
    Condition.RenamedAll names parts others →
      Retraces names (conditions parts) (conditions others) (· = ·)
  | [], [], _ => Retraces.pure rfl
  | part :: rest, other :: others, same =>
    (condition_retraces part other same.1).follow fun _ => conditions_retrace rest others same.2

end

/-! ### Terminals -/

/-- The terminal of a rule, below a tuple node and with the places of its bindings. -/
def terminalNode (rule : Rule) (id tuple : NodeId) (places : List Nat) : Node :=
  ⟨id, .terminal ⟨rule.name, rule.salience, rule.consequence, places⟩, none, some tuple, []⟩

/-- **Where the terminal of a rule goes**: below the tuple cursor, with the places that its bindings
have. -/
structure Seated (rule : Rule) (context : BuildContext) (tuple : NodeId) (places : List Nat) :
    Prop where
  tuple : context.tupleCursor = some tuple
  places : (rule.consequence.bindings.mapM fun v => context.requireOffset v "consequence") =
    .ok places

/-- The terminals of two such rules go to the same place. -/
theorem Seated.renamed {rule again : Rule} {context copy : BuildContext} {tuple : NodeId}
    {places : List Nat} (seated : Seated rule context tuple places)
    (renamed : context.Renamed names copy)
    (bindings : again.consequence.bindings = rule.consequence.bindings.map names.rename) :
    Seated again copy tuple places := by
  obtain ⟨answers, found, rfl⟩ := BuildContext.mirrors_requireOffsets renamed
    rule.consequence.bindings "consequence" "consequence" places seated.places
  exact ⟨renamed.tupleCursor.trans seated.tuple, by rw [bindings]; exact found⟩

/-- **A terminal is made**, and nothing else. Where its tuple node is there and its bindings have
places, only the ids can run out. -/
theorem terminal_made {bench : Workbench} (complete : bench.builder.Complete) (rule : Rule) :
    Ensures (terminal rule) bench
      (fun id after => ∃ tuple places, Seated rule bench.context tuple places ∧
        bench.builder.network.contains id = false ∧
        after.builder.network = bench.builder.network.insert (terminalNode rule id tuple places))
      fun failure after => ∀ tuple places, Seated rule bench.context tuple places →
        bench.builder.network.contains tuple = true → Spent failure after := by
  unfold terminal
  simp only [ensures_bind, ensures_modifyContext, ensures_context]
  refine ensures_ofOutcome (fun tuple cursor => ?_) fun _ missing tuple _ seated _ => ?_
  case refine_2 =>
    rw [BuildContext.requireTupleCursor, show (bench.context.pushFrame "consequence").tupleCursor =
      some tuple from seated.tuple] at missing
    cases missing
  refine ensures_ofOutcome (fun places bound => ?_) fun _ unbound _ places seated _ => ?_
  case refine_2 =>
    cases seated.places.symm.trans unbound
  have seated : Seated rule bench.context tuple places := by
    refine ⟨?_, bound⟩
    unfold BuildContext.requireTupleCursor at cursor
    split at cursor
    · rename_i found
      cases cursor
      exact found
    · cases cursor
  refine ensures_request (fun failure exhausted _ _ _ _ => IdSupply.next_error exhausted)
    fun id ids handed => ?_
  have new : bench.builder.network.contains id = false := by
    refine Network.contains_eq_false.mpr fun old inside equal => ?_
    have below := complete.tidy.below old inside
    rw [equal, (IdSupply.next_increases handed).1] at below
    exact Nat.lt_irrefl _ below
  refine ⟨fun node made => ?_, fun failure never => ?_⟩
  · rw [complete.standard] at made
    cases made
    refine ensures_place (fun failure refused other _ again known => ?_)
      fun ended network answer tracer log => ?_
    · obtain rfl := Option.some.inj (seated.tuple.symm.trans again.tuple)
      obtain ⟨parent, named, missing⟩ := Network.attach_error refused
      obtain rfl : parent = tuple := List.mem_singleton.mp named
      exact absurd (known.symm.trans missing) Bool.noConfusion
    · rcases Network.attach_cases answer with ⟨known, _⟩ | ⟨_, never, _⟩ | ⟨_, _, rfl, rfl⟩
      · exact absurd (known.symm.trans new) Bool.noConfusion
      · cases never
      · exact ⟨tuple, places, seated, new, rfl⟩
  · rw [complete.standard] at never
    cases never

/-! ### Rules -/

theorem body_retraces {view again : Condition} (same : view.Renamed names again) :
    Retraces names (body view) (body again) (· = ·) :=
  (condition_retraces view again same).follow fun _ =>
    (start_retraces true).follow fun _ => check_retraces

/-- **What the compilation of a rule left**: its body ended on a bench whose nodes are still there,
and so is the terminal that was made below it. -/
theorem compiled_body {rule : Rule} {terminal : NodeId} {now : Builder}
    (compiled : now.Compiled rule terminal) :
    ∃ start done mid tuple places children, start.builder.Complete ∧
      start.context = .new rule.name ∧ result (body rule.view) start = (.ok done, mid) ∧
      mid.builder.Within now ∧ Seated rule mid.context tuple places ∧
      now.network.node? terminal =
        some { terminalNode rule terminal tuple places with children := children } := by
  obtain ⟨start, after, begun, fresh, ended, within⟩ := compiled
  rw [rule_eq_body, result_bind] at ended
  cases halfway : result (body rule.view) start with
  | mk outcome mid =>
    rw [halfway] at ended
    cases outcome with
    | error failure => cases ended
    | ok done =>
      have ended : result (Build.terminal rule) mid = (.ok terminal, after) := ended
      have reached : mid.builder.Complete := by
        have kept := body_keeps (widened_steady start.builder).upheld rule.view start begun.widened
        unfold Ensures at kept
        rw [halfway] at kept
        exact kept.1
      have made := terminal_made reached rule
      have grown := terminal_keeps (within_stepwise mid.builder).upheld rule mid ⟨reached, .refl _⟩
      unfold Ensures at made grown
      rw [ended] at made grown
      obtain ⟨tuple, places, seated, absent, inserted⟩ := made
      obtain ⟨children, there⟩ := within.network.nodes terminal _
        (inserted ▸ Network.node?_insert_self _ _)
      have grown : mid.builder.Within after.builder := grown.2
      exact ⟨start, done, mid, tuple, places, children, begun, fresh, halfway, grown.trans within,
        seated, there⟩

/-- **A rule that was compiled is compiled again to one new node**, its terminal. -/
theorem rule_recompiled {rule again : Rule} (renamed : rule.Renamed names again)
    {terminal : NodeId} {bench : Workbench} (complete : bench.builder.Complete)
    (alpha : bench.builder.config.shareAlpha = true) (beta : bench.builder.config.shareBeta = true)
    (new : bench.context = .new again.name) (compiled : bench.builder.Compiled rule terminal) :
    Ensures (Build.rule again) bench
      (fun id after => ∃ last tuple places,
        bench.builder.network.node? terminal = some last ∧
        last.kind = (terminalNode rule terminal tuple places).kind ∧ last.tupleParent = some tuple ∧
        bench.builder.network.contains id = false ∧
        after.builder.network = bench.builder.network.insert (terminalNode again id tuple places))
      Spent := by
  obtain ⟨start, done, mid, tuple, places, children, begun, fresh, halfway, within, seated, there⟩ :=
    compiled_body compiled
  have beside : Beside names start bench :=
    ⟨complete, alpha, beta, by rw [fresh, new]; exact ⟨rfl, rfl, rfl, rfl⟩⟩
  have retraced := (body_retraces renamed.view).retraces start done mid halfway begun bench beside
    within
  rw [rule_eq_body, ensures_bind]
  refine retraced.mono (fun _ done finished => ?_) fun _ _ spent => spent
  obtain ⟨_, nearby, used⟩ := finished
  obtain ⟨ids, requests, count, tracer, same⟩ := used
  have network : done.builder.network = bench.builder.network := by rw [same]
  have seat := seated.renamed nearby.context renamed.bindings
  have known : done.builder.network.contains tuple = true := by
    rw [network]
    exact complete.contains_parent (Network.node?_mem there) (by simp [Node.parents, terminalNode])
  refine (terminal_made nearby.complete again).mono (fun id final ended => ?_)
    fun failure final ended => ended tuple places seat known
  obtain ⟨other, offsets, found, unused, inserted⟩ := ended
  obtain rfl := Option.some.inj (seat.tuple.symm.trans found.tuple)
  obtain rfl := Except.ok.inj (seat.places.symm.trans found.places)
  rw [network] at unused inserted
  exact ⟨_, tuple, places, there, rfl, rfl, unused, inserted⟩

end Build

namespace Builder

/-- **Adding a rule again** inserts one node, its terminal, unless the ids run out. -/
theorem addRule_recompiled {names : Renaming} {rule again : Rule}
    (renamed : rule.Renamed names again) {terminal : NodeId} {bench : Workbench}
    (settled : bench.builder.Settled) (complete : bench.builder.Complete)
    (alpha : bench.builder.config.shareAlpha = true) (beta : bench.builder.config.shareBeta = true)
    (compiled : bench.builder.Compiled rule terminal) :
    Ensures (addRule again) bench
      (fun handle after => ∃ last tuple places,
        bench.builder.network.node? terminal = some last ∧
        last.kind = (Build.terminalNode rule terminal tuple places).kind ∧
        last.tupleParent = some tuple ∧
        bench.builder.network.contains handle.terminal = false ∧
        after.builder.network.nodes = (bench.builder.network.insert
          (Build.terminalNode again handle.terminal tuple places)).nodes)
      Build.Spent := by
  refine ensures_addRule fun tracer log => ?_
  have opened := (complete.traced tracer).opened (Undoable.opened (settled.traced tracer)).tidy
  have nodes : (bench.builder.traced tracer).opened.network.nodes = bench.builder.network.nodes := by
    unfold Builder.opened
    split <;> rfl
  have recompiled := @Build.rule_recompiled names rule again renamed terminal
    ⟨(bench.builder.traced tracer).opened, .new again.name, log⟩ opened alpha beta rfl
    (compiled.mono ((within_traced _ tracer).trans (within_opened _)))
  refine recompiled.mono (fun id after ended => ?_) fun failure after spent => ?_
  · intro last _
    obtain ⟨node, tuple, places, found, kind, parent, unused, inserted⟩ := ended
    simp only [Network.contains, Network.node?, nodes] at found unused
    refine ⟨node, tuple, places, found, kind, parent, unused, ?_⟩
    show after.builder.network.nodes = _
    rw [inserted, Network.nodes_insert, Network.nodes_insert, nodes]
  · intro last _
    refine ⟨spent.1, ?_⟩
    show _ ≤ after.builder.abandoned.ids.nextIndex
    rw [abandoned_ids]
    exact spent.2

end Builder

/-! ### Histories -/

namespace KnowledgeBase

variable {config : BuildConfig} {attempts : List (Rule × Outcome RuleHandle)} {kb : KnowledgeBase}

/-- **Recompiling a rule costs one node.** Where all nodes are shared, a rule that was accepted is
accepted again over other variables, as long as the ids last. The new terminal stands below the node
that the first terminal reads, with the same places, and nothing else changes but the children of
that node. -/
theorem recompiled (grown : Grown config .standard attempts kb)
    (alpha : config.shareAlpha = true) (beta : config.shareBeta = true) {rule again : Rule}
    {handle : RuleHandle} (added : (rule, .ok handle) ∈ attempts) {names : Renaming}
    (renamed : rule.Renamed names again) (supplied : ¬ kb.Exhausts again) :
    ∃ made last tuple places, (kb.addRule again).outcome = .ok made ∧
      kb.network.node? handle.terminal = some last ∧
      last.kind = .terminal ⟨rule.name, rule.salience, rule.consequence, places⟩ ∧
      last.tupleParent = some tuple ∧
      kb.network.node? made.terminal = none ∧
      (kb.addRule again).after.network.node? made.terminal = some ⟨made.terminal,
        .terminal ⟨again.name, again.salience, again.consequence, places⟩, none, some tuple, []⟩ ∧
      (kb.addRule again).after.network.size = kb.network.size + 1 ∧
      ∀ id, id ≠ made.terminal →
        (kb.addRule again).after.network.node? id = (kb.network.node? id).map fun node =>
          { node with children := node.children ++ if id = tuple then [made.terminal] else [] } := by
  obtain ⟨settled, same, _⟩ := grown.settled NodeFactory.standard_orderly
  have complete := grown.complete
  have ends := @Builder.addRule_recompiled names rule again renamed handle.terminal
    ⟨kb.builder, .new again.name, []⟩ settled complete (by rw [same]; exact alpha)
    (by rw [same]; exact beta) (grown.compiled added)
  obtain ⟨outcome, builder⟩ := addRule_result kb again
  unfold Ensures at ends
  cases ended : result (Builder.addRule again) ⟨kb.builder, .new again.name, []⟩ with
  | mk answer after =>
    rw [ended] at ends outcome builder
    cases answer with
    | error failure =>
      refine absurd ⟨failure, outcome, ends.1, ?_⟩ supplied
      rw [builder]
      exact ends.2
    | ok made =>
      obtain ⟨last, tuple, places, found, kind, parent, unused, nodes⟩ := ends
      let terminal := Build.terminalNode again made.terminal tuple places
      have unused : kb.network.contains terminal.id = false := unused
      have tidy : kb.network.Tidy := complete.tidy.network
      have nodes : (kb.addRule again).after.network.nodes = (kb.network.insert terminal).nodes := by
        rw [KnowledgeBase.network, builder]
        exact nodes
      have queries : ∀ id, (kb.addRule again).after.network.node? id =
          (kb.network.insert terminal).node? id := fun id => by rw [Network.node?, nodes]; rfl
      refine ⟨made, last, tuple, places, outcome, found, kind, parent,
        Option.not_isSome_iff_eq_none.mp (ne_true_of_eq_false unused), ?_, ?_, fun id other => ?_⟩
      · rw [queries]
        exact Network.node?_insert_self _ terminal
      · rw [Network.size, nodes]
        exact Network.size_insert _ _
      · have parents : id ∈ terminal.parents ↔ id = tuple := List.mem_singleton
        rw [queries, Network.node?_insert unused tidy other.symm]
        simp only [parents]
        rfl

/-- Two persons that differ, over other variables and with another salience. -/
def otherTwoPersons : Rule where
  name := "two other persons"
  salience := 5
  view := .and [.pattern (.of ⟨10, "p", .fact "Person"⟩ .plain),
    .pattern ((Pattern.of ⟨11, "q", .fact "Person"⟩ .plain).joining "differ"
      ⟨10, "p", .fact "Person"⟩ fun args => .ok (args[1]? != args[0]?))]
  consequence := ⟨[⟨11, "q", .fact "Person"⟩], fun _ => .ok ()⟩

/-- The same variables under larger numbers. -/
def tenLater : Renaming where
  rename v := ⟨v.id + 10, v.name, v.type⟩
  same a b := by simp [Variable.same]
  type _ := rfl

theorem otherTwoPersons_renamed : twoPersons.Renamed tenLater otherTwoPersons where
  view := ⟨⟨rfl, rfl, .nil, .plain⟩, ⟨rfl, rfl, .cons ⟨rfl, rfl⟩ .nil, .plain⟩, trivial⟩
  bindings := rfl

/-- The second rule costs one node. -/
theorem otherTwoPersons_recompiled :
    let kb := (((KnowledgeBase.new default .standard).addRule everyPerson).after.addRule
      twoPersons).after
    ∃ made, (kb.addRule otherTwoPersons).outcome = .ok made ∧
      (kb.addRule otherTwoPersons).after.network.size = kb.network.size + 1 := by
  intro kb
  have grown : Grown default .standard _ kb := (Grown.new.addRule everyPerson).addRule twoPersons
  have succeeds : (((KnowledgeBase.new default .standard).addRule everyPerson).after.addRule
      twoPersons).outcome.isOk = true := by decide +kernel
  have again : (kb.addRule otherTwoPersons).outcome.isOk = true := by decide +kernel
  have supplied : ¬ kb.Exhausts otherTwoPersons := by
    rintro ⟨failure, fails, _⟩
    rw [fails] at again
    cases again
  cases ended : (((KnowledgeBase.new default .standard).addRule everyPerson).after.addRule
      twoPersons).outcome with
  | error failure =>
    rw [ended] at succeeds
    cases succeeds
  | ok handle =>
    rw [ended] at grown
    obtain ⟨made, _, _, _, accepted, _, _, _, _, _, larger, _⟩ := recompiled grown rfl rfl
      (List.mem_append_right _ (List.mem_singleton.mpr rfl)) otherTwoPersons_renamed supplied
    exact ⟨made, accepted, larger⟩

end KnowledgeBase

end RuleNet
