/-
**The compiler does what its outline says.**

However nodes are shared, compiling a rule succeeds exactly if its outline does, and fails with the
failure of the outline. What it leaves has the outline that the outline leaves.

* `Between`, `Matched`: the cursors between patterns, and after a pattern;
* `ensureAdapter_outlined`, `extend_outlined`: the nodes that give tuples;
* `use_outlined`: the uses of a pattern, for which the checks of the compiler on its own cursors
  never fail;
* `condition_outlined`, `rule_outlined`: **views and rules**;
* `addRule_ledger`: **the answer to a rule is that of the ledger**;
* `Grown.ledger`: **so are the answers of a whole history**.
-/

import RuleNet.Proofs.Build.Meaning
import RuleNet.Proofs.Build.Outlined

namespace RuleNet

open Stateful

namespace BuildContext

/-! ### Places -/

theorem bindResults_erased (context : BuildContext) (bindings : List Binding) :
    (context.bindResults bindings).erased = context.erased.bindResults bindings := by
  induction bindings generalizing context with
  | nil => rfl
  | cons binding rest hypothesis => exact hypothesis (context.bind binding.result)

end BuildContext

namespace Build

open Builder

variable {bench : Workbench}

/-! ### Tuples -/

/-- **The cursors between patterns.** No object is at hand, and the tuples are those of a node that
is there. -/
structure Between (bench : Workbench) : Prop where
  linked : bench.builder.Linked
  idle : bench.context.objectCursor = none
  tuple : ∀ id, bench.context.tupleCursor = some id → bench.builder.network.contains id = true

/-- **The cursors after a pattern.** There are tuples. -/
structure Matched (bench : Workbench) : Prop extends Between bench where
  begun : bench.context.tupleCursor.isSome = true

/-- Only the cursors matter. -/
theorem Between.congr {context : BuildContext} (between : Between bench)
    (object : context.objectCursor = bench.context.objectCursor)
    (tuple : context.tupleCursor = bench.context.tupleCursor) :
    Between { bench with context := context } :=
  ⟨between.linked, object.trans between.idle, fun id cursor =>
    between.tuple id (tuple.symm.trans cursor)⟩

theorem Matched.congr {context : BuildContext} (matched : Matched bench)
    (object : context.objectCursor = bench.context.objectCursor)
    (tuple : context.tupleCursor = bench.context.tupleCursor) :
    Matched { bench with context := context } :=
  ⟨matched.toBetween.congr object tuple, by rw [← matched.begun]; exact congrArg _ tuple⟩

/-- A change of places that both have. -/
theorem places_outlined {change : BuildContext → BuildContext} (matched : Matched bench)
    (erased : ∀ context, (change context).erased = change context.erased)
    (object : ∀ context, (change context).objectCursor = context.objectCursor)
    (tuple : ∀ context, (change context).tupleCursor = context.tupleCursor) :
    Outlined (modifyContext change) (Outline.modifyContext change) bench fun _ _ after =>
      Matched after := by
  refine (modifyContext_outlined change erased tuple).mono fun _ _ after same => ?_
  rw [same]
  exact matched.congr (object _) (tuple _)

/-- The tuple cursor moves onto a node that was just made. -/
theorem absorb_outlined (id : NodeId) (linked : bench.builder.Linked)
    (there : bench.builder.network.contains id = true) :
    Outlined (modifyContext fun context => context.absorb id)
      (modify fun outline => { outline with begun := true }) bench fun _ _ after =>
        Matched after := by
  refine ⟨(), rfl, ⟨linked, rfl, fun other cursor => ?_⟩, rfl⟩
  cases cursor
  exact there

/-- **A node that extends the tuples.** -/
theorem extend_outlined (linked : bench.builder.Linked) {kind : NodeKind} {tuple : NodeId}
    {object : Option NodeId} (narrows : kind.narrows? = none) (last : kind.isTerminal = false)
    (parents : ∀ parent ∈ (some tuple).toList ++ object.toList,
      bench.builder.network.contains parent = true) :
    Outlined (extend kind tuple object) Outline.extend bench fun _ _ after => Matched after := by
  unfold extend Outline.extend
  refine grow_outlined BuildConfig.shareBeta linked parents narrows last
    fun id after reached there => ?_
  obtain ⟨node, found, _⟩ := there
  exact absorb_outlined id reached.linked (Network.contains_of_node? found)

/-- **An adapter below the object cursor.** An object type is found above it. -/
theorem ensureAdapter_outlined (linked : bench.builder.Linked) {object : NodeId}
    (fresh : bench.context.tupleCursor = none) (cursor : bench.context.objectCursor = some object)
    (rooted : bench.builder.network.Rooted object) :
    Outlined ensureAdapter Outline.extend bench fun _ _ after => Matched after := by
  obtain ⟨root, above⟩ := Network.objectTypeRoot_of_rooted linked.stacked rooted
  unfold ensureAdapter Outline.extend
  refine Outlined.silent (ensures_context.mpr ⟨rfl, ?_⟩)
  rw [fresh, BuildContext.requireObjectCursor_some cursor]
  refine Outlined.silent ((ensures_ofOutcome_ok _).mpr ⟨rfl, ?_⟩)
  refine Outlined.silent (ensures_builder.mpr ⟨rfl, ?_⟩)
  simp only [above]
  refine Outlined.aside rfl rfl (grow_outlined BuildConfig.shareBeta linked (fun parent named => ?_)
    rfl rfl fun id after reached there => ?_)
  · rw [List.mem_singleton.mp named]
    exact rooted.contains
  · obtain ⟨node, found, _⟩ := there
    refine Outlined.silent (ensures_report fun tracer log => ⟨rfl, ?_⟩)
    refine Outlined.quietly (absorb_outlined id ?_ ?_) fun _ _ last matched => ?_
    · exact reached.linked.traced tracer
    · exact Network.contains_of_node? found
    · exact ⟨rfl, matched⟩

/-- **The initial fact starts the match.** -/
theorem initialFact_outlined (linked : bench.builder.Linked)
    (fresh : bench.context.tupleCursor = none) :
    Outlined initialFact Outline.initialFact bench fun _ _ after => Matched after := by
  unfold initialFact Outline.initialFact
  refine (entryPointRoot_outlined linked defaultEntryPoint).bind fun root _ mid found => ?_
  obtain ⟨reached, registered⟩ := found
  refine Outlined.aside rfl rfl ((objectTypeNode_outlined (.entryPoint defaultEntryPoint)
    (by exact reached.linked) (by exact registered) .initialFact).bind fun id _ after found => ?_)
  obtain ⟨narrowed, rooted⟩ := found
  refine Outlined.aside rfl rfl (Outlined.silent (ensures_report fun tracer log => ⟨rfl, ?_⟩))
  have unset : after.context.tupleCursor = none := by
    rw [narrowed.context, ← fresh, ← reached.context]
  refine (ensureAdapter_outlined (narrowed.linked.traced tracer) (by exact unset) rfl
    (by exact rooted)).bind fun _ _ last matched => ?_
  exact places_outlined matched (fun _ => rfl) (fun _ => rfl) fun _ => rfl

/-- **The match is started where a pattern needs it.** -/
theorem start_outlined (between : Between bench) (needed : Bool) :
    Outlined (start needed) (Outline.start needed) bench fun _ _ after =>
      Between after ∧ (needed = true → Matched after) := by
  unfold start Outline.start
  refine Outlined.silent (ensures_context.mpr ⟨rfl, Outlined.look ?_⟩)
  show Outlined (if (needed && bench.context.tupleCursor.isNone) = true then _ else _)
    (if (needed && !bench.context.tupleCursor.isSome) = true then _ else _) _ _
  rw [Option.not_isSome]
  by_cases first : (needed && bench.context.tupleCursor.isNone) = true
  · rw [if_pos first, if_pos first]
    rw [Bool.and_eq_true, Option.isNone_iff_eq_none] at first
    exact (initialFact_outlined between.linked first.2).mono fun _ _ _ matched =>
      ⟨matched.toBetween, fun _ => matched⟩
  · rw [if_neg first, if_neg first]
    refine Outlined.pure _ _ ⟨between, fun need => ⟨between, ?_⟩⟩
    simpa [need, Option.isSome_iff_ne_none] using first

/-! ### Uses -/

/-- Results take their places before the node is made. -/
theorem placeAggregates_outlined (bindings : List Binding) :
    Outlined (bindings.mapM placeAggregate)
      (Outline.modifyContext fun context => context.bindResults bindings) bench
      fun _ _ after => after = { bench with context := bench.context.bindResults bindings } := by
  refine (ensures_placeAggregates bindings).mpr ⟨(), ?_, rfl⟩
  simp only [Outline.modifyContext, result_modify, Workbench.outline,
    BuildContext.bindResults_erased, BuildContext.cursors_bindResults]

/-- **A pattern with its objects at hand**, in a match that was started. -/
structure AtCursors (bench : Workbench) (tuple object : NodeId) : Prop where
  linked : bench.builder.Linked
  tupleCursor : bench.context.tupleCursor = some tuple
  objectCursor : bench.context.objectCursor = some object
  parents : ∀ parent ∈ (some tuple).toList ++ (some object).toList,
    bench.builder.network.contains parent = true

theorem Read.atCursors {after : Workbench} {tuple : NodeId} (between : Between bench)
    (read : Read bench after) (cursor : after.context.tupleCursor = some tuple) :
    ∃ object, AtCursors after tuple object := by
  obtain ⟨object, objects, rooted⟩ := read.object
  refine ⟨object, read.linked, cursor, objects, fun parent named => ?_⟩
  have known := read.network.contains (between.tuple tuple (read.tuple.symm.trans cursor))
  have named : parent ∈ [tuple, object] := named
  rw [List.mem_pair] at named
  rcases named with rfl | rfl
  · exact known
  · exact rooted.contains

theorem Read.matched {after : Workbench} (matched : Matched bench) (read : Read bench after) :
    ∃ tuple object, AtCursors after tuple object := by
  obtain ⟨tuple, cursor⟩ := Option.isSome_iff_exists.mp (read.tuple ▸ matched.begun)
  exact ⟨tuple, read.atCursors matched.toBetween cursor⟩

theorem plain_outlined {after : Workbench} (between : Between bench) (read : Read bench after)
    (subject : Variable) (constraints : List BoundConstraint) :
    Outlined (plain subject constraints)
      (do Outline.extend; Outline.modifyContext fun context => context.bind subject) after
      fun _ _ last => Matched last := by
  unfold plain
  refine Outlined.silent (ensures_context.mpr ⟨rfl, ?_⟩)
  cases cursor : after.context.tupleCursor with
  | none =>
    obtain ⟨object, objects, rooted⟩ := read.object
    refine (ensureAdapter_outlined read.linked cursor objects rooted).bind
      fun _ _ last matched => ?_
    exact places_outlined matched (fun _ => rfl) (fun _ => rfl) fun _ => rfl
  | some tuple =>
    obtain ⟨object, hand⟩ := read.atCursors between cursor
    simp only [BuildContext.requireObjectCursor_some hand.objectCursor]
    refine Outlined.silent ((ensures_ofOutcome_ok _).mpr ⟨rfl, ?_⟩)
    refine (extend_outlined hand.linked rfl rfl hand.parents).bind fun _ _ last matched => ?_
    exact places_outlined matched (fun _ => rfl) (fun _ => rfl) fun _ => rfl

theorem existential_outlined {tuple object : NodeId} (hand : AtCursors bench tuple object)
    (quantifier : Quantifier) (constraints : List BoundConstraint) :
    Outlined (existential quantifier constraints)
      (do Outline.extend; Outline.modifyContext BuildContext.reserve) bench
      fun _ _ last => Matched last := by
  unfold existential
  refine Outlined.silent (ensures_context.mpr ⟨rfl, ?_⟩)
  rw [BuildContext.requireTupleCursor_some hand.tupleCursor,
    BuildContext.requireObjectCursor_some hand.objectCursor]
  refine Outlined.silent ((ensures_ofOutcome_ok _).mpr ⟨rfl, ?_⟩)
  refine Outlined.silent ((ensures_ofOutcome_ok _).mpr ⟨rfl, ?_⟩)
  refine (extend_outlined hand.linked rfl rfl hand.parents).bind fun _ _ last matched => ?_
  exact places_outlined matched (fun _ => rfl) (fun _ => rfl) fun _ => rfl

theorem accumulate_outlined {tuple object : NodeId} (hand : AtCursors bench tuple object)
    (bindings : List Binding) (constraints : List BoundConstraint) :
    Outlined (accumulate bindings constraints)
      (do
        Outline.modifyContext fun context => context.bindResults bindings
        Outline.extend) bench
      fun _ _ last => Matched last := by
  unfold accumulate
  refine Outlined.silent (ensures_context.mpr ⟨rfl, ?_⟩)
  rw [BuildContext.requireTupleCursor_some hand.tupleCursor,
    BuildContext.requireObjectCursor_some hand.objectCursor]
  refine Outlined.silent ((ensures_ofOutcome_ok _).mpr ⟨rfl, ?_⟩)
  refine Outlined.silent ((ensures_ofOutcome_ok _).mpr ⟨rfl, ?_⟩)
  refine (placeAggregates_outlined bindings).bind fun functions _ mid same => ?_
  rw [same]
  exact extend_outlined (by exact hand.linked) rfl rfl (by exact hand.parents)

theorem invoke_outlined (matched : Matched bench) (pattern : Pattern) (invocation : Invocation) :
    Outlined (invoke pattern invocation)
      (do
        let known ← Outline.scope
        let _ ← Outline.ofOutcome
          (invocation.params.mapM fun param => known.requireOffset param invocation.key)
        let _ ← Outline.ofOutcome (SingleConstraint.bindAll
          (pattern.constraint.singles.filter fun single => !single.isConstant) pattern.subject
          known)
        Outline.extend
        Outline.modifyContext fun context => context.bind pattern.subject) bench
      fun _ _ last => Matched last := by
  obtain ⟨tuple, cursor⟩ := Option.isSome_iff_exists.mp matched.begun
  unfold invoke
  refine Outlined.scope ?_
  rw [BuildContext.requireTupleCursor_some cursor]
  refine Outlined.silent ((ensures_ofOutcome_ok _).mpr ⟨rfl, ?_⟩)
  have same : bench.context.erased.offset? = bench.context.offset? := rfl
  rw [BuildContext.requireOffset_congr same, SingleConstraint.bindAll_congr same]
  refine Outlined.ofOutcome fun args _ => ?_
  refine Outlined.silent ((forM_written _ skip_written).mono (fun _ after written => ?_)
    fun _ _ never => never)
  obtain ⟨tracer, log, rfl⟩ := written
  refine ⟨rfl, Outlined.ofOutcome fun constraints _ => ?_⟩
  refine (extend_outlined (matched.linked.traced tracer) rfl rfl fun parent named => ?_).bind
    fun _ _ last matched => ?_
  · rw [List.mem_singleton.mp named]
    exact matched.tuple tuple cursor
  · exact places_outlined matched (fun _ => rfl) (fun _ => rfl) fun _ => rfl

/-- **The uses of a pattern.** The cursors are set where a use requires them. -/
theorem use_outlined {pattern : Pattern} (between : Between bench)
    (begun : pattern.needsTuple = true → Matched bench) :
    Outlined (use pattern) (Outline.use pattern) bench fun _ _ after => Matched after := by
  unfold Pattern.needsTuple at begun
  unfold use Outline.use
  cases how : pattern.use with
  | plain =>
    exact (objects_outlined between.linked pattern).bind fun constraints _ mid read =>
      plain_outlined between read pattern.subject constraints
  | existential quantifier =>
    rw [how] at begun
    refine (objects_outlined between.linked pattern).bind fun constraints _ mid read => ?_
    obtain ⟨tuple, object, hand⟩ := read.matched (begun rfl)
    exact existential_outlined hand quantifier constraints
  | accumulate bindings =>
    rw [how] at begun
    refine (objects_outlined between.linked pattern).bind fun constraints _ mid read => ?_
    obtain ⟨tuple, object, hand⟩ := read.matched (begun rfl)
    exact accumulate_outlined hand bindings constraints
  | invoke invocation =>
    rw [how] at begun
    exact invoke_outlined (begun rfl) pattern invocation

/-! ### Views -/

/-- After a pattern its cursors are never at fault. -/
theorem check_passes (matched : Matched bench) :
    Ensures check bench (fun _ after => after = bench) fun _ _ => False := by
  obtain ⟨tuple, cursor⟩ := Option.isSome_iff_exists.mp matched.begun
  unfold check
  rw [ensures_bind, ensures_context, BuildContext.checkComplete, matched.idle, cursor,
    ensures_ofOutcome_ok]

/-- **A pattern.** -/
theorem pattern_outlined (between : Between bench) (leaf : Pattern) :
    Outlined (pattern leaf) (do Outline.start leaf.needsTuple; Outline.use leaf) bench
      fun _ _ after => Matched after := by
  rw [pattern_eq]
  refine (start_outlined between leaf.needsTuple).bind fun _ _ mid started => ?_
  refine Outlined.quietly (use_outlined started.1 started.2) fun _ _ after matched => ?_
  refine (check_passes matched).mono (fun _ last same => ?_) fun _ _ never => never
  rw [same]
  exact ⟨rfl, matched⟩

/-- A frame around a step is a frame around its outline. -/
theorem framed_outlined {frame : String} {step : Build Unit} {outline : Stateful Outline Unit}
    {good : Workbench → Prop}
    (inside : Outlined step outline { bench with context := bench.context.pushFrame frame }
      fun _ _ after => good after)
    (kept : ∀ after, good after → good { after with context := after.context.popFrame }) :
    Outlined (framed frame step) (Outline.framed frame outline) bench fun _ _ after =>
      good after := by
  unfold framed Outline.framed
  refine (modifyContext_outlined (fun context => context.pushFrame frame) (fun _ => rfl)
    fun _ => rfl).bind fun _ _ mid same => ?_
  subst same
  refine inside.bind fun _ _ after held => ?_
  refine (modifyContext_outlined BuildContext.popFrame (fun _ => rfl) fun _ => rfl).mono
    fun _ _ last same => ?_
  rw [same]
  exact kept after held

mutual

/-- **A view**, from left to right. -/
theorem condition_outlined (view : Condition) (bench : Workbench) (between : Between bench) :
    Outlined (condition view) (Outline.condition view) bench fun _ _ after => Between after := by
  cases view with
  | pattern leaf =>
    refine (modifyContext_outlined BuildContext.nextPattern (fun _ => rfl) fun _ => rfl).bind
      fun _ _ mid same => Outlined.scope ?_
    subst same
    exact framed_outlined ((pattern_outlined (by exact between.congr rfl rfl) leaf).mono
      fun _ _ _ matched => matched.toBetween) fun after between => between.congr rfl rfl
  | and parts =>
    exact framed_outlined (conditions_outlined parts _ (between.congr rfl rfl))
      fun after between => between.congr rfl rfl
  | or parts =>
    exact framed_outlined (Outlined.throw _) fun after between => between.congr rfl rfl
  | objectPath path =>
    exact framed_outlined (Outlined.throw _) fun after between => between.congr rfl rfl
termination_by structural view

theorem conditions_outlined (parts : List Condition) (bench : Workbench)
    (between : Between bench) :
    Outlined (conditions parts) (Outline.conditions parts) bench fun _ _ after =>
      Between after := by
  cases parts with
  | nil => exact Outlined.pure _ _ between
  | cons part rest =>
    simp only [conditions, Outline.conditions]
    exact (condition_outlined part bench between).bind fun _ _ after between =>
      conditions_outlined rest after between
termination_by structural parts

end

/-! ### Rules -/

theorem grownLedger_terminal (builder : Builder) (ids : IdSupply) (own : NodeId)
    (payload : Terminal) (object tuple : Option NodeId) :
    builder.grownLedger ids ⟨own, .terminal payload, object, tuple, []⟩ =
      { builder.ledger with ids := ids, terminals := builder.ledger.terminals ++ [own] } := by
  simp [grownLedger, NodeKind.narrows?, NodeKind.isTerminal]

/-- **The terminal of a rule** is its own. -/
theorem terminal_outlined (matched : Matched bench) (rule : Rule) :
    Outlined (terminal rule) (Outline.terminal rule) bench fun id answer _ => answer = id := by
  unfold terminal Outline.terminal
  refine (modifyContext_outlined (fun context => context.pushFrame "consequence") (fun _ => rfl)
    fun _ => rfl).bind fun _ _ mid same => Outlined.scope ?_
  have matched : Matched mid := same ▸ matched.congr rfl rfl
  obtain ⟨tuple, cursor⟩ := Option.isSome_iff_exists.mp matched.begun
  rw [BuildContext.requireTupleCursor_some cursor]
  refine Outlined.silent ((ensures_ofOutcome_ok _).mpr ⟨rfl, ?_⟩)
  rw [BuildContext.requireOffset_congr (show mid.context.erased.offset? = mid.context.offset?
    from rfl)]
  refine Outlined.ofOutcome fun bindings _ => ?_
  unfold Outlined
  simp only [ensures_bind, ensures_modifyContext, ensures_pure, result_bind]
  refine grow_grows (fun _ => false) matched.linked (fun parent named => ?_)
    (fun some => absurd rfl some) (fun failure exhausted => ?_)
    fun own id ids builder log handed grew there => ?_
  · rw [List.mem_singleton.mp named]
    exact matched.tuple tuple cursor
  · simp only [result_spend_error exhausted]
  · obtain ⟨rfl, _⟩ := there rfl
    have ledger := grew.ledger
    rw [grownLedger_terminal] at ledger
    refine ⟨id, ?_, rfl⟩
    simp only [result_spend_ok handed, Outline.modifyLedger, Outline.modifyContext, result_modify,
      result_pure]
    exact congrArg (fun ledger => (Except.ok id, (⟨ledger, _, _⟩ : Outline))) ledger.symm

/-- **A rule.** -/
theorem rule_outlined (linked : bench.builder.Linked) {whole : Rule}
    (new : bench.context = .new whole.name) :
    Outlined (rule whole) (Outline.rule whole) bench fun id answer _ => answer = id := by
  have between : Between bench := ⟨linked, by rw [new]; rfl, fun id cursor => by
    rw [new] at cursor
    cases cursor⟩
  rw [rule_eq]
  unfold Outline.rule
  refine (condition_outlined whole.view bench between).bind fun _ _ mid between => ?_
  refine (start_outlined between true).bind fun _ _ after started => ?_
  have matched := started.2 rfl
  refine Outlined.silent ((check_passes matched).mono (fun _ last same => ?_) fun _ _ never => never)
  rw [same]
  exact ⟨rfl, terminal_outlined matched whole⟩

end Build

/-! ### Histories -/

namespace Builder

theorem ledger_new (config : BuildConfig) : (Builder.new config .standard).ledger = .empty := by
  refine Ledger.ext rfl rfl rfl rfl ?_ rfl
  funext source type
  cases source <;> rfl

theorem ledger_opened (builder : Builder) (tracer : Tracer) :
    (builder.traced tracer).opened.ledger =
      { builder.ledger with compiled := builder.ledger.compiled + 1 } := by
  unfold opened
  split <;> rfl

/-- A transaction that was just opened leaves the links as they are. -/
theorem Linked.opened {builder : Builder} (linked : builder.Linked) (tidy : builder.opened.Tidy) :
    builder.opened.Linked := by
  refine ⟨linked.standard, tidy, ?_, ?_⟩
  all_goals
    unfold Builder.opened
    split
  · exact linked.stacked
  · exact linked.stacked
  · exact linked.roots
  · exact linked.roots

/-- **What a rule that failed leaves in the ledger.** -/
theorem abandoned_ledger {builder now : Builder} (settled : builder.Settled)
    (undoable : Undoable builder.opened now) :
    now.abandoned.ledger =
      if builder.config.rollback then
        { builder.ledger with ids := now.ids, compiled := now.compiled }
      else now.ledger := by
  have config : now.config.rollback = builder.config.rollback := by
    rw [undoable.config]
    rfl
  have pending := settled.opened_pending
  unfold abandoned
  rw [config]
  by_cases rollback : builder.config.rollback = true
  · rw [if_pos rollback, if_pos rollback, undoable.rolledBack_eq (pending.trans rollback),
      undoable.compiled]
    simp only [opened, rollback, if_true]
    rfl
  · rw [if_neg rollback, if_neg rollback]

/-- **The answer to a rule is that of the ledger**, and so is what the rule leaves. -/
theorem addRule_ledger {bench : Workbench} (settled : bench.builder.Settled)
    (linked : bench.builder.Linked) (rule : Rule) :
    Ensures (addRule rule) bench
      (fun handle after => bench.builder.ledger.addRule bench.builder.config.rollback rule =
        (.ok handle, after.builder.ledger))
      fun failure after => bench.builder.ledger.addRule bench.builder.config.rollback rule =
        (.error failure, after.builder.ledger) := by
  refine ensures_addRule fun tracer log => ?_
  have ready := settled.traced tracer
  have opened := Undoable.opened ready
  have kept := rule_undoable settled (linked.standard ▸ NodeFactory.standard_orderly) rule tracer log
  have begun := (linked.traced tracer).opened opened.tidy
  have compiled := @Build.rule_outlined
    ⟨(bench.builder.traced tracer).opened, .new rule.name, log⟩ begun rule rfl
  have start : Workbench.outline ⟨(bench.builder.traced tracer).opened, .new rule.name, log⟩ =
      bench.builder.ledger.opened rule := by
    simp only [Workbench.outline, ledger_opened]
    rfl
  refine (kept.both compiled).mono (fun terminal after ended => ?_) fun failure after ended => ?_
  · obtain ⟨_, answer, same, rfl⟩ := ended
    intro last lines
    rw [start] at same
    rw [Ledger.addRule, same]
    rfl
  · obtain ⟨undo, same⟩ := ended
    intro last lines
    rw [start] at same
    rw [Ledger.addRule, same]
    exact Prod.ext rfl (abandoned_ledger ready undo).symm

end Builder

namespace Ledger

theorem addRules_append (rollback : Bool) (ledger : Ledger) (rules more : List Rule) :
    ledger.addRules rollback (rules ++ more) =
      ((ledger.addRules rollback rules).1 ++
          ((ledger.addRules rollback rules).2.addRules rollback more).1,
        ((ledger.addRules rollback rules).2.addRules rollback more).2) := by
  induction rules generalizing ledger with
  | nil => rfl
  | cons rule rest hypothesis => simp only [List.cons_append, addRules, hypothesis]

end Ledger

namespace KnowledgeBase

variable {config : BuildConfig} {attempts : List (Rule × Outcome RuleHandle)} {kb : KnowledgeBase}

/-- **The answer to the next rule** is that of the ledger. -/
theorem Grown.addRule_ledger (grown : Grown config .standard attempts kb) (rule : Rule) :
    kb.builder.ledger.addRule config.rollback rule =
      ((kb.addRule rule).outcome, (kb.addRule rule).after.builder.ledger) := by
  obtain ⟨settled, same, _⟩ := grown.settled NodeFactory.standard_orderly
  have linked := (grown.realizes fun _ attempted => attempted).1.linked
  obtain ⟨outcome, builder⟩ := addRule_result kb rule
  have ends := @Builder.addRule_ledger ⟨kb.builder, .new rule.name, []⟩ settled linked rule
  rw [outcome, builder, ← same]
  unfold Ensures at ends
  cases ended : result (Builder.addRule rule) ⟨kb.builder, .new rule.name, []⟩ with
  | mk answer after =>
    rw [ended] at ends
    cases answer <;> exact ends

/-- **The answers of a history are those of the ledgers.** What a knowledge base answered to the
rules it was asked to add depends on the rules and on whether failures are rolled back, and on
nothing else. -/
theorem Grown.ledger (grown : Grown config .standard attempts kb) :
    Ledger.empty.addRules config.rollback (attempts.map Prod.fst) =
      (attempts, kb.builder.ledger) := by
  induction grown with
  | new => exact Prod.ext rfl (Builder.ledger_new config).symm
  | addRule grown rule hypothesis =>
    rw [List.map_append, Ledger.addRules_append, hypothesis]
    simp only [List.map_cons, List.map_nil, Ledger.addRules, grown.addRule_ledger rule]
  | trace _ _ hypothesis => exact hypothesis

end KnowledgeBase

end RuleNet
