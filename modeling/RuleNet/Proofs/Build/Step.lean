/-
**The ends of the builder's basic steps.**

A step of the builder is a `Stateful` step over a workbench, so a statement about it is an
`Ensures`. Here are the steps that all others are made of.

* looking at the bench, writing to the log and to the tracer, changing the context: each has one
  end, and `simp` computes it;
* `ensures_request`, `ensures_place`: asking the factory for a node and attaching it, with all
  their ends;
* `pattern_eq`, `rule_eq`: a pattern and a rule as the sequences of their parts;
* `addRule_tells`, `ensures_addRule`: adding a rule, from compiling it;
* `Workbench.written`: what the tracer and the log do to the bench. No statement about networks
  looks at either.
-/

import RuleNet.Build.Compile
import RuleNet.Proofs.Network.Transaction
import RuleNet.Proofs.Stateful
import RuleNet.Proofs.Trace.Recorded

namespace RuleNet

open Stateful

/-- The builder with another tracer. -/
def Builder.traced (builder : Builder) (tracer : Tracer) : Builder :=
  { builder with tracer := tracer }

/-- The builder after an event was reported. -/
def Builder.told (builder : Builder) (event : BuildEvent) : Builder :=
  builder.traced (builder.tracer.record event).1

/-- The bench after something was written to the tracer and the log. -/
def Workbench.written (bench : Workbench) (tracer : Tracer) (log : List LogLine) : Workbench :=
  { bench with builder := bench.builder.traced tracer, log := log }

/-- The builder after an id was handed out and a node was asked for. -/
def Builder.asked (builder : Builder) (ids : IdSupply) (wanted : NodeRequest) : Builder :=
  { builder with ids := ids, requests := wanted :: builder.requests }

namespace Build

variable {α : Type} {bench : Workbench} {bad : Failure → Workbench → Prop}

/-! ### Steps with one end -/

section

variable {good : Unit → Workbench → Prop}

@[simp] theorem ensures_context {good : BuildContext → Workbench → Prop} :
    Ensures context bench good bad ↔ good bench.context bench := Iff.rfl

@[simp] theorem ensures_builder {good : Builder → Workbench → Prop} :
    Ensures builder bench good bad ↔ good bench.builder bench := Iff.rfl

@[simp] theorem ensures_modifyContext (change : BuildContext → BuildContext) :
    Ensures (modifyContext change) bench good bad ↔
      good () { bench with context := change bench.context } := Iff.rfl

@[simp] theorem ensures_modifyBuilder (change : Builder → Builder) :
    Ensures (modifyBuilder change) bench good bad ↔
      good () { bench with builder := change bench.builder } := Iff.rfl

/-- Whatever the tracer and the log say afterwards. -/
theorem ensures_log {level : LogLevel} {text : String}
    (always : ∀ tracer log, good () (bench.written tracer log)) :
    Ensures (log level text) bench good bad :=
  always bench.builder.tracer (bench.log ++ [(⟨level, text⟩ : LogLine)])

theorem ensures_trace {step : Tracer → Tracer × List LogLine}
    (always : ∀ tracer log, good () (bench.written tracer log)) :
    Ensures (trace step) bench good bad :=
  always (step bench.builder.tracer).1 (bench.log ++ (step bench.builder.tracer).2)

/-- A report, with what it leaves. -/
theorem report_ends (event : BuildEvent) :
    Ensures (report event) bench good bad ↔
      good () (bench.written (bench.builder.tracer.record event).1
        (bench.log ++ (bench.builder.tracer.record event).2)) := Iff.rfl

theorem ensures_report {event : BuildEvent}
    (always : ∀ tracer log, good () (bench.written tracer log)) :
    Ensures (report event) bench good bad :=
  ensures_trace always

end

/-- A computed outcome is returned or thrown, and the bench stays as it is. -/
theorem ensures_ofOutcome {good : α → Workbench → Prop} {outcome : Outcome α}
    (onOk : ∀ value, outcome = .ok value → good value bench)
    (onError : ∀ failure, outcome = .error failure → bad failure bench) :
    Ensures (ofOutcome outcome) bench good bad := by
  cases outcome with
  | ok value => exact onOk value rfl
  | error failure => exact onError failure rfl

@[simp] theorem ensures_ofOutcome_ok {good : α → Workbench → Prop} (value : α) :
    Ensures (ofOutcome (.ok value)) bench good bad ↔ good value bench := Iff.rfl

/-! ### Nodes -/

/-- **The ends of asking for a node.** The ids run out, or the factory answers. -/
theorem ensures_request {good : Node → Workbench → Prop} {kind : NodeKind}
    {tuple object : Option NodeId}
    (exhausted : ∀ failure, bench.builder.ids.next = .error failure → bad failure bench)
    (answered : ∀ id ids, bench.builder.ids.next = .ok (id, ids) →
      (∀ node, bench.builder.factory.make bench.builder.requests ⟨id, kind, object, tuple⟩ =
          .ok node →
        good node { bench with builder := bench.builder.asked ids ⟨id, kind, object, tuple⟩ }) ∧
      ∀ failure, bench.builder.factory.make bench.builder.requests ⟨id, kind, object, tuple⟩ =
          .error failure →
        bad failure { bench with builder := bench.builder.asked ids ⟨id, kind, object, tuple⟩ }) :
    Ensures (request kind tuple object) bench good bad := by
  unfold request
  simp only [ensures_bind, ensures_builder]
  refine ensures_ofOutcome (fun supplied handed => ?_) exhausted
  obtain ⟨id, ids⟩ := supplied
  have made := answered id ids handed
  simp only [ensures_modifyBuilder]
  exact ensures_ofOutcome made.1 made.2

/-- **The ends of attaching a node.** The arena refuses it, or says where it ended, which is
reported. -/
theorem place_tells {good : NodeId → Workbench → Prop} {node : Node} {share : Bool}
    (refused : ∀ failure, bench.builder.network.attach node share = .error failure →
      bad failure bench)
    (attached : ∀ ended network, bench.builder.network.attach node share = .ok (ended, network) →
      ∀ log, good ended.id ⟨({ bench.builder with network := network } : Builder).told
        (.ofNode ended.id node.kind.sort.text ended.shared), bench.context, log⟩) :
    Ensures (place node share) bench good bad := by
  unfold place
  simp only [ensures_bind, ensures_builder]
  refine ensures_ofOutcome (fun answer found => ?_) refused
  obtain ⟨ended, network⟩ := answer
  exact attached ended network found _

theorem ensures_place {good : NodeId → Workbench → Prop} {node : Node} {share : Bool}
    (refused : ∀ failure, bench.builder.network.attach node share = .error failure →
      bad failure bench)
    (attached : ∀ ended network, bench.builder.network.attach node share = .ok (ended, network) →
      ∀ tracer log, good ended.id
        (Workbench.written { bench with builder := { bench.builder with network := network } }
          tracer log)) :
    Ensures (place node share) bench good bad :=
  place_tells refused fun ended network answer log => attached ended network answer _ log

/-! ### The parts of a pattern and of a rule -/

/-- Starts the match with the initial fact, where one is needed and there is none. -/
def start (needed : Bool) : Build Unit := do
  let known ← context
  if needed && known.tupleCursor.isNone then initialFact else pure ()

/-- What a pattern does once the match is started. -/
def use (pattern : Pattern) : Build Unit :=
  match pattern.use with
  | .plain => objects pattern >>= plain pattern.subject
  | .existential quantifier => objects pattern >>= existential quantifier
  | .accumulate bindings => objects pattern >>= accumulate bindings
  | .invoke invocation => invoke pattern invocation

/-- The cursors are as they have to be between patterns. -/
def check : Build Unit := do
  ofOutcome (← context).checkComplete

/-- **A pattern in three parts.** -/
theorem pattern_eq (leaf : Pattern) :
    Build.pattern leaf = (do start leaf.needsTuple; use leaf; check) := by
  unfold Build.pattern start use check
  simp only [bind_assoc]
  congr 1
  funext known
  split <;> cases leaf.use <;> simp

/-- **A rule in four parts.** -/
theorem rule_eq (whole : Rule) :
    Build.rule whole = (do condition whole.view; start true; check; terminal whole) := by
  unfold Build.rule start check
  simp only [bind_assoc]
  congr 1
  funext _
  congr 1
  funext known
  cases known.tupleCursor <;> simp

/-- A rule up to its terminal. -/
def body (view : Condition) : Build Unit := do
  condition view
  start true
  check

theorem rule_eq_body (whole : Rule) :
    Build.rule whole = (do body whole.view; terminal whole) := by
  rw [rule_eq]
  simp only [body, bind_assoc]

end Build

/-! ### The parts of adding a rule -/

namespace Builder

/-- The builder after its transaction was closed. -/
def committed (builder : Builder) : Builder :=
  { builder with network := builder.network.commit }

/-- The builder without what the open transaction added. -/
def rolledBack (builder : Builder) : Builder :=
  { builder with
    network := builder.network.rollback.2
    entryPoints := builder.entryPoints.prune builder.network.rollback.1
    streams := builder.streams.prune builder.network.rollback.1 }

/-- What a rule that failed leaves: everything or nothing of what it added. -/
def abandoned (builder : Builder) : Builder :=
  if builder.config.rollback then builder.rolledBack else builder

theorem abandoned_ids (builder : Builder) : builder.abandoned.ids = builder.ids := by
  unfold abandoned
  split <;> rfl

variable {bench : Workbench} {rule : Rule} {bad : Failure → Workbench → Prop}

/-- **The bench on which a rule is compiled.** Its start is recorded, and its transaction open. -/
def opening (bench : Workbench) (rule : Rule) : Workbench where
  builder := (bench.builder.traced (bench.builder.tracer.startRule rule.name).1).opened
  context := .new rule.name
  log := bench.log ++ (bench.builder.tracer.startRule rule.name).2 ++
    [⟨.debug, "compiling rule " ++ rule.name⟩]

/-- What is reported of a rule that failed. -/
def failureEvents (builder : Builder) (rule message : String) : List BuildEvent :=
  .ruleFailed rule message ::
    if builder.config.rollback then [.rolledBack rule builder.network.rollback.1.length] else []

/-- A rule that compiled is reported complete. -/
theorem completed_tells {good : RuleHandle → Workbench → Prop} {before : Nat} {terminal : NodeId}
    (ended : ∀ log, good ⟨rule.name, rule.salience, terminal, bench.builder.compiled⟩
      ⟨bench.builder.committed.traced
        (bench.builder.tracer.recordAll [.ruleComplete rule.name terminal]), bench.context, log⟩) :
    Ensures (completed rule before terminal) bench good bad :=
  ended _

/-- A rule that failed is reported, and so is what was rolled back. -/
theorem failed_tells {good : Unit → Workbench → Prop} {message : String}
    (ended : ∀ log, good () ⟨bench.builder.abandoned.traced
      (bench.builder.tracer.recordAll (bench.builder.failureEvents rule.name message)),
      bench.context, log⟩) :
    Ensures (failed rule message) bench good bad := by
  unfold failed
  simp only [ensures_bind, Build.ensures_builder, Build.report_ends]
  unfold abandoned failureEvents at ended
  have same : ∀ tracer log, (bench.written tracer log).builder.config = bench.builder.config :=
    fun _ _ => rfl
  rw [same]
  by_cases rollback : bench.builder.config.rollback = true
  · simp only [rollback, if_true] at ended
    rw [if_pos rollback]
    exact ended _
  · simp only [rollback, Bool.false_eq_true, if_false] at ended
    rw [if_neg rollback]
    exact ended _

/-- **The ends of adding a rule, with all that is reported.** -/
theorem addRule_tells {good : RuleHandle → Workbench → Prop}
    (compiled : Ensures (Build.rule rule) (opening bench rule)
      (fun terminal after => ∀ log,
        good ⟨rule.name, rule.salience, terminal, after.builder.compiled⟩
          ⟨after.builder.committed.traced
            (after.builder.tracer.recordAll [.ruleComplete rule.name terminal]), after.context, log⟩)
      fun failure after => ∀ log, bad (failure.located after.context.place)
        ⟨after.builder.abandoned.traced (after.builder.tracer.recordAll
          (after.builder.failureEvents rule.name (failure.located after.context.place).message)),
          after.context, log⟩) :
    Ensures (addRule rule) bench good bad := by
  unfold addRule
  simp only [ensures_bind, Build.ensures_builder, Build.ensures_modifyBuilder, ensures_modify,
    ensures_tryCatch, Build.ensures_context, ensures_throw]
  show Ensures (Build.rule rule) (opening bench rule) _ _
  refine compiled.mono (fun terminal after ended => ?_) fun failure after ended => ?_
  · exact completed_tells ended
  · exact failed_tells ended

/-- **The ends of adding a rule.** The rule is compiled on an opened builder with a new context. A
success closes the transaction; a failure gets its place, and keeps all or nothing. -/
theorem ensures_addRule {good : RuleHandle → Workbench → Prop}
    (compiled : ∀ tracer log, Ensures (Build.rule rule)
      ⟨(bench.builder.traced tracer).opened, .new rule.name, log⟩
      (fun terminal after => ∀ tracer log,
        good ⟨rule.name, rule.salience, terminal, after.builder.compiled⟩
          ⟨after.builder.committed.traced tracer, after.context, log⟩)
      fun failure after => ∀ tracer log, bad (failure.located after.context.place)
        ⟨after.builder.abandoned.traced tracer, after.context, log⟩) :
    Ensures (addRule rule) bench good bad := by
  refine addRule_tells ((compiled _ _).mono (fun terminal after ended log => ?_)
    fun failure after ended log => ?_)
  · exact ended _ log
  · exact ended _ log

end Builder

end RuleNet
