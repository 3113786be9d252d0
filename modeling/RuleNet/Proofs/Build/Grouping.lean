/-
**How a view groups its patterns does not matter.**

The conjunctions of a view leave one trace while it is compiled, the frames of its context, and no
step looks at the frames until a failure is placed. So a view is compiled like the list of its
patterns, whatever the conjunctions around them are. Of a pattern's constraint only the leaves are
read, so the grouping of constraints does not matter either.

* `Build.Alike`: steps that do the same, whatever the frames are, with rules for sequences;
* `request_alike`, …, `pattern_alike`: **every step of the compiler is blind for the frames**;
* `condition_alike`: **a view is compiled like its patterns**, one after the other;
* `Pattern.Regrouped`, `Rule.Regrouped`: patterns and rules up to the grouping;
* `Condition.pruned`: a view without empty and one-part conjunctions;
* `addRule_regrouped`: **regrouped rules are added alike**.
-/

import RuleNet.Proofs.Build.Outlined

namespace RuleNet

open Stateful

/-! ### Frames -/

/-- The context without its frames. -/
def BuildContext.unframed (context : BuildContext) : BuildContext :=
  { context with frames := [] }

/-- The bench without the frames of its context. -/
def Workbench.unframed (bench : Workbench) : Workbench :=
  { bench with context := bench.context.unframed }

namespace Build

/-- **Steps that do the same, whatever the frames are.** From benches that differ in their frames at
most they have the same outcome, and leave such benches again. -/
def Alike {α : Type} (step other : Build α) : Prop :=
  ∀ bench twin : Workbench, bench.unframed = twin.unframed →
    (result step bench).1 = (result other twin).1 ∧
      (result step bench).2.unframed = (result other twin).2.unframed

namespace Alike

variable {α β γ : Type} {step other third : Build α}

theorem symm (alike : Alike step other) : Alike other step := fun bench twin near =>
  have same := alike twin bench near.symm
  ⟨same.1.symm, same.2.symm⟩

theorem trans (first : Alike step other) (second : Alike other third) : Alike step third :=
  fun bench twin near =>
    have one := first bench twin near
    have two := second twin twin rfl
    ⟨one.1.trans two.1, one.2.trans two.2⟩

theorem pure (value : α) : Alike (Pure.pure value : Build α) (Pure.pure value) :=
  fun _ _ near => ⟨rfl, near⟩

theorem throw (failure : Failure) :
    Alike (MonadExcept.throw failure : Build α) (MonadExcept.throw failure) :=
  fun _ _ near => ⟨rfl, near⟩

/-- **Sequences of such steps.** -/
theorem bind {next more : α → Build β} (first : Alike step other)
    (rest : ∀ value, Alike (next value) (more value)) :
    Alike (step >>= next) (other >>= more) := by
  intro bench twin near
  obtain ⟨same, left⟩ := first bench twin near
  rw [result_bind, result_bind]
  cases ended : result step bench with
  | mk outcome after =>
    cases finished : result other twin with
    | mk answer done =>
      rw [ended, finished] at same left
      cases same
      cases outcome with
      | ok value => exact rest value after done left
      | error failure => exact ⟨rfl, left⟩

theorem outcome (outcome : Outcome α) : Alike (ofOutcome outcome) (ofOutcome outcome) := by
  cases outcome with
  | ok value => exact pure value
  | error failure => exact throw failure

/-- Both look at the context, and see nothing of its frames. -/
theorem look {next : BuildContext → Build β}
    (blind : ∀ context, next context.unframed = next context)
    (rest : ∀ context, Alike (next context) (next context)) :
    Alike (context >>= next) (context >>= next) := by
  intro bench twin near
  have same : next bench.context = next twin.context := by
    rw [← blind bench.context, ← blind twin.context]
    exact congrArg (fun known : Workbench => next known.context) near
  have alike := rest bench.context bench twin near
  exact ⟨alike.1.trans (same ▸ rfl), alike.2.trans (same ▸ rfl)⟩

/-- Whatever one of them sees of the context. -/
theorem lookPast {next : BuildContext → Build α} (rest : ∀ context, Alike (next context) other) :
    Alike (context >>= next) other :=
  fun bench twin near => rest bench.context bench twin near

/-- Both look at the builder. -/
theorem lookAt {next more : Builder → Build β} (rest : ∀ known, Alike (next known) (more known)) :
    Alike (builder >>= next) (builder >>= more) := by
  intro bench twin near
  have same : bench.builder = twin.builder :=
    (congrArg Workbench.builder near : bench.unframed.builder = twin.unframed.builder)
  have alike := rest bench.builder bench twin near
  exact ⟨alike.1.trans (same ▸ rfl), alike.2.trans (same ▸ rfl)⟩

/-- A change of the context that depends on no frames. -/
theorem change {change : BuildContext → BuildContext}
    (blind : ∀ context, (change context.unframed).unframed = (change context).unframed) :
    Alike (modifyContext change) (modifyContext change) := by
  intro bench twin near
  refine ⟨rfl, ?_⟩
  have contexts : (change bench.context).unframed = (change twin.context).unframed := by
    rw [← blind bench.context, ← blind twin.context]
    exact congrArg (fun known : Workbench => (change known.context).unframed) near
  exact congrArg₂ (fun (known : Workbench) context => { known with context := context }) near
    contexts

/-- A step on the builder and the log. -/
theorem modify {change : Workbench → Workbench}
    (blind : ∀ bench, (change bench).unframed = change bench.unframed) :
    Alike (MonadStateOf.modifyGet fun bench => ((), change bench))
      (MonadStateOf.modifyGet fun bench => ((), change bench)) :=
  fun bench twin near => ⟨rfl, (blind bench).trans ((congrArg change near).trans (blind twin).symm)⟩

theorem modifyBuilder (change : Builder → Builder) :
    Alike (Build.modifyBuilder change) (Build.modifyBuilder change) :=
  modify fun _ => rfl

theorem report (event : BuildEvent) : Alike (Build.report event) (Build.report event) :=
  modify fun _ => rfl

theorem log (level : LogLevel) (text : String) :
    Alike (Build.log level text) (Build.log level text) :=
  modify fun _ => rfl

theorem forM {step : γ → Build PUnit} (items : List γ)
    (steps : ∀ item, Alike (step item) (step item)) :
    Alike (items.forM step) (items.forM step) := by
  induction items with
  | nil => exact pure _
  | cons item rest hypothesis => exact (steps item).bind fun _ => hypothesis

theorem mapM {step : γ → Build α} (items : List γ)
    (steps : ∀ item, Alike (step item) (step item)) :
    Alike (items.mapM step) (items.mapM step) := by
  induction items with
  | nil => exact pure _
  | cons item rest hypothesis =>
    rw [List.mapM_cons]
    exact (steps item).bind fun _ => hypothesis.bind fun _ => pure _

end Alike

/-! ### Nodes -/

theorem request_alike (kind : NodeKind) (tuple object : Option NodeId) :
    Alike (request kind tuple object) (request kind tuple object) :=
  .lookAt fun _ => (Alike.outcome _).bind fun _ =>
    (Alike.modifyBuilder _).bind fun _ => .outcome _

theorem place_alike (node : Node) (share : Bool) : Alike (place node share) (place node share) :=
  .lookAt fun _ => (Alike.outcome _).bind fun _ => (Alike.modifyBuilder _).bind fun _ =>
    (Alike.report _).bind fun _ => (Alike.log _ _).bind fun _ => .pure _

theorem entryPointRoot_alike (name : String) :
    Alike (entryPointRoot name) (entryPointRoot name) := by
  refine Alike.lookAt fun known => ?_
  split
  · exact (Alike.report _).bind fun _ => .pure _
  · refine (request_alike _ _ _).bind fun node => (place_alike node false).bind fun root => ?_
    exact (Alike.modifyBuilder _).bind fun _ => (Alike.log _ _).bind fun _ => .pure _

theorem streamRoot_alike (name : String) (type : ObjectType) :
    Alike (streamRoot name type) (streamRoot name type) := by
  refine Alike.lookAt fun known => ?_
  split
  · exact (Alike.report _).bind fun _ => .pure _
  · refine (request_alike _ _ _).bind fun node => (place_alike node false).bind fun root => ?_
    exact (Alike.modifyBuilder _).bind fun _ => (Alike.log _ _).bind fun _ => .pure _

theorem objectTypeNode_alike (root : NodeId) (type : ObjectType) :
    Alike (objectTypeNode root type) (objectTypeNode root type) := by
  refine Alike.lookAt fun known => ?_
  split
  · exact (Alike.report _).bind fun _ => .pure _
  · exact (request_alike _ _ _).bind fun node => place_alike node true

theorem ensureAdapter_alike : Alike ensureAdapter ensureAdapter := by
  refine Alike.look (fun _ => rfl) fun context => ?_
  split
  · exact .pure _
  · refine (Alike.outcome _).bind fun object => Alike.lookAt fun known => ?_
    split
    · exact .throw _
    · refine (Alike.change fun _ => rfl).bind fun _ => (request_alike _ _ _).bind fun node => ?_
      refine Alike.lookAt fun known => (place_alike _ _).bind fun adapter => ?_
      exact (Alike.report _).bind fun _ => (Alike.change fun _ => rfl).bind fun _ => .pure _

theorem initialFact_alike : Alike initialFact initialFact := by
  refine (entryPointRoot_alike _).bind fun root => (Alike.change fun _ => rfl).bind fun _ => ?_
  refine (objectTypeNode_alike _ _).bind fun narrowed => ?_
  refine (Alike.change fun _ => rfl).bind fun _ => ?_
  refine (Alike.report _).bind fun _ => ensureAdapter_alike.bind fun _ => ?_
  exact Alike.change fun _ => rfl

theorem start_alike (needed : Bool) : Alike (start needed) (start needed) := by
  refine Alike.look (fun _ => rfl) fun context => ?_
  split
  · exact initialFact_alike
  · exact .pure _

theorem check_alike : Alike check check :=
  Alike.look (fun _ => rfl) fun _ => .outcome _

/-! ### Patterns -/

theorem streamType_alike (name : String) (root : NodeId) :
    Alike (streamType name root) (streamType name root) := by
  refine Alike.lookAt fun known => ?_
  split
  · exact .pure _
  · exact .throw _

theorem readSource_alike (source : Source) (type : ObjectType) :
    Alike (readSource source type) (readSource source type) := by
  unfold readSource
  cases source with
  | entryPoint name =>
    refine (entryPointRoot_alike name).bind fun root => (Alike.change fun _ => rfl).bind fun _ => ?_
    exact (objectTypeNode_alike root type).bind fun _ => Alike.change fun _ => rfl
  | stream name =>
    refine (streamRoot_alike name type).bind fun root => ?_
    refine (Alike.change fun _ => rfl).bind fun _ => ?_
    refine (streamType_alike name root).bind fun carried => ?_
    split
    · exact .pure _
    · split
      · exact (objectTypeNode_alike root type).bind fun _ => Alike.change fun _ => rfl
      · exact .throw _

theorem filter_alike (single : SingleConstraint) : Alike (filter single) (filter single) := by
  refine Alike.look (fun _ => rfl) fun context => (Alike.outcome _).bind fun parent => ?_
  refine (request_alike _ _ _).bind fun node => Alike.lookAt fun known => ?_
  exact (place_alike _ _).bind fun id => Alike.change fun _ => rfl

theorem skip_alike (single : SingleConstraint) : Alike (skip single) (skip single) :=
  .report _

theorem objects_alike (leaf : Pattern) : Alike (objects leaf) (objects leaf) := by
  refine (readSource_alike _ _).bind fun _ => Alike.look (fun context => ?_) fun context => ?_
  · rw [@Classified.partition_congr context.unframed context _ rfl]
  · refine (Alike.outcome _).bind fun classified => ?_
    refine (Alike.forM _ fun single => ?_).bind fun _ => ?_
    · exact (Alike.log _ _).bind fun _ => skip_alike single
    refine (Alike.forM _ filter_alike).bind fun _ =>
      Alike.look (fun context => ?_) fun _ => .outcome _
    rw [@SingleConstraint.bindAll_congr context.unframed context _ rfl]

theorem extend_alike (kind : NodeKind) (tuple : NodeId) (object : Option NodeId) :
    Alike (extend kind tuple object) (extend kind tuple object) := by
  refine (request_alike _ _ _).bind fun node => Alike.lookAt fun known => ?_
  exact (place_alike _ _).bind fun id => Alike.change fun _ => rfl

theorem plain_alike (subject : Variable) (constraints : List BoundConstraint) :
    Alike (plain subject constraints) (plain subject constraints) := by
  refine Alike.look (fun _ => rfl) fun context => ?_
  split
  · exact ensureAdapter_alike.bind fun _ => Alike.change fun _ => rfl
  · refine (Alike.outcome _).bind fun object => (extend_alike _ _ _).bind fun _ => ?_
    exact Alike.change fun _ => rfl

theorem existential_alike (quantifier : Quantifier) (constraints : List BoundConstraint) :
    Alike (existential quantifier constraints) (existential quantifier constraints) := by
  refine Alike.look (fun _ => rfl) fun context => (Alike.outcome _).bind fun tuple => ?_
  refine (Alike.outcome _).bind fun object => (extend_alike _ _ _).bind fun _ => ?_
  exact Alike.change fun _ => rfl

theorem placeAggregate_alike (binding : Binding) :
    Alike (placeAggregate binding) (placeAggregate binding) :=
  Alike.look (fun _ => rfl) fun _ => (Alike.change fun _ => rfl).bind fun _ => .pure _

theorem accumulate_alike (bindings : List Binding) (constraints : List BoundConstraint) :
    Alike (accumulate bindings constraints) (accumulate bindings constraints) := by
  refine Alike.look (fun _ => rfl) fun context => (Alike.outcome _).bind fun tuple => ?_
  refine (Alike.outcome _).bind fun object => ?_
  exact (Alike.mapM _ placeAggregate_alike).bind fun functions => extend_alike _ _ _

theorem invoke_alike (leaf : Pattern) (invocation : Invocation) :
    Alike (invoke leaf invocation) (invoke leaf invocation) := by
  refine Alike.look (fun context => ?_) fun context => ?_
  · simp only [@SingleConstraint.bindAll_congr context.unframed context _ rfl]
    rfl
  · refine (Alike.outcome _).bind fun tuple => (Alike.outcome _).bind fun args => ?_
    refine (Alike.forM _ skip_alike).bind fun _ => (Alike.outcome _).bind fun constraints => ?_
    exact (extend_alike _ _ _).bind fun _ => Alike.change fun _ => rfl

theorem use_alike (leaf : Pattern) : Alike (use leaf) (use leaf) := by
  unfold use
  split
  · exact (objects_alike leaf).bind fun _ => plain_alike _ _
  · exact (objects_alike leaf).bind fun _ => existential_alike _ _
  · exact (objects_alike leaf).bind fun _ => accumulate_alike _ _
  · exact invoke_alike leaf _

/-- **A pattern is compiled alike, whatever the frames are.** -/
theorem pattern_alike (leaf : Pattern) : Alike (Build.pattern leaf) (Build.pattern leaf) := by
  rw [pattern_eq]
  exact (start_alike _).bind fun _ => (use_alike leaf).bind fun _ => check_alike

theorem terminal_alike (whole : Rule) : Alike (terminal whole) (terminal whole) := by
  refine (Alike.change fun _ => rfl).bind fun _ => Alike.look (fun _ => rfl) fun context => ?_
  refine (Alike.outcome _).bind fun tuple => (Alike.outcome _).bind fun bindings => ?_
  refine (request_alike _ _ _).bind fun node => (place_alike _ _).bind fun id => ?_
  exact (Alike.change fun _ => rfl).bind fun _ => .pure _

/-! ### Views -/

/-- **A framed step**, from the bench with the frame. -/
theorem result_framed (frame : String) (step : Build Unit) (bench : Workbench) :
    result (framed frame step) bench =
      match result step { bench with context := bench.context.pushFrame frame } with
      | (.ok _, after) => (.ok (), { after with context := after.context.popFrame })
      | (.error failure, after) => (.error failure, after) := by
  unfold framed
  rw [result_bind]
  show result (step >>= fun _ => modifyContext BuildContext.popFrame) _ = _
  rw [result_bind]
  cases result step { bench with context := bench.context.pushFrame frame } with
  | mk outcome after => cases outcome <;> rfl

/-- A frame around a step is not seen. -/
theorem framed_alike {frame : String} {step other : Build Unit} (alike : Alike step other) :
    Alike (framed frame step) other := by
  intro bench twin near
  have inside := alike { bench with context := bench.context.pushFrame frame } twin near
  rw [result_framed]
  cases ended : result step { bench with context := bench.context.pushFrame frame } with
  | mk outcome after =>
    rw [ended] at inside
    cases outcome <;> exact inside

/-- Patterns without the view around them: each is counted and compiled. -/
def visits : List Pattern → Build Unit
  | [] => pure ()
  | leaf :: rest => do
    modifyContext BuildContext.nextPattern
    Build.pattern leaf
    visits rest

theorem visits_append (patterns more : List Pattern) :
    visits (patterns ++ more) = (do visits patterns; visits more) := by
  induction patterns with
  | nil => exact (pure_bind () fun _ => visits more).symm
  | cons leaf rest hypothesis => simp only [List.cons_append, visits, hypothesis, bind_assoc]

end Build

namespace Condition

mutual

/-- **The view is made of patterns and conjunctions only.** -/
def Conjunctive : Condition → Prop
  | pattern _ => True
  | and parts => ConjunctiveAll parts
  | or _ => False
  | objectPath _ => False
termination_by structural view => view

def ConjunctiveAll : List Condition → Prop
  | [] => True
  | part :: rest => Conjunctive part ∧ ConjunctiveAll rest
termination_by structural parts => parts

end

end Condition

namespace Build

mutual

/-- **A view is compiled like its patterns**, one after the other. -/
theorem condition_alike : (view : Condition) → view.Conjunctive →
    Alike (condition view) (visits view.patterns)
  | .pattern leaf, _ => by
    have single : visits (Condition.pattern leaf).patterns =
        (do modifyContext BuildContext.nextPattern; Build.pattern leaf) := by
      simp only [Condition.patterns, visits, bind_pure_unit]
    rw [single]
    refine (Alike.change fun _ => rfl).bind fun _ => Alike.lookPast fun known => ?_
    exact framed_alike (pattern_alike leaf)
  | .and parts, conjunctive => framed_alike (conditions_alike parts conjunctive)

theorem conditions_alike : (parts : List Condition) → Condition.ConjunctiveAll parts →
    Alike (conditions parts) (visits (Condition.patternsOf parts))
  | [], _ => .pure _
  | part :: rest, conjunctive => by
    rw [Condition.patternsOf, visits_append]
    exact (condition_alike part conjunctive.1).bind fun _ => conditions_alike rest conjunctive.2

end

end Build

/-! ### Regrouping -/

/-- **One pattern up to the grouping of its constraint.** -/
structure Pattern.Regrouped (first second : Pattern) : Prop where
  subject : first.subject = second.subject
  source : first.source = second.source
  use : first.use = second.use
  singles : first.constraint.singles = second.constraint.singles

/-- **One rule up to the grouping of its view and of the constraints in it.** -/
structure Rule.Regrouped (first second : Rule) : Prop where
  name : first.name = second.name
  salience : first.salience = second.salience
  consequence : first.consequence = second.consequence
  conjunctive : first.view.Conjunctive
  again : second.view.Conjunctive
  patterns : List.Forall₂ Pattern.Regrouped first.view.patterns second.view.patterns

namespace Build

/-- Only the leaves of the constraint are read. -/
theorem pattern_regrouped {first second : Pattern} (regrouped : first.Regrouped second) :
    Build.pattern first = Build.pattern second := by
  obtain ⟨subject, source, constraint, use⟩ := first
  obtain ⟨_, _, other, _⟩ := second
  obtain ⟨rfl, rfl, rfl, singles⟩ := regrouped
  have singles : constraint.singles = other.singles := singles
  have read : objects ⟨subject, source, constraint, use⟩ =
      objects ⟨subject, source, other, use⟩ := by
    simp only [objects, singles]
  have invoked : ∀ invocation, invoke ⟨subject, source, constraint, use⟩ invocation =
      invoke ⟨subject, source, other, use⟩ invocation := fun invocation => by
    simp only [invoke, singles]
  rw [pattern_eq, pattern_eq]
  congr 1
  funext _
  simp only [Build.use, read, invoked]

theorem visits_regrouped {patterns others : List Pattern}
    (regrouped : List.Forall₂ Pattern.Regrouped patterns others) :
    visits patterns = visits others := by
  induction regrouped with
  | nil => rfl
  | cons first _ hypothesis => rw [visits, visits, pattern_regrouped first, hypothesis]

/-- **Regrouped rules are compiled alike.** -/
theorem rule_regrouped {first second : Rule} (regrouped : first.Regrouped second) :
    Alike (Build.rule first) (Build.rule second) := by
  obtain ⟨name, salience, view, consequence⟩ := first
  obtain ⟨_, _, other, _⟩ := second
  obtain ⟨rfl, rfl, rfl, conjunctive, again, patterns⟩ := regrouped
  have views : Alike (condition view) (condition other) :=
    ((condition_alike view conjunctive).trans (by
      rw [visits_regrouped patterns]
      exact (condition_alike other again).symm))
  rw [rule_eq, rule_eq]
  refine views.bind fun _ => (start_alike true).bind fun _ => check_alike.bind fun _ => ?_
  exact terminal_alike ⟨name, salience, other, consequence⟩

end Build

/-! ### Adding rules -/

namespace Builder

open Build

/-- What follows a failure: it is reported, and gets its place. -/
def refused (rule : Rule) (failure : Failure) : Build RuleHandle := do
  let known ← context
  failed rule failure.message
  throw (failure.located known.place)

/-- What becomes of a compilation. -/
def concluded (rule : Rule) (before : Nat) :
    Outcome NodeId × Workbench → Outcome RuleHandle × Workbench
  | (.ok terminal, after) => result (completed rule before terminal) after
  | (.error failure, after) => result (refused rule failure) after

/-- **Adding a rule, from compiling it.** -/
theorem result_addRule (rule : Rule) (bench : Workbench) :
    result (addRule rule) bench = concluded rule bench.builder.network.size
      (result (Build.rule rule) (opening bench rule)) := by
  unfold addRule
  show result (tryCatch (Build.rule rule >>= completed rule bench.builder.network.size) _)
    (opening bench rule) = _
  rw [result_tryCatch, result_bind]
  cases result (Build.rule rule) (opening bench rule) with
  | mk outcome after => cases outcome <;> rfl

theorem completed_alike (rule : Rule) (before : Nat) (terminal : NodeId) :
    Alike (completed rule before terminal) (completed rule before terminal) := by
  refine (Alike.modifyBuilder _).bind fun _ => (Alike.report _).bind fun _ => ?_
  exact Alike.lookAt fun known => (Alike.log _ _).bind fun _ => .pure _

theorem failed_alike (rule : Rule) (message : String) :
    Alike (failed rule message) (failed rule message) := by
  refine (Alike.report _).bind fun _ => Alike.lookAt fun known => ?_
  split
  · exact (Alike.modifyBuilder _).bind fun _ => (Alike.report _).bind fun _ => .log _ _
  · exact .log _ _

end Builder

/-- The answer, or the cause of a failure without its place. -/
def Outcome.verdict {α : Type} (outcome : Outcome α) : Except Fault α :=
  outcome.mapError Failure.fault

/-- **Changes that agree in everything but the place of a failure.** The same answer or cause, and
so the same kind and message; the same thing after the change; and the same log. -/
structure Change.Agree {σ α : Type} (one other : Change σ α) : Prop where
  verdict : one.outcome.verdict = other.outcome.verdict
  after : one.after = other.after
  log : one.log = other.log

namespace Builder

open Build

/-- A failure is reported alike, and gets a place of its own. -/
theorem refused_alike (rule : Rule) (failure : Failure) {bench twin : Workbench}
    (near : bench.unframed = twin.unframed) :
    (result (refused rule failure) bench).1.verdict =
        (result (refused rule failure) twin).1.verdict ∧
      (result (refused rule failure) bench).2.unframed =
        (result (refused rule failure) twin).2.unframed := by
  obtain ⟨same, left⟩ := failed_alike rule failure.message bench twin near
  have ends : ∀ known : Workbench, result (refused rule failure) known =
      match result (failed rule failure.message) known with
      | (.ok _, after) => (.error (failure.located known.context.place), after)
      | (.error other, after) => (.error other, after) := by
    intro known
    unfold refused
    rw [result_bind]
    show result (failed rule failure.message >>= fun _ => throw _) known = _
    rw [result_bind]
    cases result (failed rule failure.message) known with
    | mk outcome after => cases outcome <;> rfl
  rw [ends, ends]
  cases one : result (failed rule failure.message) bench with
  | mk told after =>
    cases two : result (failed rule failure.message) twin with
    | mk said done =>
      rw [one, two] at same left
      cases same
      cases told <;> exact ⟨rfl, left⟩

theorem concluded_alike (rule : Rule) (before : Nat) {one other : Outcome NodeId × Workbench}
    (same : one.1 = other.1) (near : one.2.unframed = other.2.unframed) :
    (concluded rule before one).1.verdict = (concluded rule before other).1.verdict ∧
      (concluded rule before one).2.unframed = (concluded rule before other).2.unframed := by
  obtain ⟨outcome, after⟩ := one
  obtain ⟨_, done⟩ := other
  cases same
  cases outcome with
  | ok terminal =>
    have closed := completed_alike rule before terminal after done near
    exact ⟨congrArg Outcome.verdict closed.1, closed.2⟩
  | error failure => exact refused_alike rule failure near

/-- **Regrouped rules are added alike**: the answer, or the cause of the failure, is the same, and
so is what is left, up to the frames. -/
theorem addRule_alike {first second : Rule} (regrouped : first.Regrouped second)
    (bench : Workbench) :
    (result (addRule first) bench).1.verdict = (result (addRule second) bench).1.verdict ∧
      (result (addRule first) bench).2.unframed = (result (addRule second) bench).2.unframed := by
  obtain ⟨same, near⟩ := rule_regrouped regrouped (opening bench first) (opening bench first) rfl
  obtain ⟨name, salience, view, consequence⟩ := first
  obtain ⟨_, _, other, _⟩ := second
  obtain ⟨rfl, rfl, rfl, _, _, _⟩ := regrouped
  rw [result_addRule, result_addRule]
  exact concluded_alike ⟨name, salience, view, consequence⟩ _ same near

end Builder

/-! ### Pruning -/

namespace Constraint

/-- A conjunction of several constraints, or a single constraint. -/
def joined : List Constraint → Constraint
  | [only] => only
  | parts => all parts

mutual

/-- **The constraint without empty and one-part conjunctions.** -/
def pruned : Constraint → Constraint
  | single leaf => single leaf
  | all parts => joined (prunedParts parts)
termination_by structural constraint => constraint

/-- The parts of which something is left. -/
def prunedParts : List Constraint → List Constraint
  | [] => []
  | part :: rest =>
    match pruned part with
    | all [] => prunedParts rest
    | kept => kept :: prunedParts rest
termination_by structural parts => parts

end

theorem singles_joined (parts : List Constraint) : (joined parts).singles = singlesOf parts := by
  unfold joined
  split
  · simp only [singlesOf, List.append_nil]
  · rfl

mutual

/-- Pruning keeps the leaves. -/
theorem singles_pruned (constraint : Constraint) :
    constraint.pruned.singles = constraint.singles := by
  cases constraint with
  | single leaf => rfl
  | all parts => rw [pruned, singles_joined, singlesOf_pruned parts, singles]
termination_by structural constraint

theorem singlesOf_pruned (parts : List Constraint) :
    singlesOf (prunedParts parts) = singlesOf parts := by
  cases parts with
  | nil => rfl
  | cons part rest =>
    have first := singles_pruned part
    have others := singlesOf_pruned rest
    rw [prunedParts]
    split
    · rename_i empty
      rw [empty] at first
      rw [others, singlesOf, ← first]
      rfl
    · rw [singlesOf, first, others, singlesOf]
termination_by structural parts

end

end Constraint

namespace Condition

/-- A conjunction of several conditions, or a single condition. -/
def joined : List Condition → Condition
  | [only] => only
  | parts => and parts

mutual

/-- **The view without empty and one-part conjunctions**, in its constraints too. -/
def pruned : Condition → Condition
  | pattern leaf => pattern { leaf with constraint := leaf.constraint.pruned }
  | and parts => joined (prunedParts parts)
  | or parts => or parts
  | objectPath path => objectPath path
termination_by structural view => view

/-- The parts of which something is left. -/
def prunedParts : List Condition → List Condition
  | [] => []
  | part :: rest =>
    match pruned part with
    | and [] => prunedParts rest
    | kept => kept :: prunedParts rest
termination_by structural parts => parts

end

theorem patterns_joined (parts : List Condition) : (joined parts).patterns = patternsOf parts := by
  unfold joined
  split
  · simp only [patternsOf, List.append_nil]
  · rfl

theorem conjunctive_joined {parts : List Condition} (conjunctive : ConjunctiveAll parts) :
    (joined parts).Conjunctive := by
  unfold joined
  split
  · exact conjunctive.1
  · exact conjunctive

mutual

/-- **Pruning keeps the patterns**, up to the grouping of their constraints. -/
theorem pruned_regrouped (view : Condition) (conjunctive : view.Conjunctive) :
    view.pruned.Conjunctive ∧
      List.Forall₂ Pattern.Regrouped view.patterns view.pruned.patterns := by
  cases view with
  | pattern leaf =>
    refine ⟨trivial, .cons ⟨rfl, rfl, rfl, ?_⟩ .nil⟩
    exact leaf.constraint.singles_pruned.symm
  | and parts =>
    have kept := prunedParts_regrouped parts conjunctive
    rw [pruned, patterns_joined, patterns]
    exact ⟨conjunctive_joined kept.1, kept.2⟩
  | or _ => exact conjunctive.elim
  | objectPath _ => exact conjunctive.elim
termination_by structural view

theorem prunedParts_regrouped (parts : List Condition) (conjunctive : ConjunctiveAll parts) :
    ConjunctiveAll (prunedParts parts) ∧
      List.Forall₂ Pattern.Regrouped (patternsOf parts) (patternsOf (prunedParts parts)) := by
  cases parts with
  | nil => exact ⟨trivial, .nil⟩
  | cons part rest =>
    have first := pruned_regrouped part conjunctive.1
    have others := prunedParts_regrouped rest conjunctive.2
    rw [prunedParts, patternsOf]
    split
    · rename_i empty
      rw [empty] at first
      exact ⟨others.1, List.rel_append first.2 others.2⟩
    · exact ⟨⟨first.1, others.1⟩, List.rel_append first.2 others.2⟩
termination_by structural parts

end

end Condition

/-- The rule with its view pruned. -/
def Rule.pruned (rule : Rule) : Rule :=
  { rule with view := rule.view.pruned }

namespace KnowledgeBase

/-- The rules after one was added or refused. -/
def rulesAfter (kb : KnowledgeBase) (outcome : Outcome RuleHandle) : List RuleHandle :=
  kb.rules ++ outcome.toOption.toList

theorem rulesAfter_verdict (kb : KnowledgeBase) {one other : Outcome RuleHandle}
    (same : one.verdict = other.verdict) : kb.rulesAfter one = kb.rulesAfter other := by
  cases one with
  | ok handle => cases other with
    | ok own => rw [Except.ok.inj same]
    | error failure => cases same
  | error failure => cases other with
    | ok own => cases same
    | error _ => rfl

theorem addRule_eq (kb : KnowledgeBase) (rule : Rule) :
    kb.addRule rule =
      let ended := result (Builder.addRule rule) ⟨kb.builder, .new rule.name, []⟩
      ⟨ended.1, ⟨ended.2.builder, kb.rulesAfter ended.1⟩, ended.2.log⟩ := by
  cases ended : result (Builder.addRule rule) ⟨kb.builder, .new rule.name, []⟩ with
  | mk outcome bench =>
    have ran : (Builder.addRule rule).run.run ⟨kb.builder, .new rule.name, []⟩ =
      (outcome, bench) := ended
    unfold addRule
    rw [ran]
    cases outcome with
    | ok handle => rfl
    | error failure => simp [rulesAfter, Except.toOption]

/-- **Nesting of conjunctions is irrelevant.** Over any knowledge base, rules that differ in the
grouping of their views and constraints only are accepted or refused alike, and leave the same
knowledge base: the network, the roots, the next id, the trace and the rules. In particular, empty
and one-part conjunctions have no effect, wherever they stand. -/
theorem addRule_regrouped (kb : KnowledgeBase) {first second : Rule}
    (regrouped : first.Regrouped second) :
    Change.Agree (kb.addRule first) (kb.addRule second) ∧
      Change.Agree (kb.addRule first) (kb.addRule first.pruned) := by
  have agree : ∀ {one other : Rule}, one.Regrouped other →
      Change.Agree (kb.addRule one) (kb.addRule other) := by
    intro one other regrouped
    obtain ⟨verdict, left⟩ := Builder.addRule_alike regrouped ⟨kb.builder, .new one.name, []⟩
    have logs := congrArg Workbench.log left
    have builders := congrArg Workbench.builder left
    rw [addRule_eq, addRule_eq, ← regrouped.name]
    exact ⟨verdict, congrArg₂ KnowledgeBase.mk builders (kb.rulesAfter_verdict verdict), logs⟩
  refine ⟨agree regrouped, agree ?_⟩
  have pruned := first.view.pruned_regrouped regrouped.conjunctive
  exact ⟨rfl, rfl, rfl, regrouped.conjunctive, pruned.1, pruned.2⟩

/-! ### A nested pair -/

/-- Two persons, the second in some relation to a variable. -/
def flatPair (other : Variable) : Rule where
  name := "pair"
  salience := 0
  view := .and [.pattern (.of ⟨0, "p", .fact "Person"⟩ .plain),
    .pattern ((Pattern.of ⟨1, "q", .fact "Person"⟩ .plain).joining "differ" other
      fun args => .ok (args[0]? != args[1]?))]
  consequence := ⟨[⟨1, "q", .fact "Person"⟩], fun _ => .ok ()⟩

/-- The same rule with more conjunctions, some of them empty. -/
def nestedPair (other : Variable) : Rule where
  name := "pair"
  salience := 0
  view := .and [.and [], .and [.and [.pattern (.of ⟨0, "p", .fact "Person"⟩ .plain), .and []]],
    .pattern ⟨⟨1, "q", .fact "Person"⟩, .entryPoint defaultEntryPoint,
      .all [.all [], .all [.single ⟨.fixed "differ" 2 fun args => .ok (args[0]? != args[1]?),
        [⟨1, "q", .fact "Person"⟩, other]⟩]], .plain⟩]
  consequence := (flatPair other).consequence

theorem flatPair_regrouped (other : Variable) : (flatPair other).Regrouped (nestedPair other) :=
  ⟨rfl, rfl, rfl, ⟨trivial, trivial, trivial⟩, ⟨trivial, ⟨⟨trivial, trivial, trivial⟩, trivial⟩,
    trivial, trivial⟩, .cons ⟨rfl, rfl, rfl, rfl⟩ (.cons ⟨rfl, rfl, rfl, rfl⟩ .nil)⟩

/-- The pair is accepted if the other variable is bound, and refused if not, however it nests. -/
theorem nestedPair_agrees :
    (((new default .standard).addRule (flatPair ⟨0, "p", .fact "Person"⟩)).outcome.isOk = true ∧
      Change.Agree ((new default .standard).addRule (flatPair ⟨0, "p", .fact "Person"⟩))
        ((new default .standard).addRule (nestedPair ⟨0, "p", .fact "Person"⟩))) ∧
    ((new default .standard).addRule (flatPair ⟨2, "r", .fact "Person"⟩)).outcome.isOk = false ∧
      Change.Agree ((new default .standard).addRule (flatPair ⟨2, "r", .fact "Person"⟩))
        ((new default .standard).addRule (nestedPair ⟨2, "r", .fact "Person"⟩)) :=
  ⟨⟨by decide +kernel, (addRule_regrouped _ (flatPair_regrouped _)).1⟩,
    by decide +kernel, (addRule_regrouped _ (flatPair_regrouped _)).1⟩

end KnowledgeBase

end RuleNet
