/-
**The compiler accepts exactly the well-scoped rules.**

Whether a rule compiles can be told without compiling it, by one walk over its view. The walk knows
which variables are bound and which type each stream carries, and nothing about nodes, cursors or
places.

* `Scope`: what the walk knows, and `Scope.rule`: **the walk**, which ends at the first fault;
* `Outcome.Decides`: the checks of the compiler, as conditions on scopes;
* `Judged`: a step of the outline does what the walk says, unless the ids run out;
* `condition_judged`, `rule_judged`: **views and rules**;
* `addRule_accepts_iff`: **a knowledge base accepts a rule exactly if the walk does**, and otherwise
  its error is of the kind of the first fault.
-/

import RuleNet.Proofs.Build.Answers

namespace RuleNet

open Stateful

/-! ### The walk -/

/-- **What is known half way through a rule.** -/
structure Scope where
  /-- The variables that were bound, oldest first. -/
  bound : List Variable
  /-- The types of the streams that have a root. -/
  streams : String → Option ObjectType

namespace Scope

def binds (scope : Scope) (v : Variable) : Bool :=
  scope.bound.any (·.same v)

def bind (scope : Scope) (v : Variable) : Scope :=
  { scope with bound := scope.bound ++ [v] }

/-- **All variables that are read are bound.** -/
def require (scope : Scope) (reads : List Variable) : Except FaultKind Unit :=
  if ∀ v ∈ reads, scope.binds v then .ok () else .error .structural

/-- **The objects of a source, read as a type.** The first to read a stream fixes its type. -/
def read (scope : Scope) (source : Source) (type : ObjectType) : Except FaultKind Scope :=
  match source with
  | .entryPoint _ => .ok scope
  | .stream name =>
    match scope.streams name with
    | none => .ok { scope with streams := Function.update scope.streams name (some type) }
    | some known => if type = known ∨ known.accepts type then .ok scope else .error .unsupported

theorem read_new {scope : Scope} {name : String} {type : ObjectType}
    (unread : scope.streams name = none) :
    scope.read (.stream name) type =
      .ok { scope with streams := Function.update scope.streams name (some type) } := by
  simp only [read, unread]

theorem read_known {scope : Scope} {name : String} {type carried : ObjectType}
    (known : scope.streams name = some carried) :
    scope.read (.stream name) type =
      if type = carried ∨ carried.accepts type then .ok scope else .error .unsupported := by
  simp only [read, known]

/-- The variables that the constraints of a pattern read. The pattern's own is at hand. -/
def meet (scope : Scope) (pattern : Pattern) : Except FaultKind Unit :=
  (scope.bind pattern.subject).require (pattern.constraint.singles.flatMap SingleConstraint.reads)

/-- What a pattern that reads a source asks for. -/
def objects (scope : Scope) (leaf : Pattern) : Except FaultKind Scope := do
  let known ← scope.read leaf.source leaf.subject.type
  known.meet leaf
  .ok known

/-- **A pattern**, by its use. -/
def pattern (scope : Scope) (leaf : Pattern) : Except FaultKind Scope :=
  match leaf.use with
  | .plain => do
    let known ← scope.objects leaf
    .ok (known.bind leaf.subject)
  | .existential _ => scope.objects leaf
  | .accumulate bindings => do
    let known ← scope.objects leaf
    .ok (bindings.foldl (fun known binding => known.bind binding.result) known)
  | .invoke invocation => do
    scope.require invocation.params
    scope.meet leaf
    .ok (scope.bind leaf.subject)

mutual

/-- **A view**, depth first from left to right. -/
def condition (scope : Scope) : Condition → Except FaultKind Scope
  | .pattern leaf => scope.pattern leaf
  | .and parts => conditions scope parts
  | .or _ => .error .unsupported
  | .objectPath _ => .error .unsupported
termination_by structural view => view

def conditions (scope : Scope) : List Condition → Except FaultKind Scope
  | [] => .ok scope
  | part :: rest => do
    let known ← condition scope part
    conditions known rest
termination_by structural parts => parts

end

/-- **A rule.** Its consequence reads variables that its view bound. -/
def rule (scope : Scope) (whole : Rule) : Except FaultKind Scope := do
  let known ← scope.condition whole.view
  known.require whole.consequence.bindings
  .ok known

end Scope

/-- **Where the walk starts**: no variable is bound, and the registered streams have the types of
their roots. -/
def KnowledgeBase.scope (kb : KnowledgeBase) : Scope where
  bound := []
  streams name := (kb.builder.streams.get? name).bind kb.network.streamType?

/-! ### Checks -/

namespace Outcome

variable {α β : Type} {outcome : Outcome α} {condition other : Prop}

/-- **The outcome is a structural fault unless the condition holds.** -/
def Decides (outcome : Outcome α) (condition : Prop) : Prop :=
  match outcome with
  | .ok _ => condition
  | .error failure => failure.kind = .structural ∧ ¬ condition

theorem Decides.congr (decides : Decides outcome condition) (same : condition ↔ other) :
    Decides outcome other :=
  propext same ▸ decides

theorem Decides.bind {next : α → Outcome β} (first : Decides outcome condition)
    (rest : condition → ∀ value, Decides (next value) other) :
    Decides (outcome >>= next) (condition ∧ other) := by
  cases outcome with
  | error failure => exact ⟨first.1, fun both => first.2 both.1⟩
  | ok value =>
    have later := rest first value
    show Decides (next value) _
    cases answer : next value with
    | ok result =>
      rw [answer] at later
      exact ⟨first, later⟩
    | error failure =>
      rw [answer] at later
      exact ⟨later.1, fun both => later.2 both.2⟩

theorem Decides.returns (first : Decides outcome condition) (next : α → β) :
    Decides (outcome >>= fun value => .ok (next value)) condition := by
  cases outcome with
  | error failure => exact first
  | ok value => exact first

/-- Several checks check all conditions. -/
theorem decides_mapM {step : α → Outcome β} {property : α → Prop} {items : List α}
    (each : ∀ item ∈ items, Decides (step item) (property item)) :
    Decides (items.mapM step) (∀ item ∈ items, property item) := by
  induction items with
  | nil => exact fun _ member => nomatch member
  | cons item rest hypothesis =>
    rw [List.mapM_cons]
    have others := hypothesis fun other member => each other (List.mem_cons_of_mem _ member)
    exact ((each item List.mem_cons_self).bind fun _ _ => others.returns _).congr
      List.forall_mem_cons.symm

end Outcome

section

variable {context : BuildContext} {own : Variable}

theorem BuildContext.decides_requireOffset (v : Variable) (reader : String) :
    Outcome.Decides (context.requireOffset v reader) (∃ offset, context.offset? v = some offset) := by
  unfold requireOffset
  cases named : context.offset? v with
  | some offset => exact ⟨offset, rfl⟩
  | none =>
    refine ⟨rfl, fun found => ?_⟩
    obtain ⟨offset, found⟩ := found
    cases found

namespace SingleConstraint

theorem decides_classOf (key : String) (seen : ConstraintClass) (reads : List Variable) :
    Outcome.Decides (classOf key own context seen reads) (∀ v ∈ reads, context.Reads own v) := by
  induction reads generalizing seen with
  | nil => exact fun _ member => nomatch member
  | cons v rest hypothesis =>
    rw [classOf]
    by_cases same : v.same own = true
    · rw [if_pos same]
      refine (hypothesis seen).congr ?_
      rw [List.forall_mem_cons, iff_and_self]
      exact fun _ => Or.inl same
    · rw [if_neg same]
      cases named : context.offset? v with
      | none =>
        refine ⟨rfl, fun all => ?_⟩
        rcases all v List.mem_cons_self with self | ⟨offset, some⟩
        · exact same self
        · exact Option.some_ne_none offset (some.symm.trans named)
      | some offset =>
        refine (hypothesis .beta).congr ?_
        rw [List.forall_mem_cons, iff_and_self]
        exact fun _ => Or.inr ⟨offset, named⟩

theorem decides_classify (single : SingleConstraint) :
    Outcome.Decides (single.classify own context) (∀ v ∈ single.reads, context.Reads own v) := by
  unfold classify
  by_cases constant : single.isConstant = true
  · rw [if_pos constant, List.isEmpty_iff.mp constant]
    exact fun _ member => nomatch member
  · rw [if_neg constant]
    exact decides_classOf _ _ _

theorem decides_bind (single : SingleConstraint) :
    Outcome.Decides (single.bind own context) (∀ v ∈ single.reads, context.Reads own v) := by
  unfold SingleConstraint.bind
  refine (Outcome.decides_mapM fun v _ => ?_).returns _
  by_cases same : v.same own = true
  · rw [if_pos same]
    exact Or.inl same
  · rw [if_neg same]
    refine ((BuildContext.decides_requireOffset v _).returns _).congr ?_
    rw [BuildContext.Reads, or_iff_right same]

theorem decides_bindAll (singles : List SingleConstraint) :
    Outcome.Decides (bindAll singles own context)
      (∀ single ∈ singles, ∀ v ∈ single.reads, context.Reads own v) :=
  Outcome.decides_mapM fun single _ => decides_bind single

end SingleConstraint

theorem Classified.decides_partition (singles : List SingleConstraint) :
    Outcome.Decides (partition own context singles)
      (∀ single ∈ singles, ∀ v ∈ single.reads, context.Reads own v) := by
  induction singles with
  | nil => exact fun _ member => nomatch member
  | cons single rest hypothesis =>
    rw [partition]
    refine ((SingleConstraint.decides_classify single).bind fun _ _ =>
      hypothesis.returns _).congr ?_
    rw [List.forall_mem_cons]

end

/-! ### Steps -/

namespace Outline

/-- What the walk knows at this point of the compilation. -/
def known (outline : Outline) : Scope :=
  ⟨outline.context.bound.map Prod.fst, outline.ledger.streams⟩

/-- **A variable is bound exactly if it has a place.** -/
theorem binds_known (outline : Outline) (v : Variable) :
    outline.known.binds v = true ↔ ∃ offset, outline.context.offset? v = some offset := by
  rw [← Option.isSome_iff_exists, BuildContext.offset?, Option.isSome_map, List.find?_isSome]
  simp [known, Scope.binds, List.any_map]

/-- The pattern's own variable is at hand as well. -/
theorem binds_own (outline : Outline) (own v : Variable) :
    (outline.known.bind own).binds v = true ↔ outline.context.Reads own v := by
  rw [BuildContext.Reads, ← binds_known, or_comm]
  simp only [Scope.bind, Scope.binds, List.any_append, List.any_cons, List.any_nil, Bool.or_false,
    Bool.or_eq_true, Variable.same_iff, eq_comm (a := own.id)]

/-- The ids ran out. -/
def Exhausted (failure : Failure) (outline : Outline) : Prop :=
  failure.kind = .limit ∧ IdSupply.bound ≤ outline.ledger.ids.nextIndex

/-- **The step does what the walk says**, unless the ids run out. -/
def Judged {α : Type} (step : Stateful Outline α) (outline : Outline)
    (walk : Except FaultKind Scope) : Prop :=
  Ensures step outline (fun _ after => walk = .ok after.known) fun failure after =>
    walk = .error failure.kind ∨ Exhausted failure after

namespace Judged

variable {α β : Type} {step : Stateful Outline α} {outline : Outline}
  {walk : Except FaultKind Scope} {more : Scope → Except FaultKind Scope}
  {next : α → Stateful Outline β}

theorem bind (first : Judged step outline walk)
    (rest : ∀ value after, Judged (next value) after (more after.known)) :
    Judged (step >>= next) outline (walk >>= more) := by
  unfold Judged
  rw [ensures_bind]
  refine Ensures.mono first (fun value after ended => ?_) fun failure after failed => ?_
  · rw [ended]
    exact rest value after
  · rcases failed with fault | exhausted
    · rw [fault]
      exact Or.inl rfl
    · exact Or.inr exhausted

/-- A step of which the walk knows nothing. -/
theorem after (first : Judged step outline (.ok outline.known))
    (rest : ∀ value after, after.known = outline.known → Judged (next value) after walk) :
    Judged (step >>= next) outline walk := by
  unfold Judged
  rw [ensures_bind]
  refine Ensures.mono first (fun value after ended => ?_) fun failure after failed => ?_
  · exact rest value after (Except.ok.inj ended).symm
  · rcases failed with fault | exhausted
    · cases fault
    · exact Or.inr exhausted

/-- The step looks at its context. -/
theorem look {next : BuildContext → Stateful Outline β}
    (rest : Judged (next outline.context) outline walk) : Judged (scope >>= next) outline walk :=
  rest

/-- A last step of which the walk knows nothing. -/
theorem last (first : Judged step outline walk)
    (rest : ∀ value after, Judged (next value) after (.ok after.known)) :
    Judged (step >>= next) outline walk := by
  have same : walk >>= Except.ok = walk := by cases walk <;> rfl
  rw [← same]
  exact first.bind rest

/-- **A check of the compiler is a check of the walk.** -/
theorem check {outcome : Outcome α} {scope : Scope} {reads : List Variable}
    (decides : Outcome.Decides outcome (∀ v ∈ reads, scope.binds v = true))
    (rest : ∀ value, Judged (next value) outline walk) :
    Judged (ofOutcome outcome >>= next) outline (scope.require reads >>= fun _ => walk) := by
  unfold Scope.require
  cases outcome with
  | ok value =>
    rw [if_pos (show ∀ v ∈ reads, scope.binds v = true from decides)]
    exact rest value
  | error failure =>
    rw [if_neg decides.2]
    exact Or.inl (congrArg Except.error decides.1.symm)

end Judged

variable {outline : Outline}

theorem spend_judged : Judged spend outline (.ok outline.known) := by
  unfold Judged spend
  simp only [ensures_bind, ensures_get]
  cases handed : outline.ledger.ids.next with
  | ok supplied => exact rfl
  | error failure =>
    refine Or.inr ?_
    unfold IdSupply.next at handed
    split at handed
    · cases handed
    · rename_i full
      cases handed
      exact ⟨rfl, Nat.le_of_not_lt full⟩

theorem entryPointRoot_judged (name : String) :
    Judged (entryPointRoot name) outline (.ok outline.known) := by
  unfold entryPointRoot
  show Judged (if outline.ledger.entryPoints name = true then _ else _) _ _
  split
  · exact rfl
  · refine spend_judged.after fun _ after same => ?_
    rw [← same]
    exact rfl

theorem narrow_judged (source : Source) (type : ObjectType) :
    Judged (narrow source type) outline (.ok outline.known) := by
  unfold narrow
  show Judged (if outline.ledger.narrowed source type = true then _ else _) _ _
  split
  · exact rfl
  · refine spend_judged.after fun _ after same => ?_
    rw [← same]
    exact rfl

theorem extend_judged : Judged extend outline (.ok outline.known) := by
  refine spend_judged.after fun _ after same => ?_
  rw [← same]
  exact rfl

/-- A change of the context that binds nothing. -/
theorem modifyContext_judged (change : BuildContext → BuildContext)
    (kept : (change outline.context).bound = outline.context.bound) :
    Judged (modifyContext change) outline (.ok outline.known) := by
  show Except.ok outline.known = Except.ok (known { outline with context := change outline.context })
  unfold known
  rw [kept]

theorem bind_judged (v : Variable) :
    Judged (modifyContext fun context => context.bind v) outline (.ok (outline.known.bind v)) := by
  show Except.ok (outline.known.bind v) =
    Except.ok (known { outline with context := outline.context.bind v })
  simp [known, Scope.bind, BuildContext.bind]

theorem start_judged (needed : Bool) : Judged (start needed) outline (.ok outline.known) := by
  unfold start initialFact
  show Judged (if (needed && !outline.begun) = true then _ else _) _ _
  split
  · refine (entryPointRoot_judged _).after fun _ first same => ?_
    rw [← same]
    refine (narrow_judged _ _).after fun _ second same => ?_
    rw [← same]
    refine extend_judged.after fun _ third same => ?_
    rw [← same]
    exact modifyContext_judged _ rfl
  · exact rfl

/-- The type of a stream is that of its root, which the first to read it makes. -/
theorem streamRoot_ends (name : String) (type : ObjectType) :
    Ensures (streamRoot name type) outline
      (fun carried after => carried = (outline.known.streams name).getD type ∧
        after.known = { outline.known with
          streams := Function.update outline.known.streams name (some carried) })
      Exhausted := by
  unfold streamRoot
  rw [ensures_bind, ensures_get]
  cases fixed : outline.ledger.streams name with
  | some known =>
    have streams : outline.known.streams name = some known := fixed
    refine ⟨by rw [streams, Option.getD_some], ?_⟩
    rw [← streams, Function.update_eq_self]
  | none =>
    have streams : outline.known.streams name = none := fixed
    simp only [ensures_bind]
    refine Ensures.mono spend_judged (fun _ after same => ?_) fun failure after failed =>
      failed.resolve_left fun fault => by cases fault
    rw [streams, Option.getD_none, Except.ok.inj same]
    exact ⟨rfl, rfl⟩

/-- **The objects of a source.** -/
theorem readSource_judged (source : Source) (type : ObjectType) :
    Judged (readSource source type) outline (outline.known.read source type) := by
  unfold readSource
  cases source with
  | entryPoint name =>
    refine (entryPointRoot_judged name).after fun _ after same => ?_
    rw [← same]
    exact narrow_judged _ _
  | stream name =>
    unfold Judged
    rw [ensures_bind]
    refine (streamRoot_ends name type).mono (fun carried after ended => ?_) fun _ _ exhausted =>
      Or.inr exhausted
    obtain ⟨carries, same⟩ := ended
    show Judged _ after _
    cases known : outline.known.streams name with
    | none =>
      rw [known, Option.getD_none] at carries
      rw [Scope.read_new known, ← carries, ← same, if_pos rfl]
      exact rfl
    | some fixed =>
      rw [known, Option.getD_some] at carries
      subst carries
      -- the stream had a root, so nothing new is known about its type
      have kept : after.known = outline.known := by rw [same, ← known, Function.update_eq_self]
      rw [Scope.read_known known, ← kept]
      by_cases own : carried = type
      · rw [if_pos own, if_pos (Or.inl own.symm)]
        exact rfl
      · rw [if_neg own]
        by_cases accepts : carried.accepts type = true
        · rw [if_pos accepts, if_pos (Or.inr accepts)]
          exact narrow_judged _ _
        · rw [if_neg accepts, if_neg (not_or.mpr ⟨Ne.symm own, accepts⟩)]
          exact Or.inl rfl

/-! ### Patterns -/

/-- The constraints of a pattern are decided by what the walk knows. -/
theorem decides_meet {α : Type} {outcome : Outcome α} {leaf : Pattern}
    {singles : List SingleConstraint}
    (decides : Outcome.Decides outcome
      (∀ single ∈ singles, ∀ v ∈ single.reads, outline.context.Reads leaf.subject v))
    (all : ∀ single ∈ leaf.constraint.singles, single.reads ≠ [] → single ∈ singles)
    (only : ∀ single ∈ singles, single ∈ leaf.constraint.singles) :
    Outcome.Decides outcome
      (∀ v ∈ leaf.constraint.singles.flatMap SingleConstraint.reads,
        (outline.known.bind leaf.subject).binds v = true) := by
  refine decides.congr ⟨fun reads v member => ?_, fun binds single member v read => ?_⟩
  · obtain ⟨single, listed, read⟩ := List.mem_flatMap.mp member
    exact (binds_own outline leaf.subject v).mpr
      (reads single (all single listed (List.ne_nil_of_mem read)) v read)
  · exact (binds_own outline leaf.subject v).mp
      (binds v (List.mem_flatMap.mpr ⟨single, only single member, read⟩))

theorem filters_judged (singles : List SingleConstraint) :
    Judged (singles.forM fun _ => do let _ ← spend) outline (.ok outline.known) := by
  induction singles generalizing outline with
  | nil => exact rfl
  | cons single rest hypothesis =>
    show Judged ((do let _ ← spend) >>= fun _ => rest.forM fun _ => do let _ ← spend) _ _
    refine Judged.after (spend_judged.after fun _ after same => ?_) fun _ after same => ?_
    · rw [← same]
      exact rfl
    · rw [← same]
      exact hypothesis

theorem objects_judged (leaf : Pattern) :
    Judged (objects leaf) outline (outline.known.objects leaf) := by
  refine (readSource_judged leaf.source leaf.subject.type).bind fun _ after => ?_
  refine Judged.check (decides_meet (Classified.decides_partition _) (fun _ listed _ => listed)
    fun _ listed => listed) fun classified => ?_
  exact filters_judged classified.alpha

theorem bindResults_judged (bindings : List Binding) :
    Judged (modifyContext fun context => context.bindResults bindings) outline
      (.ok (bindings.foldl (fun known binding => known.bind binding.result) outline.known)) := by
  show Except.ok _ = Except.ok (known { outline with context := outline.context.bindResults bindings })
  congr 1
  induction bindings generalizing outline with
  | nil => rfl
  | cons binding rest hypothesis =>
    have one := Except.ok.inj (@bind_judged outline binding.result)
    rw [List.foldl_cons, one]
    exact hypothesis

/-- Parameters and bindings are decided by what the walk knows. -/
theorem decides_params (params : List Variable) (reader : String) :
    Outcome.Decides (params.mapM fun v => outline.context.requireOffset v reader)
      (∀ v ∈ params, outline.known.binds v = true) :=
  Outcome.decides_mapM fun v _ =>
    (BuildContext.decides_requireOffset v reader).congr (binds_known outline v).symm

/-- **The uses of a pattern.** -/
theorem use_judged (leaf : Pattern) : Judged (use leaf) outline (outline.known.pattern leaf) := by
  unfold use Scope.pattern
  cases leaf.use with
  | plain =>
    refine (objects_judged leaf).bind fun _ after => ?_
    refine extend_judged.after fun _ last same => ?_
    rw [← same]
    exact bind_judged leaf.subject
  | existential quantifier =>
    refine (objects_judged leaf).last fun _ after => ?_
    refine extend_judged.after fun _ last same => ?_
    rw [← same]
    exact modifyContext_judged _ rfl
  | accumulate bindings =>
    refine (objects_judged leaf).bind fun _ after => ?_
    exact (bindResults_judged bindings).last fun _ last => extend_judged
  | invoke invocation =>
    refine Judged.check (decides_params _ _) fun _ => ?_
    refine Judged.check (decides_meet (SingleConstraint.decides_bindAll _)
      (fun single listed reads => ?_) fun single listed => (List.mem_filter.mp listed).1) fun _ => ?_
    · rw [List.mem_filter, Bool.not_eq_true', SingleConstraint.isConstant, List.isEmpty_eq_false_iff]
      exact ⟨listed, reads⟩
    refine extend_judged.after fun _ last same => ?_
    rw [← same]
    exact bind_judged leaf.subject

/-- A frame is nothing to the walk. -/
theorem framed_judged {frame : String} {step : Stateful Outline Unit}
    {walk : Except FaultKind Scope}
    (inside : ∀ start : Outline, start.known = outline.known → Judged step start walk) :
    Judged (framed frame step) outline walk := by
  unfold framed
  refine (modifyContext_judged _ rfl).after fun _ start same => ?_
  exact (inside start same).last fun _ after => modifyContext_judged _ rfl

/-! ### Views and rules -/

mutual

/-- **A view.** -/
theorem condition_judged (view : Condition) (outline : Outline) :
    Judged (condition view) outline (outline.known.condition view) := by
  cases view with
  | pattern leaf =>
    refine (modifyContext_judged BuildContext.nextPattern rfl).after fun _ after same => ?_
    rw [← same]
    refine Judged.look (framed_judged fun start same => ?_)
    refine (start_judged leaf.needsTuple).after fun _ begun again => ?_
    rw [Scope.condition, ← same, ← again]
    exact use_judged leaf
  | and parts =>
    refine framed_judged fun start same => ?_
    rw [Scope.condition, ← same]
    exact conditions_judged parts start
  | or parts => exact framed_judged fun start same => Or.inl rfl
  | objectPath path => exact framed_judged fun start same => Or.inl rfl
termination_by structural view

theorem conditions_judged (parts : List Condition) (outline : Outline) :
    Judged (conditions parts) outline (outline.known.conditions parts) := by
  cases parts with
  | nil => exact rfl
  | cons part rest =>
    rw [Scope.conditions]
    exact (condition_judged part outline).bind fun _ after => conditions_judged rest after
termination_by structural parts

end

/-- **The terminal of a rule.** -/
theorem terminal_judged (whole : Rule) :
    Judged (terminal whole) outline
      (outline.known.require whole.consequence.bindings >>= fun _ => .ok outline.known) := by
  unfold terminal
  refine (modifyContext_judged _ rfl).after fun _ framed same => ?_
  rw [← same]
  refine Judged.check (decides_params _ _) fun _ => ?_
  refine spend_judged.after fun id after same => ?_
  rw [← same]
  exact rfl

/-- **A rule.** -/
theorem rule_judged (whole : Rule) :
    Judged (rule whole) outline (outline.known.rule whole) := by
  unfold rule Scope.rule
  refine (condition_judged whole.view outline).bind fun _ mid => ?_
  refine (start_judged true).after fun _ begun same => ?_
  rw [← same]
  exact terminal_judged whole

end Outline

namespace KnowledgeBase

variable {config : BuildConfig} {attempts : List (Rule × Outcome RuleHandle)} {kb : KnowledgeBase}

/-- The ids ran out while the rule was compiled. -/
def Exhausts (kb : KnowledgeBase) (rule : Rule) : Prop :=
  ∃ failure, (kb.addRule rule).outcome = .error failure ∧ failure.kind = .limit ∧
    IdSupply.bound ≤ (kb.addRule rule).after.builder.highWaterMark

/-- **The compiler accepts exactly the well-scoped rules.** In every history of a knowledge base,
as long as the ids last, adding a rule succeeds exactly if the walk finds no fault in it. Otherwise
its error is of the kind of the first fault. -/
theorem addRule_accepts_iff (grown : Grown config .standard attempts kb) {rule : Rule}
    (supplied : ¬ kb.Exhausts rule) :
    ((kb.addRule rule).outcome.isOk = true ↔ (kb.scope.rule rule).isOk = true) ∧
      ∀ failure, (kb.addRule rule).outcome = .error failure →
        kb.scope.rule rule = .error failure.kind := by
  have answer := grown.addRule_ledger rule
  have judged : Outline.Judged (Outline.rule rule) (kb.builder.ledger.opened rule)
    (kb.scope.rule rule) := Outline.rule_judged rule
  unfold Outline.Judged Ensures at judged
  unfold Ledger.addRule at answer
  cases ended : result (Outline.rule rule) (kb.builder.ledger.opened rule) with
  | mk outcome after =>
    rw [ended] at judged answer
    cases outcome with
    | ok terminal =>
      obtain ⟨returned, _⟩ := Prod.mk.inj answer
      rw [← returned, judged]
      exact ⟨Iff.rfl, fun _ fails => nomatch fails⟩
    | error failure =>
      obtain ⟨returned, left⟩ := Prod.mk.inj answer
      have used : (kb.addRule rule).after.builder.ledger.ids = after.ledger.ids := by
        rw [← left]
        split <;> rfl
      rcases judged with fault | ⟨limit, spent⟩
      · rw [← returned, fault]
        refine ⟨Iff.rfl, fun other fails => ?_⟩
        cases fails
        rfl
      · refine absurd ⟨_, returned.symm, limit, ?_⟩ supplied
        rw [← used] at spent
        exact spent

/-- A rule that reads a stream of persons, and one that reads it as pets and then a variable that
nothing binds. -/
def arrival : Rule where
  name := "arrival"
  salience := 0
  view := .pattern ((Pattern.of ⟨0, "p", .fact "Person"⟩ .plain).reading (.stream "arrivals"))
  consequence := ⟨[⟨0, "p", .fact "Person"⟩], fun _ => .ok ()⟩

def petArrival : Rule where
  name := "pet arrival"
  salience := 0
  view := .and [.pattern ((Pattern.of ⟨0, "p", .fact "Pet"⟩ .plain).reading (.stream "arrivals")),
    .pattern ((Pattern.of ⟨1, "q", .fact "Person"⟩ .plain).joining "older" ⟨2, "r", .fact "Person"⟩
      fun _ => .ok true)]
  consequence := ⟨[], fun _ => .ok ()⟩

/-- Of its two faults the first counts: the stream carries persons since the first rule. -/
theorem petArrival_unsupported :
    let kb := ((KnowledgeBase.new default .standard).addRule arrival).after
    ∃ failure, (kb.addRule petArrival).outcome = .error failure ∧ failure.kind = .unsupported ∧
      kb.scope.rule petArrival = .error failure.kind := by
  intro kb
  have grown : Grown default .standard _ kb := Grown.new.addRule arrival
  have fails : (match (kb.addRule petArrival).outcome with
    | .ok _ => false
    | .error failure => decide (failure.kind = .unsupported)) = true := by decide +kernel
  cases ended : (kb.addRule petArrival).outcome with
  | ok handle =>
    rw [ended] at fails
    cases fails
  | error failure =>
    rw [ended] at fails
    have kind : failure.kind = .unsupported := of_decide_eq_true fails
    have supplied : ¬ kb.Exhausts petArrival := by
      rintro ⟨other, answer, limit, _⟩
      rw [ended] at answer
      cases answer
      rw [kind] at limit
      cases limit
    exact ⟨failure, rfl, kind, (addRule_accepts_iff grown supplied).2 failure ended⟩

end KnowledgeBase

end RuleNet
