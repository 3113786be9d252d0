/-
**The outline of a compilation.**

What a rule compiles to depends on how nodes are shared. Whether it compiles, where it fails, and
which ids its nodes are asked for under, does not. The outline is the compiler without the network:
it looks at a ledger of what was made before, hands out ids, and checks what the compiler checks.

* `Ledger`: what a builder made so far, apart from how its nodes are linked;
* `Outline`: the ledger and the context half way through a rule;
* `Outline.rule`: the compiler, on outlines;
* `Outline.use_undisturbed`: what a pattern leaves as it was;
* `Ledger.addRule`: **the answer to a rule**, and the ledger afterwards.
-/

import RuleNet.Proofs.Build.Places
import RuleNet.Proofs.Build.Step
import RuleNet.Proofs.Network.Growth

namespace RuleNet

open Stateful

/-! ### Ledgers -/

/-- **What was made so far.** -/
@[ext]
structure Ledger where
  ids : IdSupply
  /-- The number of rules compiled, successfully or not. -/
  compiled : Nat
  /-- An entry point has a root. -/
  entryPoints : String → Bool
  /-- The type of a stream that has a root. -/
  streams : String → Option ObjectType
  /-- The root of a source is narrowed to a type. -/
  narrowed : Source → ObjectType → Bool
  /-- The terminals, oldest first. -/
  terminals : List NodeId

/-- The registered root of a source. -/
def Builder.root? (builder : Builder) : Source → Option NodeId
  | .entryPoint name => builder.entryPoints.get? name
  | .stream name => builder.streams.get? name

/-- **The ledger of a builder.** -/
def Builder.ledger (builder : Builder) : Ledger where
  ids := builder.ids
  compiled := builder.compiled
  entryPoints name := (builder.entryPoints.get? name).isSome
  streams name := (builder.streams.get? name).bind builder.network.streamType?
  narrowed source type :=
    ((builder.root? source).bind fun root => builder.network.objectTypeNode? root type).isSome
  terminals := builder.network.terminalsMade

/-- The ledger of a builder without rules. -/
def Ledger.empty : Ledger :=
  ⟨.full, 0, fun _ => false, fun _ => none, fun _ _ => false, []⟩

/-! ### Outlines -/

/-- **The state of an outline.** -/
structure Outline where
  ledger : Ledger
  /-- The context, in which no cursor is set. -/
  context : BuildContext
  /-- There is a tuple cursor. -/
  begun : Bool

/-- The context without its cursors. -/
def BuildContext.erased (context : BuildContext) : BuildContext :=
  { context with
    objectCursor := none, tupleCursor := none, entryPoint := none, rootObjectType := none }

/-- **The outline of a bench.** -/
def Workbench.outline (bench : Workbench) : Outline :=
  ⟨bench.builder.ledger, bench.context.erased, bench.context.tupleCursor.isSome⟩

namespace Outline

/-- A computed outcome is returned or thrown. -/
def ofOutcome {α : Type} (outcome : Outcome α) : Stateful Outline α :=
  match outcome with
  | .ok value => pure value
  | .error failure => throw failure

def scope : Stateful Outline BuildContext := do
  return (← get).context

def modifyContext (change : BuildContext → BuildContext) : Stateful Outline Unit :=
  modify fun outline => { outline with context := change outline.context }

def modifyLedger (change : Ledger → Ledger) : Stateful Outline Unit :=
  modify fun outline => { outline with ledger := change outline.ledger }

/-! ### Nodes -/

/-- **Hands out the id of a node.** -/
def spend : Stateful Outline NodeId := do
  let (id, ids) ← ofOutcome (← get).ledger.ids.next
  modifyLedger fun ledger => { ledger with ids := ids }
  return id

/-- The root of an entry point, made on first use. -/
def entryPointRoot (name : String) : Stateful Outline Unit := do
  if (← get).ledger.entryPoints name then pure ()
  else
    let _ ← spend
    modifyLedger fun ledger =>
      { ledger with entryPoints := Function.update ledger.entryPoints name true }

/-- The root of a stream, made on first use. Answers with the type that the stream carries. -/
def streamRoot (name : String) (type : ObjectType) : Stateful Outline ObjectType := do
  match (← get).ledger.streams name with
  | some carried => pure carried
  | none =>
    let _ ← spend
    modifyLedger fun ledger =>
      { ledger with streams := Function.update ledger.streams name (some type) }
    pure type

/-- The node that narrows a source to a type, made on first use. -/
def narrow (source : Source) (type : ObjectType) : Stateful Outline Unit := do
  if (← get).ledger.narrowed source type then pure ()
  else
    let _ ← spend
    modifyLedger fun ledger =>
      { ledger with
        narrowed := fun other kind => ledger.narrowed other kind || (other = source && kind = type) }

/-- A node that gives tuples. -/
def extend : Stateful Outline Unit := do
  let _ ← spend
  modify fun outline => { outline with begun := true }

/-! ### Patterns -/

def initialFact : Stateful Outline Unit := do
  entryPointRoot defaultEntryPoint
  narrow (.entryPoint defaultEntryPoint) .initialFact
  extend
  modifyContext BuildContext.reserve

/-- Starts the match with the initial fact, where one is needed and there is none. -/
def start (needed : Bool) : Stateful Outline Unit := do
  if needed && !(← get).begun then initialFact else pure ()

/-- A stream is read as its own type, or as a narrower one. -/
def readSource (source : Source) (type : ObjectType) : Stateful Outline Unit :=
  match source with
  | .entryPoint name => do
    entryPointRoot name
    narrow (.entryPoint name) type
  | .stream name => do
    let carried ← streamRoot name type
    if carried = type then pure ()
    else if carried.accepts type then narrow (.stream name) type
    else throw ⟨.unsupported (.streamType name carried type), none⟩

/-- The source of a pattern, and a filter for each constraint of its own. -/
def objects (pattern : Pattern) : Stateful Outline Unit := do
  readSource pattern.source pattern.subject.type
  let classified ← ofOutcome
    (Classified.partition pattern.subject (← scope) pattern.constraint.singles)
  classified.alpha.forM fun _ => do
    let _ ← spend

/-- What a pattern does once the match is started. -/
def use (pattern : Pattern) : Stateful Outline Unit :=
  match pattern.use with
  | .plain => do
    objects pattern
    extend
    modifyContext fun context => context.bind pattern.subject
  | .existential _ => do
    objects pattern
    extend
    modifyContext BuildContext.reserve
  | .accumulate bindings => do
    objects pattern
    modifyContext fun context => context.bindResults bindings
    extend
  | .invoke invocation => do
    let known ← scope
    let _ ← ofOutcome
      (invocation.params.mapM fun param => known.requireOffset param invocation.key)
    let _ ← ofOutcome (SingleConstraint.bindAll
      (pattern.constraint.singles.filter fun single => !single.isConstant) pattern.subject known)
    extend
    modifyContext fun context => context.bind pattern.subject

/-- Runs a step inside a frame. -/
def framed (frame : String) (step : Stateful Outline Unit) : Stateful Outline Unit := do
  modifyContext fun context => context.pushFrame frame
  step
  modifyContext BuildContext.popFrame

mutual

/-- **The outline of a view**, from left to right. -/
def condition : Condition → Stateful Outline Unit
  | .pattern leaf => do
    modifyContext BuildContext.nextPattern
    framed (leaf.frame (← scope).patterns) (do start leaf.needsTuple; use leaf)
  | .and parts => framed "and" (conditions parts)
  | .or _ => framed "or" (throw ⟨.unsupported .disjunction, none⟩)
  | .objectPath path => framed "object-path" (throw ⟨.unsupported (.objectPath path.root), none⟩)
termination_by structural view => view

def conditions : List Condition → Stateful Outline Unit
  | [] => pure ()
  | part :: rest => do
    condition part
    conditions rest
termination_by structural parts => parts

end

/-- The terminal of a rule. -/
def terminal (rule : Rule) : Stateful Outline NodeId := do
  modifyContext fun context => context.pushFrame "consequence"
  let known ← scope
  let _ ← ofOutcome
    (rule.consequence.bindings.mapM fun v => known.requireOffset v "consequence")
  let id ← spend
  modifyLedger fun ledger => { ledger with terminals := ledger.terminals ++ [id] }
  modifyContext BuildContext.popFrame
  return id

/-- **The outline of a rule.** -/
def rule (rule : Rule) : Stateful Outline NodeId := do
  condition rule.view
  start true
  terminal rule

/-! ### What a pattern leaves as it was -/

section

variable {property : Outline → Prop}

theorem ofOutcome_keeps {α : Type} (outcome : Outcome α) : Keeps property (ofOutcome outcome) := by
  cases outcome with
  | ok value => exact keeps_pure value
  | error failure => exact keeps_throw failure

theorem get_keeps : Keeps property (get : Stateful Outline Outline) :=
  fun _ held => held

theorem scope_keeps : Keeps property scope :=
  fun _ held => held

end

/-- **The terminals, the place and the number of patterns are as they were.** A pattern that is
counted and has its frame changes none of them, however it ends. -/
def Undisturbed (begin outline : Outline) : Prop :=
  outline.ledger.terminals = begin.ledger.terminals ∧
    outline.context.place = begin.context.place ∧
    outline.context.patterns = begin.context.patterns

variable {begin : Outline}

/-- What depends on nothing else is kept. -/
theorem keeps_of_undisturbed {α : Type} {step : Stateful Outline α} {property : Outline → Prop}
    (quiet : ∀ begin, Keeps (Undisturbed begin) step)
    (lasts : ∀ begin after, Undisturbed begin after → property begin → property after) :
    Keeps property step :=
  fun start held => (quiet start start ⟨rfl, rfl, rfl⟩).mono
    (fun _ after same => lasts start after same held)
    fun _ after same => lasts start after same held

theorem spend_undisturbed : Keeps (Undisturbed begin) spend :=
  keeps_bind get_keeps fun _ => keeps_bind (ofOutcome_keeps _) fun _ _ held => held

theorem entryPointRoot_undisturbed (name : String) :
    Keeps (Undisturbed begin) (entryPointRoot name) := by
  refine keeps_bind get_keeps fun known => ?_
  split
  · exact keeps_pure _
  · exact keeps_bind spend_undisturbed fun _ _ held => held

theorem streamRoot_undisturbed (name : String) (type : ObjectType) :
    Keeps (Undisturbed begin) (streamRoot name type) := by
  refine keeps_bind get_keeps fun known => ?_
  split
  · exact keeps_pure _
  · exact keeps_bind spend_undisturbed fun _ _ held => held

theorem narrow_undisturbed (source : Source) (type : ObjectType) :
    Keeps (Undisturbed begin) (narrow source type) := by
  refine keeps_bind get_keeps fun known => ?_
  split
  · exact keeps_pure _
  · exact keeps_bind spend_undisturbed fun _ _ held => held

theorem extend_undisturbed : Keeps (Undisturbed begin) extend :=
  keeps_bind spend_undisturbed fun _ _ held => held

theorem start_undisturbed (needed : Bool) : Keeps (Undisturbed begin) (start needed) := by
  refine keeps_bind get_keeps fun known => ?_
  split
  · refine keeps_bind (entryPointRoot_undisturbed _) fun _ => ?_
    refine keeps_bind (narrow_undisturbed _ _) fun _ => keeps_bind extend_undisturbed fun _ => ?_
    exact fun _ held => held
  · exact keeps_pure _

theorem readSource_undisturbed (source : Source) (type : ObjectType) :
    Keeps (Undisturbed begin) (readSource source type) := by
  cases source with
  | entryPoint name =>
    exact keeps_bind (entryPointRoot_undisturbed name) fun _ => narrow_undisturbed _ _
  | stream name =>
    refine keeps_bind (streamRoot_undisturbed name type) fun carried => ?_
    split
    · exact keeps_pure _
    · split
      · exact narrow_undisturbed _ _
      · exact keeps_throw _

theorem objects_undisturbed (leaf : Pattern) : Keeps (Undisturbed begin) (objects leaf) := by
  refine keeps_bind (readSource_undisturbed _ _) fun _ => keeps_bind scope_keeps fun known => ?_
  refine keeps_bind (ofOutcome_keeps _) fun classified => keeps_forM fun _ _ => ?_
  exact keeps_bind spend_undisturbed fun _ => keeps_pure _

theorem bindResults_undisturbed (bindings : List Binding) :
    Keeps (Undisturbed begin) (modifyContext fun context => context.bindResults bindings) := by
  intro start held
  show Undisturbed begin { start with context := start.context.bindResults bindings }
  induction bindings generalizing start with
  | nil => exact held
  | cons binding rest hypothesis =>
    exact hypothesis { start with context := start.context.bind binding.result } held

theorem use_undisturbed (leaf : Pattern) : Keeps (Undisturbed begin) (use leaf) := by
  unfold use
  cases leaf.use with
  | plain | existential =>
    refine keeps_bind (objects_undisturbed leaf) fun _ => keeps_bind extend_undisturbed fun _ => ?_
    exact fun _ held => held
  | accumulate bindings =>
    refine keeps_bind (objects_undisturbed leaf) fun _ => ?_
    exact keeps_bind (bindResults_undisturbed _) fun _ => extend_undisturbed
  | invoke invocation =>
    refine keeps_bind scope_keeps fun known => keeps_bind (ofOutcome_keeps _) fun _ => ?_
    refine keeps_bind (ofOutcome_keeps _) fun _ => keeps_bind extend_undisturbed fun _ => ?_
    exact fun _ held => held

end Outline

/-! ### Adding rules -/

namespace Ledger

/-- The compilation of a rule is counted, and starts with a new context. -/
def opened (ledger : Ledger) (rule : Rule) : Outline :=
  ⟨{ ledger with compiled := ledger.compiled + 1 }, .new rule.name, false⟩

/-- **The answer to a rule, and the ledger afterwards.** A rule that fails leaves what it made, or
only uses up ids. -/
def addRule (ledger : Ledger) (rollback : Bool) (rule : Rule) : Outcome RuleHandle × Ledger :=
  match result (Outline.rule rule) (ledger.opened rule) with
  | (.ok terminal, after) =>
    (.ok ⟨rule.name, rule.salience, terminal, after.ledger.compiled⟩, after.ledger)
  | (.error failure, after) =>
    (.error (failure.located after.context.place),
      if rollback then { ledger with ids := after.ledger.ids, compiled := after.ledger.compiled }
      else after.ledger)

/-- The answers to several rules, one after the other, and the ledger afterwards. -/
def addRules (rollback : Bool) : Ledger → List Rule → List (Rule × Outcome RuleHandle) × Ledger
  | ledger, [] => ([], ledger)
  | ledger, rule :: rest =>
    let (answer, after) := ledger.addRule rollback rule
    let (answers, last) := addRules rollback after rest
    ((rule, answer) :: answers, last)

end Ledger

end RuleNet
