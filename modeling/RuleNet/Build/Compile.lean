/-
**Compiling rules.**

The view of a rule is walked from left to right. For each pattern the compiler

1. starts the match with the initial fact, if the pattern must extend a match and there is none;
2. finds the root of the pattern's source and narrows it to the pattern's type;
3. hangs a filter below it for each constraint of the pattern's own variable;
4. adds one node that extends the tuples, or an adapter for the first plain pattern.

A terminal at the end fires the consequence.

* `Build.pattern`: one pattern;
* `Build.condition`: a view, with a frame for each condition on the way;
* `Builder.addRule`: a rule, taken out again if it fails and the configuration says so.
-/

import RuleNet.Build.Builder
import RuleNet.Build.Classify

namespace RuleNet

namespace Build

/-! ### Sources and filters -/

/-- **Starts the match with the initial fact**, which takes the first place of the tuple. -/
def initialFact : Build Unit := do
  let root ← entryPointRoot defaultEntryPoint
  modifyContext fun context => { context with entryPoint := some root }
  let narrowed ← objectTypeNode root .initialFact
  modifyContext fun context => context.setObjectCursor narrowed
  report (.initialFactInserted narrowed)
  let _ ← ensureAdapter
  modifyContext BuildContext.reserve

/-- The type that a stream's root was made with. -/
def streamType (name : String) (root : NodeId) : Build ObjectType := do
  match (← builder).network.node? root with
  | some { kind := .stream _ type, .. } => return type
  | _ => fail (.structural (.notStreamRoot name root))

/-- **Sets the object cursor on the objects that a pattern reads.** A stream is read as its own
type, or as a narrower one. -/
def readSource (source : Source) (type : ObjectType) : Build Unit := do
  match source with
  | .stream name =>
    let root ← streamRoot name type
    modifyContext fun context => { context with entryPoint := none, objectCursor := some root }
    let carried ← streamType name root
    if carried = type then return ()
    if carried.accepts type then
      let narrowed ← objectTypeNode root type
      modifyContext fun context => context.setObjectCursor narrowed
    else fail (.unsupported (.streamType name carried type))
  | .entryPoint name =>
    let root ← entryPointRoot name
    modifyContext fun context =>
      { context with entryPoint := some root, objectCursor := some root }
    let narrowed ← objectTypeNode root type
    modifyContext fun context => context.setObjectCursor narrowed

/-- Hangs a filter below the object cursor. -/
def filter (single : SingleConstraint) : Build Unit := do
  let parent ← ofOutcome ((← context).requireObjectCursor "alpha filter")
  let node ← request (.alpha single.predicate single.reads.length) none (some parent)
  let id ← place node (← builder).config.shareAlpha
  modifyContext fun context => context.setObjectCursor id

/-- Reports a constraint that is not built. -/
def skip (single : SingleConstraint) : Build Unit :=
  report (.constraintSkipped single.predicate.key)

/-- **The source of a pattern and its filters.** Answers with the constraints that are left, which
relate the object to the tuple. -/
def objects (pattern : Pattern) : Build (List BoundConstraint) := do
  readSource pattern.source pattern.subject.type
  let classified ← ofOutcome
    (Classified.partition pattern.subject (← context) pattern.constraint.singles)
  classified.constant.forM fun single => do
    log .trace ("skipping constant constraint " ++ single.predicate.key)
    skip single
  classified.alpha.forM filter
  ofOutcome (SingleConstraint.bindAll classified.beta pattern.subject (← context))

/-! ### Patterns -/

/-- Adds a node that extends the tuples, and moves the tuple cursor onto it. -/
def extend (kind : NodeKind) (tuple : NodeId) (object : Option NodeId) : Build Unit := do
  let node ← request kind (some tuple) object
  let id ← place node (← builder).config.shareBeta
  modifyContext fun context => context.absorb id

/-- Each object, alone or with each tuple. -/
def plain (subject : Variable) (constraints : List BoundConstraint) : Build Unit := do
  let context ← context
  match context.tupleCursor with
  | none =>
    let _ ← ensureAdapter
  | some tuple =>
    let object ← ofOutcome (context.requireObjectCursor "join")
    extend (.join constraints) tuple (some object)
  modifyContext fun context => context.bind subject

/-- Presence or absence of an object. It takes a place that has no name. -/
def existential (quantifier : Quantifier) (constraints : List BoundConstraint) : Build Unit := do
  let context ← context
  let tuple ← ofOutcome (context.requireTupleCursor quantifier.text)
  let object ← ofOutcome (context.requireObjectCursor quantifier.text)
  extend (.existential quantifier constraints) tuple (some object)
  modifyContext BuildContext.reserve

/-- Binds the result of one aggregate function. -/
def placeAggregate (binding : Binding) : Build PlacedAggregate := do
  let offset := (← context).width
  modifyContext fun context => context.bind binding.result
  return ⟨binding.function, offset⟩

/-- The folds of all objects. -/
def accumulate (bindings : List Binding) (constraints : List BoundConstraint) : Build Unit := do
  let known ← context
  let tuple ← ofOutcome (known.requireTupleCursor "accumulate")
  let object ← ofOutcome (known.requireObjectCursor "accumulate")
  let functions ← bindings.mapM placeAggregate
  extend (.accumulate constraints [] functions) tuple (some object)

/-- The values of a function. There is no object stream to filter, so all constraints that read a
variable are checked against the result. -/
def invoke (pattern : Pattern) (invocation : Invocation) : Build Unit := do
  let known ← context
  let tuple ← ofOutcome (known.requireTupleCursor "invocation")
  let args ← ofOutcome
    (invocation.params.mapM fun param => known.requireOffset param invocation.key)
  let singles := pattern.constraint.singles
  (singles.filter SingleConstraint.isConstant).forM skip
  let constraints ← ofOutcome (SingleConstraint.bindAll
    (singles.filter fun single => !single.isConstant) pattern.subject known)
  extend (.invoker invocation args constraints) tuple none
  modifyContext fun context => context.bind pattern.subject

/-- **Compiles a pattern.** -/
def pattern (pattern : Pattern) : Build Unit := do
  if pattern.needsTuple && (← context).tupleCursor.isNone then initialFact
  match pattern.use with
  | .plain => plain pattern.subject (← objects pattern)
  | .existential quantifier => existential quantifier (← objects pattern)
  | .accumulate bindings => accumulate bindings (← objects pattern)
  | .invoke invocation => invoke pattern invocation
  ofOutcome (← context).checkComplete

/-! ### Views -/

/-- Runs a step inside a frame. A step that fails leaves its frame, for the failure's place. -/
def framed (frame : String) (step : Build Unit) : Build Unit := do
  modifyContext fun context => context.pushFrame frame
  step
  modifyContext BuildContext.popFrame

mutual

/-- **Compiles a view**, from left to right. -/
def condition : Condition → Build Unit
  | .pattern leaf => do
    modifyContext BuildContext.nextPattern
    framed (leaf.frame (← context).patterns) (pattern leaf)
  | .and parts => framed "and" (conditions parts)
  | .or _ => framed "or" (fail (.unsupported .disjunction))
  | .objectPath path => framed "object-path" (fail (.unsupported (.objectPath path.root)))
termination_by structural view => view

def conditions : List Condition → Build Unit
  | [] => pure ()
  | part :: rest => do
    condition part
    conditions rest
termination_by structural parts => parts

end

/-- The terminal of a rule. It is never shared. -/
def terminal (rule : Rule) : Build NodeId := do
  modifyContext fun context => context.pushFrame "consequence"
  let context ← context
  let tuple ← ofOutcome (context.requireTupleCursor "terminal")
  let bindings ← ofOutcome
    (rule.consequence.bindings.mapM fun v => context.requireOffset v "consequence")
  let node ← request (.terminal ⟨rule.name, rule.salience, rule.consequence, bindings⟩)
    (some tuple) none
  let id ← place node false
  modifyContext BuildContext.popFrame
  return id

/-- **Compiles the view and the consequence of a rule.** A view without patterns matches the initial
fact. -/
def rule (rule : Rule) : Build NodeId := do
  condition rule.view
  if (← context).tupleCursor.isNone then initialFact
  ofOutcome (← context).checkComplete
  terminal rule

end Build

/-! ### Rules -/

/-- A rule of the network. -/
structure RuleHandle where
  name : String
  salience : Int
  terminal : NodeId
  /-- The number of the compilation that made it. -/
  sequence : Nat
deriving DecidableEq, Repr

namespace Builder

/-- Counts the compilation, and opens a transaction if a failure is to be undone. -/
def opened (builder : Builder) : Builder :=
  { builder with
    compiled := builder.compiled + 1
    network := if builder.config.rollback then builder.network.begin else builder.network }

/-- What follows a rule that compiled. -/
def completed (rule : Rule) (before : Nat) (terminal : NodeId) : Build RuleHandle := do
  Build.modifyBuilder fun builder => { builder with network := builder.network.commit }
  Build.report (.ruleComplete rule.name terminal)
  let builder ← Build.builder
  Build.log .debug ("rule " ++ rule.name ++ " compiled to terminal " ++ terminal.text ++ " ("
    ++ toString (builder.network.size - before) ++ " new node(s))")
  return ⟨rule.name, rule.salience, terminal, builder.compiled⟩

/-- What follows a rule that failed: its nodes are taken out again, with the roots among them, if
the configuration says so. -/
def failed (rule : Rule) (message : String) : Build Unit := do
  Build.report (.ruleFailed rule.name message)
  let builder ← Build.builder
  if builder.config.rollback then
    let (removed, network) := builder.network.rollback
    Build.modifyBuilder fun builder =>
      { builder with
        network := network
        entryPoints := builder.entryPoints.prune removed
        streams := builder.streams.prune removed }
    Build.report (.rolledBack rule.name removed.length)
    Build.log .warn ("rule " ++ rule.name ++ " failed, " ++ toString removed.length
      ++ " node(s) rolled back: " ++ message)
  else
    Build.log .warn ("rule " ++ rule.name ++ " failed, network left partially built: " ++ message)

/-- **Adds a rule.** Its failure carries the rule's name and the path to the condition at fault. -/
def addRule (rule : Rule) : Build RuleHandle := do
  Build.trace fun tracer => tracer.startRule rule.name
  Build.log .debug ("compiling rule " ++ rule.name)
  let before := (← Build.builder).network.size
  Build.modifyBuilder opened
  modify fun bench => { bench with context := .new rule.name }
  tryCatch (do
      let terminal ← Build.rule rule
      completed rule before terminal)
    fun failure => do
      let located := failure.located (← Build.context).place
      failed rule located.message
      throw located

end Builder

end RuleNet
