/-
**The builder: the network that rules are compiled into, and the steps that grow it.**

A step works on a workbench: the builder, the context of the rule at hand, and the log. Nodes are
asked of the factory under fresh ids and attached to the arena, and each node a step ends at is
reported to the tracer.

* `Builder`: what lasts from rule to rule;
* `Build`: a step, which can fail. What it did before it failed stays done;
* `entryPointRoot`, `streamRoot`, `objectTypeNode`, `ensureAdapter`: the nodes that patterns share.
-/

import RuleNet.Build.Config
import RuleNet.Build.Context
import RuleNet.Build.Factory
import RuleNet.Network.Arena
import RuleNet.Network.Roots

namespace RuleNet

/-- A network under construction. -/
structure Builder where
  network : Network
  entryPoints : Roots
  streams : Roots
  ids : IdSupply
  factory : NodeFactory
  /-- What the factory was asked so far, newest first. -/
  requests : List NodeRequest
  config : BuildConfig
  tracer : Tracer
  /-- The number of rules compiled, successfully or not. -/
  compiled : Nat

namespace Builder

def new (config : BuildConfig) (factory : NodeFactory) : Builder where
  network := .empty
  entryPoints := .empty
  streams := .empty
  ids := .full
  factory := factory
  requests := []
  config := config
  tracer := .new config.tracer
  compiled := 0

/-- All ids are below this. -/
def highWaterMark (builder : Builder) : Nat :=
  builder.ids.nextIndex

def text (builder : Builder) : String :=
  "ReteBuilder \x7b " ++ ", ".intercalate
    ["nodes: " ++ toString builder.network.size,
      "entry_points: " ++ builder.entryPoints.text,
      "streams: " ++ builder.streams.text,
      "high_water_mark: " ++ toString builder.highWaterMark,
      "config: " ++ builder.config.text] ++ ", .. \x7d"

end Builder

/-- The builder at work on one rule. -/
structure Workbench where
  builder : Builder
  context : BuildContext
  /-- The lines written so far, oldest first. -/
  log : List LogLine

/-- A step of the builder. -/
abbrev Build (α : Type) := ExceptT Failure (StateM Workbench) α

namespace Build

/-! ### Basic steps -/

def fail {α : Type} (fault : Fault) : Build α :=
  throw ⟨fault, none⟩

/-- A step that only looks at the context. -/
def ofOutcome {α : Type} (outcome : Outcome α) : Build α :=
  match outcome with
  | .ok value => pure value
  | .error failure => throw failure

def context : Build BuildContext := do
  return (← get).context

def builder : Build Builder := do
  return (← get).builder

def modifyContext (change : BuildContext → BuildContext) : Build Unit :=
  modify fun bench => { bench with context := change bench.context }

def modifyBuilder (change : Builder → Builder) : Build Unit :=
  modify fun bench => { bench with builder := change bench.builder }

/-- Writes a line to the log. -/
def log (level : LogLevel) (text : String) : Build Unit :=
  modify fun bench => { bench with log := bench.log ++ [⟨level, text⟩] }

/-- A step of the tracer. -/
def trace (step : Tracer → Tracer × List LogLine) : Build Unit :=
  modify fun bench =>
    let result := step bench.builder.tracer
    { bench with
      builder := { bench.builder with tracer := result.1 }
      log := bench.log ++ result.2 }

/-- Reports an event to the tracer. -/
def report (event : BuildEvent) : Build Unit :=
  trace fun tracer => tracer.record event

/-! ### Making nodes -/

/-- Asks the factory for a node under the next id. -/
def request (kind : NodeKind) (tupleParent objectParent : Option NodeId) : Build Node := do
  let known ← builder
  let (id, ids) ← ofOutcome known.ids.next
  let wanted : NodeRequest := ⟨id, kind, objectParent, tupleParent⟩
  modifyBuilder fun builder => { builder with ids := ids, requests := wanted :: builder.requests }
  ofOutcome (known.factory.make known.requests wanted)

/-- **Attaches a node** and reports where it ended. -/
def place (node : Node) (share : Bool) : Build NodeId := do
  let known ← builder
  let (attached, network) ← ofOutcome (known.network.attach node share)
  modifyBuilder fun builder => { builder with network := network }
  let kind := node.kind.sort.text
  report (.ofNode attached.id kind attached.shared)
  log .trace ((if attached.shared then "reusing " else "created ") ++ kind ++ " node "
    ++ attached.id.text)
  return attached.id

/-! ### Nodes that patterns share -/

/-- **The root of an entry point**, made on first use. -/
def entryPointRoot (name : String) : Build NodeId := do
  match (← builder).entryPoints.get? name with
  | some root =>
    report (.nodeShared root NodeSort.entryPoint.text)
    return root
  | none =>
    let node ← request (.entryPoint name) none none
    let root ← place node false
    modifyBuilder fun builder =>
      { builder with entryPoints := builder.entryPoints.insert name root }
    log .debug ("entry point " ++ name ++ " rooted at " ++ root.text)
    return root

/-- **The root of a stream**, made with the given type on first use. -/
def streamRoot (name : String) (type : ObjectType) : Build NodeId := do
  match (← builder).streams.get? name with
  | some root =>
    report (.nodeShared root NodeSort.stream.text)
    return root
  | none =>
    let node ← request (.stream name type) none none
    let root ← place node false
    modifyBuilder fun builder => { builder with streams := builder.streams.insert name root }
    log .debug ("stream " ++ name ++ " of " ++ type.text ++ " rooted at " ++ root.text)
    return root

/-- **The node below a root that narrows to a type**, made on first use. -/
def objectTypeNode (root : NodeId) (type : ObjectType) : Build NodeId := do
  match (← builder).network.objectTypeNode? root type with
  | some existing =>
    report (.nodeShared existing NodeSort.objectType.text)
    return existing
  | none =>
    let node ← request (.objectType type) none (some root)
    place node true

/-- **The tuple cursor**, on an adapter at the object cursor if it is not set yet. -/
def ensureAdapter : Build NodeId := do
  let context ← context
  match context.tupleCursor with
  | some tuple => return tuple
  | none =>
    let object ← ofOutcome (context.requireObjectCursor "left-input adapter")
    match (← builder).network.objectTypeRoot object with
    | none => fail (.structural (.noObjectTypeAbove object))
    | some root =>
      modifyContext fun context => { context with rootObjectType := some root }
      let node ← request .adapter none (some object)
      let adapter ← place node (← builder).config.shareBeta
      report (.adapterInserted adapter root)
      modifyContext fun context => context.absorb adapter
      return adapter

end Build

end RuleNet
