/-
**Knowledge bases: a compiled network together with its rules.**

* `KnowledgeBase.addRule`: a rule that compiles joins the list of rules, one that fails does not;
* `KnowledgeBase.addRules`: several rules, up to the first that fails;
* `entryPoint?`, `streamRoot?`, `rule?`: what the rules so far read, and the rules by name.
-/

import RuleNet.Build.Compile

namespace RuleNet

/-- The rules of a program, compiled. -/
structure KnowledgeBase where
  builder : Builder
  /-- In the order they were added. -/
  rules : List RuleHandle

/-- What came of a change: the answer, the changed thing, and the lines written to the log. -/
structure Change (σ α : Type) where
  outcome : Outcome α
  after : σ
  log : List LogLine

namespace KnowledgeBase

/-- A knowledge base without rules. -/
def new (config : BuildConfig) (factory : NodeFactory) : KnowledgeBase :=
  ⟨.new config factory, []⟩

def network (kb : KnowledgeBase) : Network :=
  kb.builder.network

/-- The root of an entry point that some rule reads. -/
def entryPoint? (kb : KnowledgeBase) (name : String) : Option NodeId :=
  kb.builder.entryPoints.get? name

/-- The root of a stream that some rule reads. -/
def streamRoot? (kb : KnowledgeBase) (name : String) : Option NodeId :=
  kb.builder.streams.get? name

/-- The first rule of a name. -/
def rule? (kb : KnowledgeBase) (name : String) : Option RuleHandle :=
  kb.rules.find? (·.name = name)

/-- **Adds a rule.** -/
def addRule (kb : KnowledgeBase) (rule : Rule) : Change KnowledgeBase RuleHandle :=
  let (answer, bench) := (Builder.addRule rule).run.run ⟨kb.builder, .new rule.name, []⟩
  let rules := match answer with
    | .ok handle => kb.rules ++ [handle]
    | .error _ => kb.rules
  ⟨answer, ⟨bench.builder, rules⟩, bench.log⟩

/-- Adds rules in order. The first that fails ends it, and those before it stay. -/
def addRules (kb : KnowledgeBase) : List Rule → Change KnowledgeBase (List RuleHandle)
  | [] => ⟨.ok [], kb, []⟩
  | rule :: rest =>
    let first := kb.addRule rule
    match first.outcome with
    | .error failure => ⟨.error failure, first.after, first.log⟩
    | .ok handle =>
      let others := addRules first.after rest
      ⟨others.outcome.map (handle :: ·), others.after, first.log ++ others.log⟩

/-- A step of the tracer. -/
def trace (kb : KnowledgeBase) (step : Tracer → Tracer × List LogLine) :
    Change KnowledgeBase Unit :=
  let (tracer, log) := step kb.builder.tracer
  ⟨.ok (), { kb with builder := { kb.builder with tracer := tracer } }, log⟩

end KnowledgeBase

end RuleNet
