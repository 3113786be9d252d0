/-
**What a rule matches, read off its view.**

A view is matched without a network: its patterns are taken from left to right, and each partial
match is extended by the objects that meet the pattern's constraints. Variables are looked up by
name, there are no places, no classes of constraints and no nodes.

* `Match`: a partial match, with the values of its variables;
* `Pattern.extensions`: what one pattern makes of a partial match;
* `Condition.matching`: **the matches of a view**, in order.

A callback that fails passes for one that says no, or that has no result. Where none fails, this is
what the network returns.
-/

import RuleNet.Condition.View
import RuleNet.Match.Operator
import RuleNet.Proofs.Callback.Loops

namespace RuleNet

/-- A partial match, and what its variables stand for. -/
structure Match where
  token : Token
  /-- In the order they were bound. -/
  known : List (Variable × Value)

namespace Match

/-- The match before the first pattern. -/
def empty : Match :=
  ⟨⟨[], []⟩, []⟩

/-- The value that a variable was bound to first. -/
def value? (found : Match) (v : Variable) : Option Value :=
  (found.known.find? fun entry => entry.1.same v).map Prod.snd

/-- **What a constraint reads**: the object for the pattern's own variable, and for any other
variable the value it was bound to first. -/
def read (found : Match) (own : Variable) (object : Value) (v : Variable) : Option Value :=
  if v.same own then some object else found.value? v

/-- A variable is bound to one more value. -/
def bind (found : Match) (v : Variable) (value : Value) (handle : Option Handle) : Match :=
  ⟨found.token.extend value handle, found.known ++ [(v, value)]⟩

/-- Variables are bound to results, which have no handles. -/
def bindAll (found : Match) (bindings : List Binding) (results : List Value) : Match :=
  ⟨{ found.token with values := found.token.values ++ results },
    found.known ++ (bindings.map Binding.result).zip results⟩

/-- Nil is added, which no variable names. -/
def reserve (found : Match) : Match :=
  ⟨found.token.extend .nil none, found.known⟩

end Match

/-! ### Constraints -/

/-- A constraint of a pattern is tested for an object and the match so far. -/
def SingleConstraint.test (single : SingleConstraint) (own : Variable) (found : Match)
    (object : Value) : Traced Bool :=
  single.predicate.test (single.reads.filterMap (found.read own object))

namespace Pattern

variable (pattern : Pattern) (memory : WorkingMemory)

/-- **Every constraint that reads a variable holds.** -/
def admits (found : Match) (object : Value) : Bool :=
  pattern.constraint.singles.all fun single =>
    single.isConstant || (single.test pattern.subject found object).holds

/-- The objects of the pattern's source and type that extend a match, in order. -/
def admitted (found : Match) : List Held :=
  (memory.objects pattern.source).filter fun held =>
    pattern.subject.type.accepts held.value.objectType && pattern.admits found held.value

/-- The values that an invocation derives from a match. -/
def derived (invocation : Invocation) (found : Match) : Outcome (List Value) := do
  let result ← invocation.body (invocation.params.filterMap found.value?)
  Operator.candidates invocation result

/-- The results of aggregate functions over objects. -/
def folded (bindings : List Binding) (objects : List Held) : Outcome (List Value) :=
  bindings.mapM fun binding => (binding.function.run (objects.map Held.value)).outcome

/-- **What a pattern makes of a match**: one match for each object, or one padded match if there is
an object, or if there is none, or one match with all results, or one for each derived value. -/
def extensions (found : Match) : List Match :=
  match pattern.use with
  | .plain => (pattern.admitted memory found).map fun held =>
      found.bind pattern.subject held.value (some held.handle)
  | .existential .present =>
    if (pattern.admitted memory found).isEmpty then [] else [found.reserve]
  | .existential .absent =>
    if (pattern.admitted memory found).isEmpty then [found.reserve] else []
  | .accumulate bindings =>
    match folded bindings (pattern.admitted memory found) with
    | .ok results => [found.bindAll bindings results]
    | .error _ => []
  | .invoke invocation =>
    match derived invocation found with
    | .ok values => (values.filter (pattern.admits found)).map fun value =>
        found.bind pattern.subject value none
    | .error _ => []

end Pattern

/-! ### Views -/

/-- The initial facts of the default entry point, one match each. -/
def initialMatches (memory : WorkingMemory) : List Match :=
  ((memory.objects (.entryPoint defaultEntryPoint)).filter fun held =>
    ObjectType.accepts .initialFact held.value.objectType).map fun held =>
      ⟨Token.ofHeld held, []⟩

/-- **Where matching starts**: from nothing if the first pattern is plain, else from the initial
facts. -/
def startingMatches (memory : WorkingMemory) : List Pattern → List Match
  | [] => initialMatches memory
  | first :: _ => if first.needsTuple then initialMatches memory else [.empty]

/-- Patterns extend matches, one after the other. -/
def extendAll (memory : WorkingMemory) (patterns : List Pattern) (found : List Match) :
    List Match :=
  patterns.foldl (fun found pattern => found.flatMap (pattern.extensions memory)) found

/-- **The matches of a view**, in order. -/
def Condition.matching (view : Condition) (memory : WorkingMemory) : List Match :=
  extendAll memory view.patterns (startingMatches memory view.patterns)

end RuleNet
