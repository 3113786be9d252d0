/-
**The build context between patterns.**

A view is compiled pattern by pattern, on a context and a network that change with each. Between two
patterns both are as the next one needs them, whatever the patterns are used for, and whether or not
the view compiles in the end.

* `Build.steps`: **the patterns of a view that compile**, each with the bench before and after it;
* `Upright`: what holds between patterns, of the bench and all that the network gives;
* `pattern_upright`, `steps_upright`: one pattern keeps it, so it holds before and after each;
* `Poised`: what a maintainer may rely on after a pattern;
* `PatternStep.Consistent`: the same, beside what the pattern found;
* `Grown.context_consistent`: **in every history all steps of a compilation are consistent**, and no
  rule meets a fault of the compiler itself.
-/

import RuleNet.Proofs.Build.Faults
import RuleNet.Proofs.Build.Lineage
import RuleNet.Proofs.Build.Readers

namespace RuleNet

open Stateful

/-! ### Steps -/

/-- **A pattern that compiled**, with the bench before and after it. -/
structure PatternStep where
  leaf : Pattern
  before : Workbench
  after : Workbench

namespace PatternStep

/-- The step is one of the compiler. -/
def Compiles (step : PatternStep) : Prop :=
  result (Build.condition (.pattern step.leaf)) step.before = (.ok (), step.after)

/-- The bench on which the pattern itself is compiled: it is counted, and its frame pushed. -/
def inside (step : PatternStep) : Workbench :=
  let counted := step.before.context.nextPattern
  { step.before with context := counted.pushFrame (step.leaf.frame counted.patterns) }

end PatternStep

namespace Build

mutual

/-- **The patterns of a view that compile**, one after the other. The first failure ends the
compilation. -/
def steps : Condition → Workbench → List PatternStep
  | .pattern leaf, before =>
    match result (condition (.pattern leaf)) before with
    | (.ok _, after) => [⟨leaf, before, after⟩]
    | (.error _, _) => []
  | .and parts, start =>
    stepsOf parts { start with context := start.context.pushFrame "and" }
  | .or _, _ => []
  | .objectPath _, _ => []
termination_by structural view => view

def stepsOf : List Condition → Workbench → List PatternStep
  | [], _ => []
  | part :: rest, start =>
    steps part start ++
      match result (condition part) start with
      | (.ok _, mid) => stepsOf rest mid
      | (.error _, _) => []
termination_by structural parts => parts

end

mutual

/-- **The steps are those of the first patterns**, and of all patterns if the view compiles. -/
theorem condition_steps (view : Condition) (bench : Workbench) :
    Ensures (condition view) bench
      (fun _ _ => (steps view bench).map PatternStep.leaf = view.patterns)
      fun _ _ => (steps view bench).map PatternStep.leaf <+: view.patterns := by
  cases view with
  | pattern leaf =>
    unfold Ensures
    rw [steps]
    cases result (condition (.pattern leaf)) bench with
    | mk outcome after =>
      cases outcome with
      | ok _ => rfl
      | error _ => exact List.nil_prefix
  | and parts =>
    rw [condition, steps, Condition.patterns]
    unfold framed
    simp only [ensures_bind, ensures_modifyContext]
    exact conditions_steps parts _
  | or _ => exact List.nil_prefix
  | objectPath _ => exact List.nil_prefix
termination_by structural view

theorem conditions_steps (parts : List Condition) (bench : Workbench) :
    Ensures (conditions parts) bench
      (fun _ _ => (stepsOf parts bench).map PatternStep.leaf = Condition.patternsOf parts)
      fun _ _ => (stepsOf parts bench).map PatternStep.leaf <+: Condition.patternsOf parts := by
  cases parts with
  | nil => rfl
  | cons part rest =>
    have first := condition_steps part bench
    rw [conditions, ensures_bind]
    unfold Ensures at first ⊢
    rw [stepsOf, Condition.patternsOf, List.map_append]
    cases ended : result (condition part) bench with
    | mk outcome mid =>
      rw [ended] at first
      cases outcome with
      | ok _ =>
        dsimp only at first ⊢
        rw [first]
        exact (conditions_steps rest mid).mono (fun _ _ same => by rw [same]) fun _ _ front =>
          (List.prefix_append_right_inj _).mpr front
      | error _ =>
        dsimp only at first ⊢
        rw [List.map_nil, List.append_nil]
        exact first.trans (List.prefix_append _ _)
termination_by structural parts

end

/-- However the compilation ends. -/
theorem steps_front (view : Condition) (bench : Workbench) :
    (steps view bench).map PatternStep.leaf <+: view.patterns := by
  have counted := condition_steps view bench
  unfold Ensures at counted
  cases ended : result (condition view) bench with
  | mk outcome after =>
    rw [ended] at counted
    cases outcome with
    | ok _ => exact counted ▸ List.prefix_rfl
    | error _ => exact counted

/-! ### Between patterns -/

/-- **What holds between patterns**, after some of them. -/
structure Upright (done : List Pattern) (bench : Workbench) : Prop where
  sound : bench.builder.Sound fun _ => True
  complete : bench.builder.Complete
  walked : Walked False bench.builder.network bench.context done
  placing : ∃ readers, Placing readers bench done
  between : Between bench
  descends : ∀ tuple, bench.context.tupleCursor = some tuple → Descends bench

variable {bench : Workbench} {done : List Pattern}

/-- A new context. -/
theorem Upright.new {name : String} (sound : bench.builder.Sound fun _ => True)
    (complete : bench.builder.Complete) (new : bench.context = .new name) : Upright [] bench := by
  have unset : bench.context.tupleCursor = none := by rw [new]; rfl
  have unset' : ∀ tuple, bench.context.tupleCursor ≠ some tuple := fun tuple => by simp [unset]
  refine ⟨sound, complete, ?_, ⟨bench.builder.readers, ?_, [], (List.append_nil _).symm, ?_⟩,
    ⟨complete.toLinked, ?_, fun tuple cursor => absurd cursor (unset' tuple)⟩,
    fun tuple cursor => absurd cursor (unset' tuple)⟩
  · rw [new]
    exact .new False _ name
  · simp [unset]
  · rw [new]
    exact .new name
  · rw [new]
    rfl

/-- Frames and the number of patterns met do not matter. -/
theorem upright_walks : Walks Upright fun _ => True where
  unframed _ _ upright :=
    { upright with
      walked := upright.walked.congr ⟨rfl, rfl, rfl⟩
      placing := upright.placing.imp fun _ placing => placing.congr ⟨rfl, rfl, rfl⟩
      between := upright.between.congr rfl rfl
      descends := fun tuple cursor => (upright.descends tuple cursor).congr rfl rfl rfl }
  halts _ := trivial

/-- **A pattern keeps it.** -/
theorem pattern_upright (leaf : Pattern) (upright : Upright done bench) :
    Ensures (pattern leaf) bench (fun _ after => Upright (done ++ [leaf]) after)
      fun _ _ => True := by
  have wants : leaf.Wants fun _ => True := ⟨fun _ _ => trivial, fun _ => trivial⟩
  obtain ⟨readers, placing⟩ := upright.placing
  have walks := @pattern_ends _ bench False done upright.sound False.elim leaf (fun _ _ => trivial)
    upright.walked
  have lasts := pattern_tracks complete_steady.upheld.tracked wants trivial bench upright.complete
  have outlines := pattern_outlined upright.between leaf
  refine ((((walks.both lasts).both (pattern_placed leaf placing)).both outlines).both
    (pattern_descends upright.complete leaf upright.descends)).mono (fun _ after ended => ?_)
    fun _ _ _ => trivial
  obtain ⟨⟨⟨⟨⟨advances, walked⟩, complete⟩, placing⟩, _, _, matched⟩, descends⟩ := ended
  exact ⟨advances.sound, complete, walked, ⟨readers, placing⟩, matched.toBetween,
    fun _ _ => descends⟩

/-- **So does a view**, for all its patterns. -/
theorem condition_upright (view : Condition) (upright : Upright done bench) :
    Ensures (condition view) bench (fun _ after => Upright (done ++ view.patterns) after)
      fun _ _ => True :=
  upright_walks.condition view (fun leaf _ _ _ held => pattern_upright leaf held) done bench upright

/-! ### Before and after each pattern -/

mutual

/-- **It holds before every step of a view**, and the step is one of the compiler. -/
theorem steps_upright (view : Condition) {done : List Pattern} {bench : Workbench}
    (upright : Upright done bench) :
    ∀ step ∈ steps view bench, step.Compiles ∧ ∃ before, Upright before step.before := by
  cases view with
  | pattern leaf =>
    intro step member
    rw [steps] at member
    split at member
    · rename_i after ended
      rw [List.mem_singleton.mp member]
      exact ⟨ended, done, upright⟩
    · cases member
  | and parts =>
    rw [steps]
    exact stepsOf_upright parts (upright_walks.unframed _ _ upright)
  | or _ => exact fun _ member => nomatch member
  | objectPath _ => exact fun _ member => nomatch member
termination_by structural view

theorem stepsOf_upright (parts : List Condition) {done : List Pattern} {bench : Workbench}
    (upright : Upright done bench) :
    ∀ step ∈ stepsOf parts bench, step.Compiles ∧ ∃ before, Upright before step.before := by
  cases parts with
  | nil => exact fun _ member => nomatch member
  | cons part rest =>
    intro step member
    rw [stepsOf] at member
    rcases List.mem_append.mp member with here | later
    · exact steps_upright part upright step here
    · split at later
      · rename_i mid ended
        have passed := (condition_upright part upright).of_ok (congrArg Prod.fst ended)
        rw [ended] at passed
        exact stepsOf_upright rest passed step later
      · cases later
termination_by structural parts

end

end Build

/-! ### What a pattern leaves -/

/-- **What a maintainer may rely on after a pattern.** The objects are used up, and the tuple cursor
is on a node whose tuples have as many values as places are taken. Above the node, all object chains
reach a node of a known type, and the context knows the one above the adapter. Places rise, and are
those of the tuples. -/
structure Poised (bench : Workbench) : Prop where
  idle : bench.context.objectCursor = none
  tuples : ∃ tuple root typed, bench.context.tupleCursor = some tuple ∧
    bench.builder.network.Lineage root tuple bench.context.width ∧
    (∀ memory state, Evaluation.Reached bench.builder.network memory state → ∀ tokens,
      (result (bench.builder.network.tokens memory tuple) state).1 = .ok tokens →
        ∀ token ∈ tokens, token.width = bench.context.width) ∧
    bench.context.rootObjectType = some root ∧
    bench.builder.network.node? root = some typed ∧ typed.kind.isObjectTypeRoot = true
  rising : (bench.context.bound.map Prod.snd).Pairwise (· < ·)
  inRange : ∀ entry ∈ bench.context.bound, entry.2 < bench.context.width

/-- **The bench is poised once there was a pattern.** -/
theorem Build.Upright.poised {bench : Workbench} {done : List Pattern}
    (upright : Build.Upright done bench) (begun : done ≠ []) : Poised bench := by
  obtain ⟨_, _, _, _, placed⟩ := upright.placing
  obtain ⟨tuple, cursor⟩ := Option.ne_none_iff_exists'.mp (mt upright.walked.begun.mp begun)
  obtain ⟨own, root, width, set, known, lineage⟩ := upright.descends tuple cursor
  obtain rfl : own = tuple := Option.some.inj (set.symm.trans cursor)
  have layered := upright.sound.layered
  have stream := upright.walked.follows.stream own cursor
  obtain rfl : width = bench.context.width := by
    have same := (lineage.stream layered).symm.trans stream
    simpa using same
  obtain ⟨typed, found, kind⟩ := lineage.typed
  refine ⟨upright.between.idle, ⟨own, root, typed, cursor, lineage, ?_, known, found, kind⟩,
    placed.rising, placed.inRange⟩
  intro memory state reached tokens returned
  rw [reached.tokens_eq layered.distinct] at returned
  exact layered.tokens_width stream returned

/-- **What a pattern leaves, and what it found.** Its frame is popped again. Nothing was bound as
long as there was no tuple, so that a plain pattern which has an adapter made leaves out no
constraint: there is none between its object and a tuple. -/
structure PatternStep.Consistent (step : PatternStep) : Prop where
  poised : Poised step.after
  frames : step.after.context.frames = step.before.context.frames
  idle : step.before.context.objectCursor = none
  unbound : step.before.context.tupleCursor = none → step.before.context.bound = []
  whole : step.leaf.use = .plain → step.before.context.tupleCursor = none →
    ∀ constraints mid, result (Build.objects step.leaf) step.inside = (.ok constraints, mid) →
      constraints = []

namespace PatternStep

variable {step : PatternStep}

/-- The frame of a pattern that compiled is popped. -/
theorem frames_kept (compiles : step.Compiles) (between : Build.Between step.before) :
    step.after.context.frames = step.before.context.frames := by
  have outlined := Build.condition_outlined (.pattern step.leaf) step.before between
  have ended := Ensures.of_ok outlined (congrArg Prod.fst compiles)
  rw [compiles] at ended
  obtain ⟨answer, same, _⟩ := ended
  have stands := Outline.pattern_stands step.leaf
    (show Outline.Stands step.before.context.place step.before.context.patterns
      step.before.outline from ⟨rfl, rfl⟩)
  have left := stands.of_ok (congrArg Prod.fst same)
  rw [same] at left
  exact congrArg Place.frames left.1

/-- **A step is consistent** if the bench before it is upright. -/
theorem consistent {done : List Pattern} (compiles : step.Compiles)
    (upright : Build.Upright done step.before) : step.Consistent := by
  have ended := (Build.condition_upright (.pattern step.leaf) upright).of_ok
    (congrArg Prod.fst compiles)
  rw [compiles] at ended
  have unbound : step.before.context.tupleCursor = none → step.before.context.bound = [] :=
    fun unset => (upright.walked.follows.unstarted unset).2.1
  refine ⟨ended.poised (by simp [Condition.patterns]), frames_kept compiles upright.between,
    upright.between.idle, unbound, fun _ unset constraints mid read => ?_⟩
  have quiet := (Build.objects_quiet step.leaf step.inside).of_ok (congrArg Prod.fst read)
  obtain ⟨_, rfl, reads⟩ := quiet
  have bare : step.inside.context.bound = [] := unbound unset
  rw [Pattern.otherSingles_of_unbound bare reads, List.map_nil]

end PatternStep

/-! ### Histories -/

namespace KnowledgeBase

variable {config : BuildConfig} {attempts : List (Rule × Outcome RuleHandle)} {kb : KnowledgeBase}

/-- **The benches on which a view is compiled**, with a new context: by itself, or for a rule. -/
inductive Opens (kb : KnowledgeBase) : Workbench → Prop
  | view (name : String) (log : List LogLine) : Opens kb ⟨kb.builder, .new name, log⟩
  | rule (rule : Rule) : Opens kb (kb.opening rule)

/-- Such a bench is upright. -/
theorem Grown.upright (grown : Grown config .standard attempts kb) {start : Workbench}
    (opens : kb.Opens start) : Build.Upright [] start := by
  have sound : kb.builder.Sound fun _ => True := (grown.realizes fun _ _ => trivial).1
  cases opens with
  | view name log => exact .new sound grown.complete rfl
  | rule rule =>
    have complete := grown.opening_complete rule
    refine .new (sound.same complete.tidy ?_ rfl rfl rfl rfl).sound complete rfl
    show (Builder.opened _).network.nodes = _
    unfold Builder.opened
    split <;> rfl

/-- **The build context is consistent between patterns.** In every history of a knowledge base,
whatever view is compiled, by itself or for a rule: the patterns that compile are the first ones of
the view, all of them if the view compiles, and each leaves the context consistent. What a view or a
rule fails with is a fault of the rule, and none of the compiler itself. -/
theorem Grown.context_consistent (grown : Grown config .standard attempts kb) :
    (∀ start, kb.Opens start → ∀ view : Condition,
      (∀ step ∈ Build.steps view start, step.Compiles ∧ step.Consistent) ∧
      (Build.steps view start).map PatternStep.leaf <+: view.patterns ∧
      ((result (Build.condition view) start).1 = .ok () →
        (Build.steps view start).map PatternStep.leaf = view.patterns) ∧
      ∀ failure, (result (Build.condition view) start).1 = .error failure →
        failure.fault.OfRule ∧ ¬ failure.fault.Internal) ∧
    ∀ rule failure, (kb.addRule rule).outcome = .error failure →
      failure.fault.OfRule ∧ ¬ failure.fault.Internal := by
  refine ⟨fun start opens view => ?_, fun rule failure fails => ?_⟩
  · have upright := grown.upright opens
    refine ⟨fun step member => ?_, Build.steps_front view start,
      (Build.condition_steps view start).of_ok, fun failure fails => ?_⟩
    · obtain ⟨compiles, _, before⟩ := Build.steps_upright view upright step member
      exact ⟨compiles, PatternStep.consistent compiles before⟩
    · have ofRule := (Build.condition_ofRule upright.between view).of_error fails
      exact ⟨ofRule, ofRule.not_internal⟩
  · have ofRule := grown.addRule_ofRule fails
    exact ⟨ofRule, ofRule.not_internal⟩

/-- A rule of two patterns, beside one that gets no further than its first. -/
theorem twoPersons_consistent :
    let kb := ((KnowledgeBase.new default .standard).addRule everyPerson).after
    let steps := fun rule : Rule => Build.steps rule.view (kb.opening rule)
    ((steps twoPersons).map fun step => step.after.context.width) = [1, 2] ∧
      (∀ step ∈ steps twoPersons, step.Consistent) ∧
      (steps nestedElder).length = 1 ∧ (∀ step ∈ steps nestedElder, step.Consistent) ∧
      ∃ failure, (kb.addRule nestedElder).outcome = .error failure ∧ ¬ failure.fault.Internal := by
  intro kb steps
  have grown : Grown default .standard _ kb := Grown.new.addRule everyPerson
  obtain ⟨views, rules⟩ := Grown.context_consistent grown
  have every (rule : Rule) : ∀ step ∈ steps rule, step.Consistent := fun step member =>
    ((views _ (.rule rule) rule.view).1 step member).2
  have refused : (kb.addRule nestedElder).outcome.isOk = false := by decide +kernel
  refine ⟨by decide +kernel, every twoPersons, by decide +kernel, every nestedElder, ?_⟩
  cases ended : (kb.addRule nestedElder).outcome with
  | ok handle =>
    rw [ended] at refused
    cases refused
  | error failure => exact ⟨failure, rfl, (rules nestedElder failure ended).2⟩

end KnowledgeBase

end RuleNet
