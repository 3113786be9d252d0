/-
**What a rule matches, in the order in which the network finds out.**

The network first tests the constraints of a pattern's own variable, each over all objects of the
pattern's source, and then for every match the other constraints. This order decides which callback
fails first. Here it is written on the view, with failures.

* `Pattern.evaluate`: one pattern;
* `Condition.evaluate`: a view;
* `evaluate_of_ok`: **a view that evaluates without failure has the matches of the reference**;
* `blames_evaluate`: a view fails only through its own callbacks.
-/

import RuleNet.Proofs.Callback.Blame
import RuleNet.Proofs.Match.Reference

namespace RuleNet

/-! ### Patterns -/

namespace Pattern

variable (pattern : Pattern) (memory : WorkingMemory)

/-- The constraints that read only the pattern's own variable. -/
def ownSingles : List SingleConstraint :=
  pattern.constraint.singles.filter fun single =>
    !single.isConstant && single.reads.all (·.same pattern.subject)

/-- The constraints that read a variable of the match. -/
def otherSingles : List SingleConstraint :=
  pattern.constraint.singles.filter fun single => !single.reads.all (·.same pattern.subject)

/-- The constraints that read a variable. -/
def readingSingles : List SingleConstraint :=
  pattern.constraint.singles.filter fun single => !single.isConstant

/-- Filters hang below each other. -/
def filtered : List SingleConstraint → List Held → Traced (List Held)
  | [], objects => pure objects
  | single :: rest, objects => do
    let kept ← Operator.alphaObjects single.predicate single.reads.length objects
    filtered rest kept

/-- **The objects of the pattern's source and type that pass its own constraints.** -/
def candidates : Traced (List Held) :=
  filtered pattern.ownSingles (Operator.narrow pattern.subject.type (memory.objects pattern.source))

/-- Constraints are tested one after the other. -/
def passes (singles : List SingleConstraint) (found : Match) (object : Value) : Traced Bool :=
  Traced.all (fun single => single.test pattern.subject found object) singles

/-- The objects that a pattern needs. One that invokes a function needs none. -/
def supply : Traced (List Held) :=
  match pattern.use with
  | .invoke _ => pure []
  | _ => pattern.candidates memory

/-- What a pattern makes of one match, with the objects that it needs. -/
def extend (objects : List Held) (found : Match) : Traced (List Match) :=
  match pattern.use with
  | .plain => do
    let kept ← Traced.select
      (fun held => pattern.passes pattern.otherSingles found held.value) objects
    pure (kept.map fun held => found.bind pattern.subject held.value (some held.handle))
  | .existential quantifier => do
    let some ← Traced.any
      (fun held => pattern.passes pattern.otherSingles found held.value) objects
    let kept := match quantifier with
      | .present => some
      | .absent => !some
    pure (if kept then [found.reserve] else [])
  | .accumulate bindings => do
    let kept ← Traced.select
      (fun held => pattern.passes pattern.otherSingles found held.value) objects
    let results ← Traced.each
      (fun binding => binding.function.run (kept.map Held.value)) bindings
    pure [found.bindAll bindings results]
  | .invoke invocation => do
    let result ← invocation.call (invocation.params.filterMap found.value?)
    let values ← Traced.ofOutcome (Operator.candidates invocation result)
    let kept ← Traced.select
      (fun value => pattern.passes pattern.readingSingles found value) values
    pure (kept.map fun value => found.bind pattern.subject value none)

/-- **What a pattern makes of matches**, in the order of evaluation. -/
def evaluate (matching : List Match) : Traced (List Match) := do
  let objects ← pattern.supply memory
  Traced.expand (pattern.extend objects) matching

/-- The callbacks of a pattern. -/
def callbacks : List Callback :=
  pattern.constraint.singles.map (fun single => .predicate single.predicate) ++
    match pattern.use with
    | .accumulate bindings => bindings.map fun binding => .aggregate binding.function
    | .invoke invocation => [.invocation invocation]
    | _ => []

end Pattern

/-! ### Views -/

/-- Patterns are evaluated one after the other. -/
def evaluateAll (memory : WorkingMemory) : List Pattern → List Match → Traced (List Match)
  | [], found => pure found
  | pattern :: rest, found => do
    let extended ← pattern.evaluate memory found
    evaluateAll memory rest extended

/-- **A view in the order of evaluation.** -/
def Condition.evaluate (view : Condition) (memory : WorkingMemory) : Traced (List Match) :=
  evaluateAll memory view.patterns (startingMatches memory view.patterns)

/-- The callbacks of a rule. -/
def Rule.callbacks (rule : Rule) : List Callback :=
  rule.view.patterns.flatMap Pattern.callbacks

/-! ### The matches -/

namespace Pattern

variable {pattern : Pattern} {memory : WorkingMemory}

theorem evaluateOwn_eq (single : SingleConstraint)
    (own : single.reads.all (·.same pattern.subject) = true) (found : Match) (object : Value) :
    single.test pattern.subject found object =
      single.predicate.test (List.replicate single.reads.length object) := by
  unfold SingleConstraint.test
  congr 1
  have same := List.all_eq_true.mp own
  generalize single.reads = reads at same
  induction reads with
  | nil => rfl
  | cons v rest hypothesis =>
    have head : found.read pattern.subject object v = some object := by
      simp only [Match.read, same v List.mem_cons_self, if_true]
    rw [List.filterMap_cons_some head, List.length_cons, List.replicate_succ,
      hypothesis fun other member => same other (List.mem_cons_of_mem _ member)]

/-- Filters that succeed keep the objects that pass all of them. -/
theorem filtered_of_ok {singles : List SingleConstraint} {objects kept : List Held}
    (own : ∀ single ∈ singles, single.reads.all (·.same pattern.subject) = true) (found : Match)
    (succeeds : (filtered singles objects).outcome = .ok kept) :
    kept = objects.filter fun held =>
      singles.all fun single => (single.test pattern.subject found held.value).holds := by
  induction singles generalizing objects with
  | nil =>
    cases succeeds
    exact (List.filter_eq_self.mpr fun _ _ => rfl).symm
  | cons single rest hypothesis =>
    simp only [filtered, Traced.outcome_bind] at succeeds
    obtain ⟨first, here, others⟩ := Outcome.bind_eq_ok.mp succeeds
    rw [hypothesis (fun other member => own other (List.mem_cons_of_mem _ member)) others,
      Traced.select_of_ok here, List.filter_filter]
    refine List.filter_congr fun held _ => ?_
    rw [List.all_cons, evaluateOwn_eq single (own single List.mem_cons_self), Bool.and_comm]

/-- An object meets all constraints if it meets those of its own and the others. -/
theorem admits_eq (found : Match) (object : Value) :
    pattern.admits found object =
      ((pattern.ownSingles.all fun single => (single.test pattern.subject found object).holds) &&
        pattern.otherSingles.all fun single =>
          (single.test pattern.subject found object).holds) := by
  unfold admits ownSingles otherSingles
  induction pattern.constraint.singles with
  | nil => rfl
  | cons single rest hypothesis =>
    rw [List.all_cons, hypothesis, List.filter_cons, List.filter_cons]
    cases constant : single.isConstant with
    | true =>
      have empty : single.reads.all (·.same pattern.subject) = true := by
        rw [List.isEmpty_iff.mp constant]
        rfl
      simp [empty]
    | false =>
      cases single.reads.all (·.same pattern.subject) with
      | true => simp [Bool.and_assoc]
      | false => simp [Bool.and_left_comm]

theorem admits_eq_reading (found : Match) (object : Value) :
    pattern.admits found object =
      pattern.readingSingles.all fun single =>
        (single.test pattern.subject found object).holds := by
  unfold admits readingSingles
  rw [List.all_filter]
  congr 1
  funext single
  cases single.isConstant <;> simp

theorem holds_passes (singles : List SingleConstraint) (found : Match) (object : Value) :
    (pattern.passes singles found object).holds =
      singles.all fun single => (single.test pattern.subject found object).holds :=
  Traced.holds_all _ _

/-- **The first plain pattern** binds its variable to each of its objects. -/
theorem evaluate_first (plain : pattern.use = .plain) (alone : pattern.otherSingles = []) :
    (pattern.evaluate memory [.empty]).outcome = (pattern.candidates memory).outcome.map
      (List.map fun held => Match.empty.bind pattern.subject held.value (some held.handle)) := by
  have every : ∀ objects : List Held, (Traced.select (fun held =>
      pattern.passes [] .empty held.value) objects).outcome = .ok objects :=
    fun objects => Traced.select_always fun _ _ => rfl
  have step : ∀ objects, (Traced.expand (pattern.extend objects) [.empty]).outcome =
      .ok (objects.map fun held =>
        Match.empty.bind pattern.subject held.value (some held.handle)) := by
    intro objects
    have here : (pattern.extend objects .empty).outcome = .ok (objects.map fun held =>
        Match.empty.bind pattern.subject held.value (some held.handle)) := by
      simp only [extend, plain, alone, Traced.outcome_bind, every, Outcome.ok_bind,
        Traced.outcome_pure]
    rw [Traced.outcome_expand, List.mapM_cons, here, List.mapM_nil]
    simp [Except.map, pure, Except.pure]
  simp only [evaluate, supply, plain, Traced.outcome_bind, step]
  exact Outcome.bind_map_ok _

/-- Among the candidates, those that pass the other constraints are the admitted objects. -/
theorem admitted_eq {objects : List Held} (found : Match)
    (ready : (pattern.candidates memory).outcome = .ok objects) :
    (objects.filter fun held => (pattern.passes pattern.otherSingles found held.value).holds) =
      pattern.admitted memory found := by
  have own : ∀ single ∈ pattern.ownSingles,
      single.reads.all (·.same pattern.subject) = true := by
    intro single member
    have kept := (List.mem_filter.mp member).2
    rw [Bool.and_eq_true] at kept
    exact kept.2
  rw [filtered_of_ok own found ready, Operator.narrow, List.filter_filter, List.filter_filter]
  refine List.filter_congr fun held _ => ?_
  rw [holds_passes, admits_eq, Bool.and_comm]
  congr 1
  exact Bool.and_comm _ _

/-- **A pattern that evaluates without failure makes of each match what the reference says.** -/
theorem evaluate_of_ok {matching extended : List Match}
    (succeeds : (pattern.evaluate memory matching).outcome = .ok extended) :
    extended = matching.flatMap (pattern.extensions memory) := by
  rw [evaluate, Traced.outcome_bind] at succeeds
  obtain ⟨objects, ready, succeeds⟩ := Outcome.bind_eq_ok.mp succeeds
  refine Traced.expand_of_ok succeeds fun found _ results step => ?_
  unfold extend at step
  unfold supply at ready
  cases use : pattern.use with
  | plain =>
    simp only [use, Traced.outcome_bind] at ready step
    obtain ⟨kept, selected, answer⟩ := Outcome.bind_eq_ok.mp step
    cases answer
    rw [Traced.select_of_ok selected, admitted_eq found ready]
    simp only [extensions, use]
  | existential quantifier =>
    simp only [use, Traced.outcome_bind] at ready step
    obtain ⟨some, searched, answer⟩ := Outcome.bind_eq_ok.mp step
    cases answer
    have none : (pattern.admitted memory found).isEmpty = !some := by
      rw [Traced.any_of_ok searched, ← admitted_eq found ready, Bool.eq_iff_iff]
      simp [List.isEmpty_iff, List.filter_eq_nil_iff]
    cases quantifier <;> cases some <;> simp [extensions, use, none]
  | accumulate bindings =>
    simp only [use, Traced.outcome_bind] at ready step
    obtain ⟨kept, selected, step⟩ := Outcome.bind_eq_ok.mp step
    rw [Traced.outcome_each] at step
    obtain ⟨values, run, answer⟩ := Outcome.bind_eq_ok.mp step
    cases answer
    rw [Traced.select_of_ok selected, admitted_eq found ready] at run
    have same : folded bindings (pattern.admitted memory found) = .ok values := run
    simp only [extensions, use, same]
  | invoke invocation =>
    simp only [use, Traced.outcome_bind, Traced.outcome_ofOutcome] at step
    obtain ⟨result, called, step⟩ := Outcome.bind_eq_ok.mp step
    obtain ⟨values, promised, step⟩ := Outcome.bind_eq_ok.mp step
    obtain ⟨kept, selected, answer⟩ := Outcome.bind_eq_ok.mp step
    cases answer
    have same : derived invocation found = .ok values :=
      Outcome.bind_eq_ok.mpr ⟨result, called, promised⟩
    simp only [extensions, use, same]
    rw [Traced.select_of_ok selected]
    congr 1
    refine List.filter_congr fun value _ => ?_
    rw [holds_passes, admits_eq_reading]

/-! ### Failures -/

theorem blames_passes {singles : List SingleConstraint} (found : Match) (object : Value)
    (own : ∀ single ∈ singles, single ∈ pattern.constraint.singles) :
    (pattern.passes singles found object).Blames pattern.callbacks := by
  refine Traced.blames_all fun single member => ?_
  refine (Predicate.blames_test _ _).mono fun callback known => ?_
  rw [List.mem_singleton.mp known]
  exact List.mem_append_left _ (List.mem_map_of_mem (own single member))

theorem blames_filtered {singles : List SingleConstraint} {objects : List Held}
    (own : ∀ single ∈ singles, single ∈ pattern.constraint.singles) :
    (filtered singles objects).Blames pattern.callbacks := by
  induction singles generalizing objects with
  | nil => exact Traced.blames_pure _
  | cons single rest hypothesis =>
    refine Traced.blames_bind (Traced.blames_select fun held _ => ?_) fun kept _ =>
      hypothesis fun other member => own other (List.mem_cons_of_mem _ member)
    refine (Predicate.blames_test _ _).mono fun callback known => ?_
    rw [List.mem_singleton.mp known]
    exact List.mem_append_left _ (List.mem_map_of_mem (own single List.mem_cons_self))

/-- **A pattern fails only through its own callbacks.** -/
theorem blames_evaluate (matching : List Match) :
    (pattern.evaluate memory matching).Blames pattern.callbacks := by
  have ready : (pattern.supply memory).Blames pattern.callbacks := by
    unfold supply
    split
    · exact Traced.blames_pure _
    · exact blames_filtered fun single member => (List.mem_filter.mp member).1
  have others : ∀ found object,
      (pattern.passes pattern.otherSingles found object).Blames pattern.callbacks :=
    fun found object =>
      blames_passes found object fun single member => (List.mem_filter.mp member).1
  refine Traced.blames_bind ready fun objects _ => Traced.blames_expand fun found _ => ?_
  unfold extend
  split
  · refine Traced.blames_bind ?_ fun _ _ => Traced.blames_pure _
    exact Traced.blames_select fun held _ => others found held.value
  · refine Traced.blames_bind ?_ fun _ _ => Traced.blames_pure _
    exact Traced.blames_any fun held _ => others found held.value
  · rename_i bindings use
    refine Traced.blames_bind ?_ fun kept _ => Traced.blames_bind ?_ fun _ _ =>
      Traced.blames_pure _
    · exact Traced.blames_select fun held _ => others found held.value
    · refine Traced.blames_each fun binding member => ?_
      refine (Aggregate.blames_run _ _).mono fun callback known => ?_
      rw [List.mem_singleton.mp known, callbacks, use]
      exact List.mem_append_right _ (List.mem_map_of_mem member)
  · rename_i invocation use
    have own : ∀ callback ∈ [Callback.invocation invocation], callback ∈ pattern.callbacks := by
      intro callback known
      rw [callbacks, use]
      exact List.mem_append_right _ known
    refine Traced.blames_bind ((invocation.blames_call _).mono own) fun result returned => ?_
    refine Traced.blames_bind ((Invocation.blames_candidates returned).mono own) fun values _ => ?_
    refine Traced.blames_bind (Traced.blames_select fun value _ => ?_) fun _ _ =>
      Traced.blames_pure _
    exact blames_passes found value fun single member => (List.mem_filter.mp member).1

end Pattern

/-! ### Whole views -/

variable {memory : WorkingMemory}

theorem evaluateAll_of_ok {patterns : List Pattern} {found extended : List Match}
    (succeeds : (evaluateAll memory patterns found).outcome = .ok extended) :
    extended = extendAll memory patterns found := by
  induction patterns generalizing found with
  | nil =>
    cases succeeds
    rfl
  | cons pattern rest hypothesis =>
    rw [evaluateAll, Traced.outcome_bind] at succeeds
    obtain ⟨first, here, others⟩ := Outcome.bind_eq_ok.mp succeeds
    rw [hypothesis others, Pattern.evaluate_of_ok here]
    rfl

/-- **A view that evaluates without failure has the matches of the reference.** -/
theorem Condition.evaluate_of_ok {view : Condition} {found : List Match}
    (succeeds : (view.evaluate memory).outcome = .ok found) : found = view.matching memory :=
  evaluateAll_of_ok succeeds

theorem blames_evaluateAll {patterns : List Pattern} {found : List Match} :
    (evaluateAll memory patterns found).Blames (patterns.flatMap Pattern.callbacks) := by
  induction patterns generalizing found with
  | nil => exact Traced.blames_pure _
  | cons pattern rest hypothesis =>
    rw [List.flatMap_cons]
    refine Traced.blames_bind ((Pattern.blames_evaluate found).mono fun _ known =>
      List.mem_append_left _ known) fun extended _ => ?_
    exact hypothesis.mono fun _ known => List.mem_append_right _ known

/-- **A view fails only through its own callbacks.** -/
theorem Rule.blames_evaluate (rule : Rule) :
    (rule.view.evaluate memory).Blames rule.callbacks :=
  blames_evaluateAll

end RuleNet
