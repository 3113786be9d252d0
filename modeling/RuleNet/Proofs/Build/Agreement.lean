/-
**A pattern and the node that it becomes.**

Once a match is started, a pattern becomes one node that extends tuples. What kind of node it is,
and which places its variables get, can be said without building anything.

* `BuildContext.kindOf`: the kind of the node that a pattern becomes;
* `BuildContext.after`: the places of variables after the pattern;
* `BuildContext.Covers`: every variable that the pattern reads has a place;
* `within_kindOf`: the node reads no place outside its tuples;
* `operate_kindOf`: **the node does to tokens what the pattern does to the matches that they stand
  for.**
-/

import RuleNet.Proofs.Build.Places

namespace RuleNet

namespace BuildContext

/-! ### Patterns as nodes -/

/-- The functions of an accumulate pattern, with the places of their results. -/
def placeAll (context : BuildContext) : List Binding → List PlacedAggregate
  | [] => []
  | binding :: rest =>
    ⟨binding.function, context.width⟩ :: placeAll (context.bind binding.result) rest

/-- **The kind of the node that a pattern becomes.** -/
def kindOf (context : BuildContext) (pattern : Pattern) : NodeKind :=
  match pattern.use with
  | .plain => .join (pattern.otherSingles.map (context.placed pattern.subject))
  | .existential quantifier =>
    .existential quantifier (pattern.otherSingles.map (context.placed pattern.subject))
  | .accumulate bindings =>
    .accumulate (pattern.otherSingles.map (context.placed pattern.subject)) []
      (context.placeAll bindings)
  | .invoke invocation =>
    .invoker invocation (invocation.params.map fun v => (context.offset? v).getD 0)
      (pattern.readingSingles.map (context.placed pattern.subject))

/-- The places of variables after a pattern. -/
def after (context : BuildContext) (pattern : Pattern) : BuildContext :=
  match pattern.use with
  | .plain | .invoke _ => context.bind pattern.subject
  | .existential _ => context.reserve
  | .accumulate bindings => context.bindResults bindings

/-- **Every variable that the pattern reads has a place.** -/
structure Covers (context : BuildContext) (pattern : Pattern) : Prop where
  singles : ∀ single ∈ pattern.constraint.singles, ∀ v ∈ single.reads,
    context.Reads pattern.subject v
  params : ∀ invocation, pattern.use = .invoke invocation → ∀ v ∈ invocation.params,
    ∃ offset, context.offset? v = some offset

variable {context : BuildContext} {pattern : Pattern}

theorem InRange.after (inRange : context.InRange) (pattern : Pattern) :
    (context.after pattern).InRange := by
  unfold BuildContext.after
  split
  · exact inRange.bind _
  · exact inRange.bind _
  · exact inRange.reserve
  · exact inRange.bindResults _

theorem length_placeAll (context : BuildContext) (bindings : List Binding) :
    (context.placeAll bindings).length = bindings.length := by
  induction bindings generalizing context with
  | nil => rfl
  | cons binding rest hypothesis => simp [placeAll, hypothesis]

/-- Results take the places that follow. -/
theorem offset_placeAll (context : BuildContext) (bindings : List Binding) :
    (context.placeAll bindings).map PlacedAggregate.offset =
      List.range' context.width (context.placeAll bindings).length := by
  induction bindings generalizing context with
  | nil => rfl
  | cons binding rest hypothesis =>
    rw [placeAll, List.map_cons, hypothesis, List.length_cons, List.range'_succ]
    rfl

theorem function_placeAll (context : BuildContext) (bindings : List Binding) :
    (context.placeAll bindings).map PlacedAggregate.function = bindings.map Binding.function := by
  induction bindings generalizing context with
  | nil => rfl
  | cons binding rest hypothesis => simp [placeAll, hypothesis]

/-- The tuples of the node have as many values as places are taken after the pattern. -/
theorem gives_kindOf (context : BuildContext) (pattern : Pattern) :
    (context.kindOf pattern).gives context.width =
      some (.tuples (context.after pattern).width) := by
  unfold kindOf BuildContext.after
  cases pattern.use with
  | accumulate bindings =>
    simp [NodeKind.gives, length_placeAll, width_bindResults]
  | _ => rfl

/-- **The node reads no place outside its tuples.** -/
theorem InRange.within_kindOf (inRange : context.InRange) (covers : context.Covers pattern) :
    (context.kindOf pattern).Within context.width := by
  have others : ∀ constraint ∈ pattern.otherSingles.map (context.placed pattern.subject),
      constraint.Within context.width := by
    intro constraint member
    obtain ⟨single, listed, rfl⟩ := List.mem_map.mp member
    exact inRange.within_placed (covers.singles single (List.mem_filter.mp listed).1)
  unfold kindOf
  cases use : pattern.use with
  | plain => exact others
  | existential quantifier => exact others
  | accumulate bindings => exact ⟨others, rfl, offset_placeAll context bindings⟩
  | invoke invocation =>
    refine ⟨fun offset member => ?_, fun constraint member => ?_⟩
    · obtain ⟨v, listed, rfl⟩ := List.mem_map.mp member
      obtain ⟨offset, named⟩ := covers.params invocation use v listed
      rw [named]
      exact inRange.offset?_lt named
    · obtain ⟨single, listed, rfl⟩ := List.mem_map.mp member
      exact inRange.within_placed (covers.singles single (List.mem_filter.mp listed).1)

/-- The node has the callbacks of the pattern. -/
theorem callbacks_kindOf (context : BuildContext) (pattern : Pattern) :
    ∀ callback ∈ (context.kindOf pattern).callbacks, callback ∈ pattern.callbacks := by
  have placed : ∀ singles : List SingleConstraint,
      (∀ single ∈ singles, single ∈ pattern.constraint.singles) → ∀ callback ∈
        BoundConstraint.callbacks (singles.map (context.placed pattern.subject)),
      callback ∈ pattern.callbacks := by
    intro singles own callback member
    rw [BoundConstraint.callbacks, List.map_map] at member
    obtain ⟨single, listed, rfl⟩ := List.mem_map.mp member
    exact List.mem_append_left _ (List.mem_map.mpr ⟨single, own single listed, rfl⟩)
  have others := placed pattern.otherSingles fun single member => (List.mem_filter.mp member).1
  have readers := placed pattern.readingSingles fun single member => (List.mem_filter.mp member).1
  unfold kindOf
  cases use : pattern.use with
  | plain => exact others
  | existential quantifier => exact others
  | accumulate bindings =>
    intro callback member
    simp only [NodeKind.callbacks, List.mem_append] at member
    rcases member with (known | none) | function
    · exact others callback known
    · cases none
    · have same : ((context.placeAll bindings).map fun placed =>
          Callback.aggregate placed.function) =
            bindings.map fun binding => Callback.aggregate binding.function := by
        have functions :=
          congrArg (List.map Callback.aggregate) (function_placeAll context bindings)
        simpa only [List.map_map, Function.comp_def] using functions
      rw [same] at function
      rw [Pattern.callbacks, use]
      exact List.mem_append_right _ function
  | invoke invocation =>
    intro callback member
    rcases List.mem_cons.mp member with rfl | known
    · rw [Pattern.callbacks, use]
      exact List.mem_append_right _ (List.mem_singleton.mpr rfl)
    · exact readers callback known

/-! ### Agreement -/

variable {tokens : List Token} {objects : List Held}

/-- The arguments of an invocation are the values of its parameters. -/
theorem InRange.filterMap_params (inRange : context.InRange) {token : Token}
    (wide : token.width = context.width) {params : List Variable}
    (bound : ∀ v ∈ params, ∃ offset, context.offset? v = some offset) :
    ((params.map fun v => (context.offset? v).getD 0).filterMap fun offset =>
        token.values[offset]?) = params.filterMap (context.describe token).value? := by
  rw [List.filterMap_map]
  refine List.filterMap_congr fun v member => ?_
  obtain ⟨offset, named⟩ := bound v member
  have inside : offset < token.values.length := by
    show offset < token.width
    rw [wide]
    exact inRange.offset?_lt named
  simp [context.describe_value?, named, List.getD_eq_getElem?_getD, inside]

/-- Placed functions are the functions. -/
theorem each_placeAll (context : BuildContext) (bindings : List Binding) (inputs : List Value) :
    (Traced.each (fun placed => placed.function.run inputs) (context.placeAll bindings)).outcome =
      (Traced.each (fun binding => binding.function.run inputs) bindings).outcome := by
  have functions := function_placeAll context bindings
  rw [Traced.outcome_each, Traced.outcome_each]
  have mapped := congrArg (List.mapM fun function => (Aggregate.run function inputs).outcome)
    functions
  rw [List.mapM_map, List.mapM_map] at mapped
  exact mapped

/-- Placed constraints of the pattern are met as the pattern's own pass. -/
theorem InRange.passes_placed (inRange : context.InRange) (covers : context.Covers pattern)
    (wide : token.width = context.width) {singles : List SingleConstraint}
    (own : ∀ single ∈ singles, single ∈ pattern.constraint.singles) (object : Value) :
    (Operator.meets (singles.map (context.placed pattern.subject)) token object).outcome =
      (pattern.passes singles (context.describe token) object).outcome :=
  inRange.meets_placed wide (fun single listed => covers.singles single (own single listed)) object

/-- So they select the same. -/
theorem InRange.select_placed {α : Type} (inRange : context.InRange)
    (covers : context.Covers pattern) (wide : token.width = context.width)
    {singles : List SingleConstraint}
    (own : ∀ single ∈ singles, single ∈ pattern.constraint.singles) (value : α → Value)
    (items : List α) :
    (Traced.select (fun item => pattern.passes singles (context.describe token) (value item))
        items).outcome =
      (Traced.select (fun item => Operator.meets
        (singles.map (context.placed pattern.subject)) token (value item)) items).outcome :=
  Traced.select_congr fun item _ => (inRange.passes_placed covers wide own (value item)).symm

/-- The parameters of an invocation have places inside the token. -/
theorem Covers.params_lt (covers : context.Covers pattern) (inRange : context.InRange)
    {invocation : Invocation} (use : pattern.use = .invoke invocation) :
    ∀ offset ∈ invocation.params.map fun v => (context.offset? v).getD 0,
      offset < context.width := by
  intro offset listed
  obtain ⟨v, given, rfl⟩ := List.mem_map.mp listed
  obtain ⟨offset, named⟩ := covers.params invocation use v given
  rw [named]
  exact inRange.offset?_lt named

/-- **The node does to tokens what the pattern does to the matches that they stand for.** -/
theorem InRange.operate_kindOf (inRange : context.InRange) (covers : context.Covers pattern)
    (wide : ∀ token ∈ tokens, token.width = context.width) :
    (Traced.expand (pattern.extend objects) (tokens.map context.describe)).outcome =
      ((context.kindOf pattern).operate tokens objects).outcome.map
        (List.map (context.after pattern).describe) := by
  have others : ∀ single ∈ pattern.otherSingles, single ∈ pattern.constraint.singles :=
    fun _ listed => (List.mem_filter.mp listed).1
  have selects := fun token member =>
    inRange.select_placed covers (wide token member) others Held.value objects
  unfold kindOf BuildContext.after Pattern.extend
  cases use : pattern.use with
  | plain =>
    refine Traced.expand_map fun token member => ?_
    simp only [Traced.outcome_bind, Traced.outcome_pure, selects token member]
    rw [Outcome.bind_map_ok, Outcome.bind_map_ok, Outcome.map_map]
    congr 1
    funext kept
    simp only [Function.comp_apply, List.map_map]
    refine List.map_congr_left fun held _ => ?_
    exact (describe_bind inRange (wide token member) _ _ _).symm
  | existential quantifier =>
    refine Traced.expand_map fun token member => ?_
    have searches := Traced.any_congr fun held (_ : held ∈ objects) =>
      inRange.passes_placed covers (wide token member) others held.value
    simp only [Traced.outcome_bind, Traced.outcome_pure, ← searches]
    rw [Outcome.bind_map_ok, Outcome.bind_map_ok, Outcome.map_map]
    congr 1
    funext some
    have padded := describe_reserve inRange (wide token member)
    cases quantifier <;> cases some <;> simp [padded]
  | accumulate bindings =>
    refine Traced.expand_map fun token member => ?_
    simp only [Traced.outcome_bind, Traced.outcome_pure, selects token member]
    rw [Outcome.map_bind]
    congr 1
    funext kept
    rw [each_placeAll]
    cases folds : (Traced.each (fun binding => binding.function.run (kept.map Held.value))
        bindings).outcome with
    | error failure => rfl
    | ok results =>
      rw [Traced.outcome_each] at folds
      have described := describe_bindAll inRange (wide token member) (Outcome.mapM_ok_mem folds).2
      simp only [BoundConstraint.allHold, Traced.all_nil, Traced.outcome_pure, Outcome.ok_bind,
        if_true, Except.map, List.map_cons, List.map_nil, described]
  | invoke invocation =>
    refine Traced.expand_map fun token member => ?_
    have places := covers.params_lt inRange use
    rw [← wide token member] at places
    have reads := inRange.select_placed covers (wide token member)
      (fun single (listed : single ∈ pattern.readingSingles) => (List.mem_filter.mp listed).1)
      (fun value : Value => value)
    simp only [Traced.outcome_bind, Traced.outcome_pure, Traced.outcome_ofOutcome, reads,
      Operator.invocationArguments_eq places, Outcome.ok_bind, Outcome.map_bind,
      inRange.filterMap_params (wide token member) (covers.params invocation use)]
    congr 1
    funext result
    congr 1
    funext values
    congr 1
    funext kept
    simp only [Except.map, List.map_map]
    refine congrArg Except.ok (List.map_congr_left fun value _ => ?_)
    exact (describe_bind inRange (wide token member) _ _ _).symm

end BuildContext

end RuleNet
