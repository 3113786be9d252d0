/-
**Names and places.**

Matches know their variables by name, tokens hold values in places, and the build context says which
variable has which place.

* `BuildContext.describe`: the match that a token stands for;
* `describe_bind`, `describe_reserve`, `describe_bindAll`: a token that is widened stands for the
  match that is extended;
* `partition_ok`, `bindAll_ok`: what classifying and binding constraints return;
* `expand_join`, …, `expand_invoker`: **a tuple operator does to tokens what a pattern does to the
  matches that they stand for.**
-/

import Mathlib.Data.List.Basic
import RuleNet.Build.Classify
import RuleNet.Proofs.Match.Operators
import RuleNet.Proofs.Match.Ordered

namespace RuleNet

namespace BuildContext

variable {context : BuildContext} {token : Token} {v own : Variable} {offset : Nat}

/-- Every variable has a place that is taken. -/
def InRange (context : BuildContext) : Prop :=
  ∀ entry ∈ context.bound, entry.2 < context.width

/-- **The match that a token stands for.** -/
def describe (context : BuildContext) (token : Token) : Match :=
  ⟨token, context.bound.map fun entry => (entry.1, token.values.getD entry.2 .nil)⟩

theorem InRange.offset?_lt (inRange : context.InRange) (named : context.offset? v = some offset) :
    offset < context.width := by
  obtain ⟨entry, found, rfl⟩ := Option.map_eq_some_iff.mp named
  exact inRange entry (List.mem_of_find?_eq_some found)

/-- **A variable stands for the value in its place.** -/
theorem describe_value? (context : BuildContext) (token : Token) (v : Variable) :
    (context.describe token).value? v =
      (context.offset? v).map fun offset => token.values.getD offset .nil := by
  simp only [Match.value?, describe, offset?, List.find?_map, Option.map_map]
  rfl

theorem requireOffset_ok {reader : String} (found : context.requireOffset v reader = .ok offset) :
    context.offset? v = some offset := by
  unfold requireOffset at found
  split at found
  · rename_i named
    cases found
    exact named
  · cases found

/-- What looking up the places of variables returns. -/
theorem mapM_requireOffset {reader : String} {params : List Variable} {offsets : List Nat}
    (found : (params.mapM fun v => context.requireOffset v reader) = .ok offsets) :
    offsets = (params.map fun v => (context.offset? v).getD 0) ∧
      ∀ v ∈ params, ∃ offset, context.offset? v = some offset := by
  refine Outcome.mapM_ok_map found fun v _ offset required => ?_
  have named := requireOffset_ok required
  exact ⟨by rw [named]; rfl, offset, named⟩

theorem requireTupleCursor_ok {reader : String} {tuple : NodeId}
    (found : context.requireTupleCursor reader = .ok tuple) : context.tupleCursor = some tuple := by
  unfold requireTupleCursor at found
  split at found
  · rename_i set
    cases found
    exact set
  · cases found

/-! ### Taking places -/

theorem InRange.bind (inRange : context.InRange) (v : Variable) : (context.bind v).InRange := by
  intro entry member
  rcases List.mem_append.mp member with earlier | last
  · exact Nat.lt_succ_of_lt (inRange entry earlier)
  · rw [List.mem_singleton.mp last]
    exact Nat.lt_succ_self _

theorem InRange.reserve (inRange : context.InRange) : context.reserve.InRange :=
  fun entry member => Nat.lt_succ_of_lt (inRange entry member)

/-- Places that are taken keep their values. -/
theorem InRange.known_append (inRange : context.InRange) (wide : token.width = context.width)
    (more : List Value) :
    (context.bound.map fun entry => (entry.1, (token.values ++ more).getD entry.2 .nil)) =
      (context.describe token).known := by
  refine List.map_congr_left fun entry member => ?_
  have inside : entry.2 < token.values.length := by
    show entry.2 < token.width
    rw [wide]
    exact inRange entry member
  simp only [List.getD_eq_getElem?_getD, List.getElem?_append_left inside]

/-- **Binding a variable to a value widens the token by it.** -/
theorem describe_bind (inRange : context.InRange) (wide : token.width = context.width)
    (v : Variable) (value : Value) (handle : Option Handle) :
    (context.bind v).describe (token.extend value handle) =
      (context.describe token).bind v value handle := by
  have length : token.values.length = context.width := wide
  simp only [describe, BuildContext.bind, Match.bind, Token.extend, List.map_append,
    inRange.known_append wide, List.map_cons, List.map_nil]
  simp [List.getD_eq_getElem?_getD, ← length]

theorem describe_reserve (inRange : context.InRange) (wide : token.width = context.width) :
    context.reserve.describe (token.extend .nil none) = (context.describe token).reserve := by
  simp only [describe, BuildContext.reserve, Match.reserve, Token.extend,
    inRange.known_append wide]

/-- The context after variables were bound to the results of aggregate functions. -/
def bindResults (context : BuildContext) (bindings : List Binding) : BuildContext :=
  bindings.foldl (fun context binding => context.bind binding.result) context

theorem InRange.bindResults (inRange : context.InRange) (bindings : List Binding) :
    (context.bindResults bindings).InRange := by
  induction bindings generalizing context with
  | nil => exact inRange
  | cons binding rest hypothesis => exact hypothesis (inRange.bind _)

theorem width_bindResults (context : BuildContext) (bindings : List Binding) :
    (context.bindResults bindings).width = context.width + bindings.length := by
  induction bindings generalizing context with
  | nil => rfl
  | cons binding rest hypothesis =>
    have step := @hypothesis (context.bind binding.result)
    simp only [bindResults, List.foldl_cons, List.length_cons] at step ⊢
    rw [step]
    show context.width + 1 + rest.length = _
    omega

/-- Binding results moves no cursor. -/
theorem cursors_bindResults (context : BuildContext) (bindings : List Binding) :
    (context.bindResults bindings).tupleCursor = context.tupleCursor ∧
      (context.bindResults bindings).objectCursor = context.objectCursor := by
  induction bindings generalizing context with
  | nil => exact ⟨rfl, rfl⟩
  | cons binding rest hypothesis => exact hypothesis (context.bind binding.result)

/-- **Binding results widens the token by them.** -/
theorem describe_bindAll (inRange : context.InRange) (wide : token.width = context.width)
    {bindings : List Binding} {results : List Value} (complete : results.length = bindings.length) :
    (context.bindResults bindings).describe { token with values := token.values ++ results } =
      (context.describe token).bindAll bindings results := by
  induction bindings generalizing context token results with
  | nil =>
    rw [List.length_nil, List.length_eq_zero_iff] at complete
    subst complete
    simp [bindResults, Match.bindAll, describe]
  | cons binding rest hypothesis =>
    cases results with
    | nil => cases complete
    | cons result others =>
      have wider : (token.extend result none).width = (context.bind binding.result).width := by
        rw [Token.width_extend, wide]
        rfl
      have step := hypothesis (inRange.bind binding.result) wider (Nat.succ.inj complete)
      rw [describe_bind inRange wide] at step
      simpa [bindResults, Match.bindAll, Match.bind, Token.extend] using step

end BuildContext

/-! ### Constraints -/

/-- The place that a constraint of a pattern reads for a variable. -/
def BuildContext.slot (context : BuildContext) (own v : Variable) : Slot :=
  if v.same own then .object else .tuple ((context.offset? v).getD 0)

/-- The variable is the pattern's own, or bound. -/
def BuildContext.Reads (context : BuildContext) (own v : Variable) : Prop :=
  v.same own = true ∨ ∃ offset, context.offset? v = some offset

/-- The constraint with the places of its variables. -/
def BuildContext.placed (context : BuildContext) (own : Variable) (single : SingleConstraint) :
    BoundConstraint :=
  ⟨single.predicate, single.reads.map (context.slot own)⟩

namespace SingleConstraint

variable {context : BuildContext} {own : Variable}

theorem classOf_ok {key : String} {seen kind : ConstraintClass} {reads : List Variable}
    (sorted : classOf key own context seen reads = .ok kind) :
    kind = (if reads.all (·.same own) then seen else .beta) ∧
      ∀ v ∈ reads, context.Reads own v := by
  induction reads generalizing seen with
  | nil =>
    cases sorted
    simp
  | cons v rest hypothesis =>
    rw [classOf] at sorted
    by_cases same : v.same own = true
    · rw [if_pos same] at sorted
      obtain ⟨found, bound⟩ := hypothesis sorted
      refine ⟨by simpa [same] using found, fun other member => ?_⟩
      rcases List.mem_cons.mp member with rfl | later
      · exact Or.inl same
      · exact bound other later
    · rw [if_neg same] at sorted
      cases named : context.offset? v with
      | none =>
        rw [named] at sorted
        cases sorted
      | some offset =>
        rw [named] at sorted
        obtain ⟨found, bound⟩ := hypothesis sorted
        refine ⟨by simpa [same] using found, fun other member => ?_⟩
        rcases List.mem_cons.mp member with rfl | later
        · exact Or.inr ⟨offset, named⟩
        · exact bound other later

theorem classify_ok {single : SingleConstraint} {kind : ConstraintClass}
    (sorted : single.classify own context = .ok kind) :
    kind = (if single.isConstant then .constant
      else if single.reads.all (·.same own) then .alpha else .beta) ∧
      ∀ v ∈ single.reads, context.Reads own v := by
  unfold classify at sorted
  by_cases constant : single.isConstant = true
  · rw [if_pos constant] at sorted
    cases sorted
    refine ⟨by rw [if_pos constant], fun v member => ?_⟩
    rw [List.isEmpty_iff.mp constant] at member
    cases member
  · rw [if_neg constant] at sorted
    obtain ⟨found, bound⟩ := classOf_ok sorted
    exact ⟨by rw [if_neg constant, found], bound⟩

/-- **What binding a constraint returns.** -/
theorem bind_ok {single : SingleConstraint} {constraint : BoundConstraint}
    (bound : single.bind own context = .ok constraint) :
    constraint = context.placed own single ∧ ∀ v ∈ single.reads, context.Reads own v := by
  unfold SingleConstraint.bind at bound
  obtain ⟨slots, mapped, answer⟩ := Outcome.bind_eq_ok.mp bound
  cases answer
  have each : ∀ v ∈ single.reads, ∀ slot,
      (if v.same own then Except.ok Slot.object else
        (context.requireOffset v single.predicate.key >>= fun offset =>
          .ok (.tuple offset)) : Outcome Slot) = .ok slot →
      slot = context.slot own v ∧ context.Reads own v := by
    intro v _ slot found
    unfold BuildContext.slot BuildContext.Reads
    by_cases same : v.same own = true
    · rw [if_pos same] at found
      cases found
      exact ⟨by rw [if_pos same], Or.inl same⟩
    · rw [if_neg same] at found
      obtain ⟨offset, required, answer⟩ := Outcome.bind_eq_ok.mp found
      cases answer
      have named := BuildContext.requireOffset_ok required
      exact ⟨by rw [if_neg same, named]; rfl, Or.inr ⟨_, named⟩⟩
  obtain ⟨rfl, known⟩ := Outcome.mapM_ok_map mapped each
  exact ⟨rfl, known⟩

/-- What binding several constraints returns. -/
theorem bindAll_ok {singles : List SingleConstraint} {constraints : List BoundConstraint}
    (bound : bindAll singles own context = .ok constraints) :
    constraints = singles.map (context.placed own) ∧
      ∀ single ∈ singles, ∀ v ∈ single.reads, context.Reads own v :=
  Outcome.mapM_ok_map bound fun _ _ _ placed => bind_ok placed

end SingleConstraint

/-- **What classifying constraints returns**: three sublists, by the variables that are read. -/
theorem Classified.partition_ok {own : Variable} {context : BuildContext}
    {singles : List SingleConstraint} {classified : Classified}
    (sorted : partition own context singles = .ok classified) :
    classified.alpha =
        (singles.filter fun single => !single.isConstant && single.reads.all (·.same own)) ∧
      classified.beta = (singles.filter fun single => !single.reads.all (·.same own)) ∧
      ∀ single ∈ singles, ∀ v ∈ single.reads, context.Reads own v := by
  induction singles generalizing classified with
  | nil =>
    cases sorted
    exact ⟨rfl, rfl, fun _ member => nomatch member⟩
  | cons single rest hypothesis =>
    rw [partition] at sorted
    obtain ⟨kind, here, sorted⟩ := Outcome.bind_eq_ok.mp sorted
    obtain ⟨others, there, answer⟩ := Outcome.bind_eq_ok.mp sorted
    cases answer
    obtain ⟨alpha, beta, known⟩ := hypothesis there
    obtain ⟨rfl, reads⟩ := SingleConstraint.classify_ok here
    refine ⟨?_, ?_, fun other member => ?_⟩
    · rw [List.filter_cons, ← alpha]
      cases constant : single.isConstant with
      | true => simp [add]
      | false => cases single.reads.all (·.same own) <;> simp [add]
    · rw [List.filter_cons, ← beta]
      cases constant : single.isConstant with
      | true =>
        have empty : single.reads = [] := List.isEmpty_iff.mp constant
        simp [add, empty]
      | false => cases single.reads.all (·.same own) <;> simp [add]
    · rcases List.mem_cons.mp member with rfl | later
      · exact reads
      · exact known other later

/-! ### Reading places -/

section

variable {context : BuildContext} {token : Token} {pattern : Pattern}
  {singles : List SingleConstraint}

/-- The places of a constraint are taken. -/
theorem BuildContext.InRange.within_placed (inRange : context.InRange) {own : Variable}
    {single : SingleConstraint} (bound : ∀ v ∈ single.reads, context.Reads own v) :
    (context.placed own single).Within context.width := by
  intro offset member
  obtain ⟨v, read, placed⟩ := List.mem_map.mp member
  unfold BuildContext.slot at placed
  by_cases same : v.same own = true
  · rw [if_pos same] at placed
    cases placed
  · rw [if_neg same] at placed
    rcases bound v read with own | ⟨found, named⟩
    · exact absurd own same
    · rw [named] at placed
      cases placed
      exact inRange.offset?_lt named

/-- **A place is read as the variable is looked up.** -/
theorem BuildContext.InRange.read_slot (inRange : context.InRange)
    (wide : token.width = context.width) {own v : Variable} (bound : context.Reads own v)
    (object : Value) :
    (context.slot own v).read token.values (some object) =
      (context.describe token).read own object v := by
  unfold BuildContext.slot Match.read
  by_cases same : v.same own = true
  · rw [if_pos same, if_pos same]
    rfl
  · rw [if_neg same, if_neg same, context.describe_value?]
    rcases bound with own | ⟨offset, named⟩
    · exact absurd own same
    · have inside : offset < token.values.length := by
        show offset < token.width
        rw [wide]
        exact inRange.offset?_lt named
      simp [Slot.read, named, List.getD_eq_getElem?_getD, inside]

/-- A placed constraint tests what the constraint tests. -/
theorem BuildContext.InRange.evaluate_placed (inRange : context.InRange)
    (wide : token.width = context.width) {own : Variable} {single : SingleConstraint}
    (bound : ∀ v ∈ single.reads, context.Reads own v) (object : Value) :
    ((context.placed own single).evaluate token.values (some object)).outcome =
      (single.test own (context.describe token) object).outcome := by
  have within : (context.placed own single).Within token.values.length := by
    have places := inRange.within_placed bound
    rw [← wide] at places
    exact places
  rw [BoundConstraint.evaluate_eq within]
  simp only [placed, SingleConstraint.test, List.filterMap_map]
  congr 2
  refine List.filterMap_congr fun v member => ?_
  exact inRange.read_slot wide (bound v member) object

/-- **An object meets placed constraints with a token if it passes the constraints with the match
that the token stands for.** -/
theorem BuildContext.InRange.meets_placed (inRange : context.InRange)
    (wide : token.width = context.width)
    (bound : ∀ single ∈ singles, ∀ v ∈ single.reads, context.Reads pattern.subject v)
    (object : Value) :
    (Operator.meets (singles.map (context.placed pattern.subject)) token object).outcome =
      (pattern.passes singles (context.describe token) object).outcome := by
  unfold Operator.meets BoundConstraint.allHold Pattern.passes
  induction singles with
  | nil => rfl
  | cons single rest hypothesis =>
    have later := hypothesis fun other member => bound other (List.mem_cons_of_mem _ member)
    rw [List.map_cons, Traced.all_cons, Traced.all_cons, Traced.outcome_bind, Traced.outcome_bind,
      inRange.evaluate_placed wide (bound single List.mem_cons_self)]
    congr 1
    funext passed
    cases passed
    · rfl
    · exact later

end

end RuleNet
