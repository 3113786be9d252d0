/-
**Compiling a view keeps its matches.**

Half way through a view, the tokens at the tuple cursor stand for the matches of the patterns so
far. At the end of a rule they stand for the matches of its view, and the terminal hangs below them.

* `progress`: the matches of the patterns so far;
* `Walked`: the invariant between patterns;
* `pattern_ends`: one pattern keeps it;
* `condition_ends`: **a view keeps it**;
* `Network.Realizes`: a terminal below the matches of its rule's view;
* `rule_ends`: **compiling a rule realizes it**.
-/

import RuleNet.Proofs.Build.Compiled

namespace RuleNet

open Stateful

/-! ### Progress -/

theorem evaluateAll_append (memory : WorkingMemory) (first second : List Pattern)
    (found : List Match) :
    (evaluateAll memory (first ++ second) found).outcome =
      (evaluateAll memory first found).outcome >>= fun matching =>
        (evaluateAll memory second matching).outcome := by
  induction first generalizing found with
  | nil => rfl
  | cons pattern rest hypothesis =>
    simp only [List.cons_append, evaluateAll, Traced.outcome_bind, hypothesis, bind_assoc]

/-- **The matches of the patterns so far.** Before the first one there is the empty match. -/
def progress (done : List Pattern) (memory : WorkingMemory) : Outcome (List Match) :=
  match done with
  | [] => .ok [.empty]
  | _ => (evaluateAll memory done (startingMatches memory done)).outcome

/-- The first pattern extends what the view starts from. -/
theorem progress_first (pattern : Pattern) (memory : WorkingMemory) :
    progress [pattern] memory =
      (pattern.evaluate memory (startingMatches memory [pattern])).outcome := by
  simp only [progress, evaluateAll, Traced.outcome_bind, Traced.outcome_pure]
  cases (pattern.evaluate memory (startingMatches memory [pattern])).outcome <;> rfl

/-- **Every later pattern extends the matches so far.** -/
theorem progress_next {done : List Pattern} (begun : done ≠ []) (pattern : Pattern)
    (memory : WorkingMemory) :
    progress (done ++ [pattern]) memory =
      progress done memory >>= fun matching => (pattern.evaluate memory matching).outcome := by
  cases done with
  | nil => exact absurd rfl begun
  | cons first rest =>
    have step : ∀ matching, (evaluateAll memory [pattern] matching).outcome =
        (pattern.evaluate memory matching).outcome := by
      intro matching
      simp only [evaluateAll, Traced.outcome_bind, Traced.outcome_pure]
      cases (pattern.evaluate memory matching).outcome <;> rfl
    show (evaluateAll memory ((first :: rest) ++ [pattern]) _).outcome = _
    rw [evaluateAll_append]
    simp only [step]
    rfl

/-- At the end of a view its matches are complete. -/
theorem progress_patterns {view : Condition} (begun : view.patterns ≠ [])
    (memory : WorkingMemory) : progress view.patterns memory = (view.evaluate memory).outcome := by
  unfold progress Condition.evaluate
  split
  · rename_i none
    exact absurd none begun
  · rfl

/-- **The invariant between patterns**: the tokens at the tuple cursor stand for the matches so far,
and there is a tuple cursor from the first pattern on. -/
structure Walked (trust : Prop) (network : Network) (context : BuildContext)
    (done : List Pattern) : Prop where
  follows : Follows trust network context (progress done)
  begun : context.tupleCursor = none ↔ done = []

namespace Walked

variable {trust : Prop} {network : Network} {context scope : BuildContext} {done : List Pattern}

theorem congr (walked : Walked trust network context done) (same : scope.SameScope context) :
    Walked trust network scope done where
  follows := walked.follows.congr same
  begun := by rw [same.tupleCursor, walked.begun]

theorem new (trust : Prop) (network : Network) (name : String) :
    Walked trust network (.new name) [] where
  follows := {
    inRange := fun _ member => nomatch member
    unstarted := fun _ => ⟨rfl, rfl, fun _ => rfl⟩
    stream := fun _ cursor => nomatch cursor
    tokens := fun _ _ cursor => nomatch cursor }
  begun := ⟨fun _ => rfl, fun _ => rfl⟩

end Walked

namespace Build

open Builder

section

variable {callbacks : Callback → Prop} {bench : Workbench} {trust : Prop} {done : List Pattern}

/-! ### Views -/

/-- **A pattern extends the matches so far.** -/
theorem pattern_ends (sound : bench.builder.Sound callbacks)
    (trusted : trust → Trusted callbacks bench.builder.config) {leaf : Pattern}
    (own : ∀ callback ∈ leaf.callbacks, callbacks callback)
    (walked : Walked trust bench.builder.network bench.context done) :
    Ensures (pattern leaf) bench
      (fun _ after => Advances callbacks bench.builder after.builder ∧
        Walked trust after.builder.network after.context (done ++ [leaf]))
      fun _ after => Advances callbacks bench.builder after.builder := by
  rw [pattern_eq]
  unfold start check
  simp only [ensures_bind, ensures_context]
  by_cases first : (leaf.needsTuple && bench.context.tupleCursor.isNone) = true
  · rw [if_pos first]
    rw [Bool.and_eq_true, Option.isNone_iff_eq_none] at first
    obtain rfl := walked.begun.mp first.2
    refine initialFact_ends sound trusted walked.follows first.2
      (fun builder context log advances follows cursor => ?_) fun _ _ _ _ advances => advances
    refine use_ends advances.sound (advances.config ▸ trusted) own follows
      (fun last context log later follows cursor => ?_)
      fun _ _ _ _ later => advances.trans later
    have onward := advances.trans later
    refine ensures_ofOutcome (fun _ _ => ⟨onward, ?_, ?_⟩) fun _ _ => onward
    · have same : progress ([] ++ [leaf]) = fun memory => (Except.ok (initialMatches memory) :
          Outcome (List Match)) >>= fun matching => (leaf.evaluate memory matching).outcome := by
        funext memory
        rw [List.nil_append, progress_first]
        simp only [startingMatches, first.1, if_true, Outcome.ok_bind]
      rw [same]
      exact follows
    · simp [cursor]
  · rw [if_neg first, ensures_pure]
    refine use_ends sound trusted own walked.follows
      (fun last context log advances follows cursor => ?_) fun _ _ _ _ advances => advances
    refine ensures_ofOutcome (fun _ _ => ⟨advances, ?_, ?_⟩) fun _ _ => advances
    · have same : progress (done ++ [leaf]) = fun memory =>
          progress done memory >>= fun matching => (leaf.evaluate memory matching).outcome := by
        funext memory
        by_cases first : done = []
        · subst first
          have plain : leaf.needsTuple = false := by
            simpa [walked.begun.mpr rfl] using first
          rw [List.nil_append, progress_first]
          simp only [startingMatches, plain, Bool.false_eq_true, if_false, progress,
            Outcome.ok_bind]
        · exact progress_next first leaf memory
      rw [same]
      exact follows
    · simp [cursor]

/-- **A view extends the matches so far by its patterns.** -/
theorem condition_ends (view : Condition) (done : List Pattern)
    (sound : bench.builder.Sound callbacks)
    (trusted : trust → Trusted callbacks bench.builder.config)
    (own : ∀ leaf ∈ view.patterns, ∀ callback ∈ leaf.callbacks, callbacks callback)
    (walked : Walked trust bench.builder.network bench.context done) :
    Ensures (condition view) bench
      (fun _ after => Advances callbacks bench.builder after.builder ∧
        Walked trust after.builder.network after.context (done ++ view.patterns))
      fun _ after => Advances callbacks bench.builder after.builder := by
  have walks : Walks
      (fun done after => Advances callbacks bench.builder after.builder ∧
        Walked trust after.builder.network after.context done)
      fun after => Advances callbacks bench.builder after.builder :=
    ⟨fun _ _ held => ⟨held.1, held.2.congr ⟨rfl, rfl, rfl⟩⟩, fun held => held.1⟩
  refine walks.condition view (fun leaf listed done mid held => ?_) done bench
    ⟨sound.advances, walked⟩
  exact (pattern_ends held.1.sound (held.1.config ▸ trusted) (own leaf listed) held.2).mono
    (fun _ _ ended => ⟨held.1.trans ended.1, ended.2⟩) fun _ _ later => held.1.trans later

end

end Build

/-! ### Rules -/

/-- **A terminal that realizes a rule.** The tokens above it stand for the matches of the rule's
view, in a scope that has a place for every variable that the consequence takes. -/
structure Network.Realizes (trust : Prop) (network : Network) (rule : Rule) (terminal : NodeId)
    (scope : BuildContext) (tuple : NodeId) : Prop where
  follows : Follows trust network scope fun memory => (rule.view.evaluate memory).outcome
  cursor : scope.tupleCursor = some tuple
  bound : ∀ v ∈ rule.consequence.bindings, ∃ offset, scope.offset? v = some offset
  node : ∃ children, network.node? terminal = some ⟨terminal,
    .terminal ⟨rule.name, rule.salience, rule.consequence,
      rule.consequence.bindings.map fun v => (scope.offset? v).getD 0⟩,
    none, some tuple, children⟩

theorem Network.Realizes.mono {trust : Prop} {network after : Network} {rule : Rule}
    {terminal tuple : NodeId} {scope : BuildContext}
    (realizes : network.Realizes trust rule terminal scope tuple) (wider : network.Extends after) :
    after.Realizes trust rule terminal scope tuple where
  follows := realizes.follows.mono wider
  cursor := realizes.cursor
  bound := realizes.bound
  node := by
    obtain ⟨children, found⟩ := realizes.node
    obtain ⟨more, there⟩ := wider.nodes terminal _ found
    exact ⟨more, there⟩

namespace Build

open Builder

variable {callbacks : Callback → Prop} {bench : Workbench} {trust : Prop}

/-- **The terminal of a rule**, below the matches of its view. -/
theorem terminal_ends (sound : bench.builder.Sound callbacks) {rule : Rule}
    (follows : Follows trust bench.builder.network bench.context fun memory =>
      (rule.view.evaluate memory).outcome) :
    Ensures (terminal rule) bench
      (fun last after => Advances callbacks bench.builder after.builder ∧
        ∃ scope tuple, after.builder.network.Realizes trust rule last scope tuple)
      fun _ after => Advances callbacks bench.builder after.builder := by
  unfold terminal
  simp only [ensures_bind, ensures_modifyContext, ensures_context]
  refine ensures_ofOutcome (fun tuple required => ?_) fun _ _ => sound.advances
  refine ensures_ofOutcome (fun bindings listed => ?_) fun _ _ => sound.advances
  have cursor : bench.context.tupleCursor = some tuple :=
    BuildContext.requireTupleCursor_ok required
  obtain ⟨rfl, bound⟩ := BuildContext.mapM_requireOffset listed
  refine grow_ends (fun _ => false) sound ?_ ?_
    (fun wanted id builder log kind side above advances attached => ?_)
    fun _ _ _ advances => advances
  · refine fun id => ⟨rfl, tuple, bench.context.width, rfl, follows.stream tuple cursor,
      fun offset member => ?_⟩
    obtain ⟨v, taken, rfl⟩ := List.mem_map.mp member
    obtain ⟨offset, named⟩ := bound v taken
    rw [named]
    exact follows.inRange.offset?_lt named
  · intro callback none
    cases none
  have there := attached.own rfl
  obtain rfl : wanted.id = id := Network.node?_id there
  refine ⟨advances, bench.context, tuple, follows.mono advances.network, cursor, bound,
    wanted.children, ?_⟩
  rw [there]
  obtain ⟨id, _, _, _, children⟩ := wanted
  cases kind
  cases side
  cases above
  rfl

/-- **Compiling a rule realizes it.** -/
theorem rule_ends (sound : bench.builder.Sound callbacks)
    (trusted : trust → Trusted callbacks bench.builder.config) {whole : Rule}
    (own : ∀ callback ∈ whole.callbacks, callbacks callback)
    (new : bench.context = .new whole.name) :
    Ensures (rule whole) bench
      (fun last after => Advances callbacks bench.builder after.builder ∧
        ∃ scope tuple, after.builder.network.Realizes trust whole last scope tuple)
      fun _ after => Advances callbacks bench.builder after.builder := by
  have start : Walked trust bench.builder.network bench.context [] := by
    rw [new]
    exact .new trust bench.builder.network whole.name
  have leaves : ∀ leaf ∈ whole.view.patterns, ∀ callback ∈ leaf.callbacks, callbacks callback :=
    fun leaf member callback listed => own callback (List.mem_flatMap.mpr ⟨leaf, member, listed⟩)
  rw [rule_eq, ensures_bind]
  refine (condition_ends whole.view [] sound trusted leaves start).mono
    (fun _ mid ended => ?_) fun _ _ ended => ended
  obtain ⟨advances, walked⟩ := ended
  unfold Build.start check
  simp only [ensures_bind, ensures_context, Bool.true_and]
  by_cases unstarted : mid.context.tupleCursor.isNone = true
  · rw [if_pos unstarted]
    rw [Option.isNone_iff_eq_none] at unstarted
    have none : whole.view.patterns = [] := walked.begun.mp unstarted
    refine initialFact_ends advances.sound (advances.config ▸ trusted) walked.follows unstarted
      (fun builder context log later follows _ => ?_) fun _ _ _ _ later => advances.trans later
    refine ensures_ofOutcome (fun _ _ => ?_) fun _ _ => advances.trans later
    have same : (fun memory => (Except.ok (initialMatches memory) : Outcome (List Match))) =
        fun memory => (whole.view.evaluate memory).outcome := by
      funext memory
      simp only [Condition.evaluate, none, evaluateAll, startingMatches, Traced.outcome_pure]
    refine (@terminal_ends _ ⟨builder, context, log⟩ trust later.sound whole (same ▸ follows)).mono
      (fun _ _ ended => ?_) fun _ _ last => (advances.trans later).trans last
    exact ⟨(advances.trans later).trans ended.1, ended.2⟩
  · rw [if_neg unstarted, ensures_pure]
    refine ensures_ofOutcome (fun _ _ => ?_) fun _ _ => advances
    have some : whole.view.patterns ≠ [] := fun none => by
      simp [walked.begun.mpr none] at unstarted
    have same : progress whole.view.patterns = fun memory => (whole.view.evaluate memory).outcome :=
      funext fun memory => progress_patterns some memory
    refine (terminal_ends advances.sound (same ▸ walked.follows)).mono (fun _ _ ended => ?_)
      fun _ _ last => advances.trans last
    exact ⟨advances.trans ended.1, ended.2⟩

end Build

end RuleNet
