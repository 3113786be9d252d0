/-
**Compiling the use of a pattern.**

Half way through a rule, the tokens at the tuple cursor stand for the matches of the patterns so
far.

* `Follows`: the invariant, which ties the build context to the network;
* `Follows.extended`: a node of the right kind below the cursor extends it by one pattern;
* `ensureAdapter_ends`, `initialFact_ends`: the first tuples of a rule;
* `plain_ends`, `existential_ends`, `accumulate_ends`, `invoke_ends`: the uses of a pattern;
* `use_ends`: **whatever a pattern is used for, it keeps the invariant**.

A step that fails leaves a sound builder.
-/

import RuleNet.Proofs.Build.Sources

namespace RuleNet

open Stateful

/-! ### The invariant -/

/-- **The tokens at the tuple cursor stand for the matches found**, as long as callbacks can be
trusted. Before the first tuple node nothing is bound. -/
structure Follows (trust : Prop) (network : Network) (context : BuildContext)
    (found : WorkingMemory → Outcome (List Match)) : Prop where
  inRange : context.InRange
  unstarted : context.tupleCursor = none →
    context.width = 0 ∧ context.bound = [] ∧ ∀ memory, found memory = .ok [.empty]
  stream : ∀ tuple, context.tupleCursor = some tuple →
    (feedAt network.nodes tuple).stream = some (.tuples context.width)
  tokens : trust → ∀ tuple, context.tupleCursor = some tuple → ∀ memory, found memory =
    ((feedAt network.nodes tuple).tokens memory).map (List.map context.describe)

theorem BuildContext.describe_congr {context other : BuildContext}
    (same : context.bound = other.bound) : context.describe = other.describe := by
  funext token
  simp only [BuildContext.describe, same]

/-- **Where nothing is bound, the constraints read the pattern's own variable only.** -/
theorem Pattern.otherSingles_of_unbound {context : BuildContext} {pattern : Pattern}
    (unbound : context.bound = []) (reads : ∀ single ∈ pattern.constraint.singles,
      ∀ v ∈ single.reads, context.Reads pattern.subject v) : pattern.otherSingles = [] := by
  refine List.filter_eq_nil_iff.mpr fun single member mixed => ?_
  have own : single.reads.all (·.same pattern.subject) = true := by
    refine List.all_eq_true.mpr fun v read => ?_
    rcases reads single member v read with same | ⟨offset, named⟩
    · exact same
    · simp [BuildContext.offset?, unbound] at named
  simp [own] at mixed

namespace Follows

variable {trust : Prop} {network after : Network} {context scope : BuildContext}
  {found : WorkingMemory → Outcome (List Match)} {pattern : Pattern}

/-- A network that grows keeps it. -/
theorem mono (follows : Follows trust network context found) (wider : network.Extends after) :
    Follows trust after context found where
  inRange := follows.inRange
  unstarted := follows.unstarted
  stream tuple cursor := by
    rw [wider.feed (follows.stream tuple cursor)]
    exact follows.stream tuple cursor
  tokens trusts tuple cursor := by
    rw [wider.feed (follows.stream tuple cursor)]
    exact follows.tokens trusts tuple cursor

/-- Only the tuple cursor and the places matter. -/
theorem congr (follows : Follows trust network context found) (same : scope.SameScope context) :
    Follows trust network scope found where
  inRange := by
    intro entry member
    rw [same.width]
    exact follows.inRange entry (same.bound ▸ member)
  unstarted none := by
    rw [same.width, same.bound]
    exact follows.unstarted (same.tupleCursor ▸ none)
  stream tuple cursor := by
    rw [same.width]
    exact follows.stream tuple (same.tupleCursor ▸ cursor)
  tokens trusts tuple cursor := by
    rw [BuildContext.describe_congr same.bound]
    exact follows.tokens trusts tuple (same.tupleCursor ▸ cursor)

/-- **A node of the right kind below the tuple cursor extends the matches by a pattern.** -/
theorem extended (follows : Follows trust network scope found) (layered : Layered network.nodes)
    {tuple id : NodeId} (cursor : scope.tupleCursor = some tuple) (covers : scope.Covers pattern)
    {wanted : Node} (kind : wanted.kind = scope.kindOf pattern)
    (above : wanted.tupleParent = some tuple)
    (supplies : trust → ∀ memory, (if wanted.kind.readsObjects
      then wanted.objectsRead (feedAt network.nodes) memory else .ok []) =
        (pattern.supply memory).outcome)
    (stream : (feedAt after.nodes id).stream = (wanted.feed (feedAt network.nodes)).stream)
    (like : trust → (feedAt after.nodes id).Like (wanted.feed (feedAt network.nodes)))
    (ends : context.SameScope { scope.after pattern with tupleCursor := some id }) :
    Follows trust after context fun memory =>
      found memory >>= fun matching => (pattern.evaluate memory matching).outcome := by
  have width : wanted.widthRead (feedAt network.nodes) = scope.width := by
    simp only [Node.widthRead, above, Feed.width_of_stream (follows.stream tuple cursor)]
  have given : (wanted.feed (feedAt network.nodes)).stream =
      some (.tuples (scope.after pattern).width) := by
    simp only [Node.feed, width, kind]
    exact scope.gives_kindOf pattern
  have beta : wanted.kind.isBeta = true := by
    rw [kind]
    unfold BuildContext.kindOf
    cases pattern.use <;> rfl
  constructor
  · intro entry member
    rw [ends.width]
    exact follows.inRange.after pattern entry (ends.bound ▸ member)
  · intro none
    rw [ends.tupleCursor] at none
    cases none
  · intro last later
    rw [ends.tupleCursor] at later
    cases later
    rw [stream, given, ends.width]
  · intro trusts last later memory
    rw [ends.tupleCursor] at later
    cases later
    rw [(like trusts).tokens _ given, follows.tokens trusts tuple cursor]
    simp only [Node.feed]
    rw [Node.tokensGiven_eq beta, supplies trusts, BuildContext.describe_congr ends.bound]
    simp only [Node.tokensRead, Node.needTuple, above, Outcome.ok_bind]
    cases read : (feedAt network.nodes tuple).tokens memory with
    | error failure => rfl
    | ok tokens =>
      have wide := layered.tokens_width (follows.stream tuple cursor) read
      simp only [Except.map, Outcome.ok_bind, Pattern.evaluate, Traced.outcome_bind,
        follows.inRange.operate_kindOf covers wide, kind]
      exact (Outcome.map_bind _ _).symm

/-- The first plain pattern of a view has no match to read, so its objects are its matches. -/
theorem started {adapter : NodeId}
    (follows : Follows trust network scope found) (fresh : scope.tupleCursor = none)
    (plain : pattern.use = .plain)
    (reads : ∀ single ∈ pattern.constraint.singles, ∀ v ∈ single.reads,
      scope.Reads pattern.subject v)
    (stream : (feedAt after.nodes adapter).stream = some (.tuples 1))
    (tokens : trust → ∀ memory, (feedAt after.nodes adapter).tokens memory =
      (pattern.candidates memory).outcome.map (List.map Token.ofHeld))
    (ends : context.SameScope { scope.bind pattern.subject with tupleCursor := some adapter }) :
    Follows trust after context fun memory =>
      found memory >>= fun matching => (pattern.evaluate memory matching).outcome := by
  obtain ⟨width, bound, start⟩ := follows.unstarted fresh
  have alone := Pattern.otherSingles_of_unbound bound reads
  have places : context.bound = [(pattern.subject, 0)] := by
    rw [ends.bound]
    simp [BuildContext.bind, bound, width]
  have wide : context.width = 1 := by
    rw [ends.width]
    simp [BuildContext.bind, width]
  constructor
  · intro entry member
    rw [places, List.mem_singleton] at member
    rw [member, wide]
    exact Nat.one_pos
  · intro none
    rw [ends.tupleCursor] at none
    cases none
  · intro tuple cursor
    rw [ends.tupleCursor] at cursor
    cases cursor
    rw [stream, wide]
  · intro trusts tuple cursor memory
    rw [ends.tupleCursor] at cursor
    cases cursor
    rw [start, tokens trusts, Outcome.ok_bind, Pattern.evaluate_first plain alone]
    cases (pattern.candidates memory).outcome with
    | error failure => rfl
    | ok objects =>
      simp only [Except.map, List.map_map]
      refine congrArg Except.ok (List.map_congr_left fun held _ => ?_)
      simp [BuildContext.describe, places, Match.bind, Match.empty, Token.ofHeld, Token.extend]

end Follows

/-! ### Adapters -/

namespace Build

open Builder

variable {callbacks : Callback → Prop} {bench : Workbench} {bad : Failure → Workbench → Prop}
  {trust : Prop}

/-- **An adapter below the object cursor** turns objects into tuples of one value. -/
theorem ensureAdapter_ends {good : NodeId → Workbench → Prop}
    (sound : bench.builder.Sound callbacks)
    (trusted : trust → Trusted callbacks bench.builder.config) {object : NodeId}
    {supply : WorkingMemory → Outcome (List Held)} (fresh : bench.context.tupleCursor = none)
    (cursor : bench.context.objectCursor = some object)
    (supplies : bench.builder.network.Supplies trust object supply)
    (ended : ∀ id builder context log, Advances callbacks bench.builder builder →
      context.SameScope { bench.context with tupleCursor := some id } →
      (feedAt builder.network.nodes id).stream = some (.tuples 1) →
      (trust → ∀ memory, (feedAt builder.network.nodes id).tokens memory =
        (supply memory).map (List.map Token.ofHeld)) →
      good id ⟨builder, context, log⟩)
    (failed : ∀ failure builder context log, Advances callbacks bench.builder builder →
      bad failure ⟨builder, context, log⟩) :
    Ensures ensureAdapter bench good bad := by
  unfold ensureAdapter
  simp only [ensures_bind, ensures_context, fresh]
  refine ensures_ofOutcome (fun found required => ?_) fun failure _ =>
    failed failure _ _ _ sound.advances
  obtain rfl : object = found := by
    simpa [BuildContext.requireObjectCursor, cursor] using required
  simp only [ensures_builder]
  split
  · exact failed _ _ _ _ sound.advances
  · rename_i root _
    simp only [ensures_bind, ensures_modifyContext, ensures_builder, ensures_pure]
    refine grow_ends BuildConfig.shareBeta sound ?_ ?_
      (fun wanted id builder log kind above _ advances attached => ?_)
      fun failure builder log advances => failed failure builder _ log advances
    · exact fun id => ⟨⟨object, rfl, supplies.stream⟩, rfl⟩
    · exact fun _ none => by cases none
    have given : (wanted.feed (feedAt bench.builder.network.nodes)).stream = some (.tuples 1) := by
      simp only [Node.feed, kind, NodeKind.gives]
    refine ensures_report fun tracer log => ended id _ _ log (advances.traced tracer)
      ⟨rfl, rfl, rfl⟩ (attached.stream.trans given) fun trusts memory => ?_
    have like := attached.like fun shared => Or.inr (trusted trusts (Or.inr shared))
    show (feedAt builder.network.nodes id).tokens memory = _
    rw [like.tokens 1 given]
    simp only [Node.feed, Node.tokensGiven, kind, Node.objectsRead, Node.needObject, above,
      Outcome.ok_bind, supplies.objects trusts]
    exact Outcome.bind_map_ok _

/-- **The initial fact starts the match.** -/
theorem initialFact_ends {good : Unit → Workbench → Prop} (sound : bench.builder.Sound callbacks)
    (trusted : trust → Trusted callbacks bench.builder.config)
    {found : WorkingMemory → Outcome (List Match)}
    (follows : Follows trust bench.builder.network bench.context found)
    (fresh : bench.context.tupleCursor = none)
    (ended : ∀ builder context log, Advances callbacks bench.builder builder →
      Follows trust builder.network context (fun memory => .ok (initialMatches memory)) →
      context.tupleCursor ≠ none → good () ⟨builder, context, log⟩)
    (failed : ∀ failure builder context log, Advances callbacks bench.builder builder →
      bad failure ⟨builder, context, log⟩) :
    Ensures initialFact bench good bad := by
  obtain ⟨width, bound, _⟩ := follows.unstarted fresh
  unfold initialFact
  simp only [ensures_bind, ensures_modifyContext]
  refine entryPointRoot_ends sound defaultEntryPoint
    (fun root node builder log advances there kind => ?_)
    fun failure builder log advances => failed failure builder _ log advances
  refine objectTypeNode_ends advances.sound .initialFact
    (advances.sound.supplies_entryPoint trust there kind)
    (fun narrowed mid log narrows supplies => ?_)
    fun failure mid log narrows => failed failure mid _ log (advances.trans narrows)
  have onward := advances.trans narrows
  refine ensures_report fun tracer log => ?_
  refine ensureAdapter_ends (onward.traced tracer).sound (onward.config ▸ trusted) fresh rfl
    supplies (fun id last context log later same stream tokens => ?_)
    fun failure last context log later => failed failure last context log
      ((onward.traced tracer).trans later)
  refine ended last _ log ((onward.traced tracer).trans later) ?_ ?_
  · have places : context.reserve.bound = [] := same.bound.trans bound
    have wide : context.reserve.width = 1 := congrArg (· + 1) (same.width.trans width)
    constructor
    · intro entry member
      rw [places] at member
      cases member
    · intro none
      have set : context.tupleCursor = some id := same.tupleCursor
      exact absurd (set.symm.trans none) (by simp)
    · intro tuple cursor
      obtain rfl : id = tuple := Option.some.inj (same.tupleCursor.symm.trans cursor)
      rw [stream, wide]
    · intro trusts tuple cursor memory
      obtain rfl : id = tuple := Option.some.inj (same.tupleCursor.symm.trans cursor)
      rw [tokens trusts]
      simp only [Except.map, initialMatches, Operator.narrow, List.map_map,
        BuildContext.describe, places, List.map_nil, Function.comp_def]
  · have set : context.tupleCursor = some id := same.tupleCursor
    show context.tupleCursor ≠ none
    rw [set]
    exact Option.some_ne_none id

/-! ### Patterns -/

/-- **The node that a pattern becomes**, below the tuple cursor, extends the matches by it. -/
theorem extend_ends {good : Unit → Workbench → Prop} (sound : bench.builder.Sound callbacks)
    (trusted : trust → Trusted callbacks bench.builder.config) {pattern : Pattern}
    (own : ∀ callback ∈ pattern.callbacks, callbacks callback) {scope : BuildContext}
    {found : WorkingMemory → Outcome (List Match)}
    (follows : Follows trust bench.builder.network scope found) {tuple : NodeId}
    (cursor : scope.tupleCursor = some tuple) (covers : scope.Covers pattern)
    {object : Option NodeId}
    (reads : if (scope.kindOf pattern).readsObjects
      then ∃ id, object = some id ∧
        bench.builder.network.Supplies trust id fun memory => (pattern.supply memory).outcome
      else object = none ∧ ∀ memory, (pattern.supply memory).outcome = .ok [])
    (ended : ∀ id builder log, Advances callbacks bench.builder builder →
      (∀ context : BuildContext,
        context.SameScope { scope.after pattern with tupleCursor := some id } →
        Follows trust builder.network context fun memory =>
          found memory >>= fun matching => (pattern.evaluate memory matching).outcome) →
      good () ⟨builder, bench.context.absorb id, log⟩)
    (failed : ∀ failure builder context log, Advances callbacks bench.builder builder →
      bad failure ⟨builder, context, log⟩) :
    Ensures (extend (scope.kindOf pattern) tuple object) bench good bad := by
  have tuples : (scope.kindOf pattern).readsTuples = true := by
    unfold BuildContext.kindOf
    cases pattern.use <;> rfl
  unfold extend
  simp only [ensures_bind, ensures_builder, ensures_modifyContext]
  refine grow_ends BuildConfig.shareBeta sound (fun id => ⟨?_, ?_⟩) ?_
    (fun wanted id builder log kind side above advances attached => ?_)
    fun failure builder log advances => failed failure builder _ log advances
  · by_cases readsObjects : (scope.kindOf pattern).readsObjects = true
    · rw [if_pos readsObjects] at reads
      obtain ⟨parent, rfl, supplies⟩ := reads
      exact (if_pos readsObjects).mpr ⟨parent, rfl, supplies.stream⟩
    · rw [if_neg readsObjects] at reads
      exact (if_neg readsObjects).mpr reads.1
  · exact (if_pos tuples).mpr ⟨tuple, scope.width, rfl, follows.stream tuple cursor,
      follows.inRange.within_kindOf covers⟩
  · exact fun callback listed => own callback (scope.callbacks_kindOf pattern callback listed)
  refine ended id builder log advances fun context ends => ?_
  refine follows.extended sound.layered cursor covers kind above (fun trusts memory => ?_)
    attached.stream (fun trusts => attached.like fun shared => Or.inr
      (trusted trusts (Or.inr shared))) ends
  rw [kind]
  by_cases readsObjects : (scope.kindOf pattern).readsObjects = true
  · rw [if_pos readsObjects] at reads ⊢
    obtain ⟨parent, rfl, supplies⟩ := reads
    simp only [Node.objectsRead, Node.needObject, side, Outcome.ok_bind, supplies.objects trusts]
  · rw [if_neg readsObjects] at reads ⊢
    rw [reads.2 memory]

/-- **A pattern with its objects at hand**: its variables have places, and its candidates are at the
object cursor. -/
structure AtHand (trust : Prop) (network : Network) (context : BuildContext) (pattern : Pattern)
    (found : WorkingMemory → Outcome (List Match)) (object : NodeId) : Prop where
  follows : Follows trust network context found
  reads : ∀ single ∈ pattern.constraint.singles, ∀ v ∈ single.reads,
    context.Reads pattern.subject v
  cursor : context.objectCursor = some object
  supplies : network.Supplies trust object fun memory => (pattern.candidates memory).outcome

section

variable {good : Unit → Workbench → Prop} {pattern : Pattern}
  {found : WorkingMemory → Outcome (List Match)}

/-- The objects of a pattern, for the steps below. -/
theorem objects_atHand {good : List BoundConstraint → Workbench → Prop}
    (sound : bench.builder.Sound callbacks)
    (trusted : trust → Trusted callbacks bench.builder.config)
    (own : ∀ callback ∈ pattern.callbacks, callbacks callback)
    (follows : Follows trust bench.builder.network bench.context found)
    (ended : ∀ object builder context log, Advances callbacks bench.builder builder →
      AtHand trust builder.network context pattern found object →
      good (pattern.otherSingles.map (context.placed pattern.subject)) ⟨builder, context, log⟩)
    (failed : ∀ failure builder context log, Advances callbacks bench.builder builder →
      bad failure ⟨builder, context, log⟩) :
    Ensures (objects pattern) bench good bad := by
  refine objects_ends sound trusted own
    (fun object builder context log advances same cursor supplies reads => ?_) failed
  rw [← same.placed]
  simp only [← same.reads] at reads
  exact ended object builder context log advances
    ⟨(follows.mono advances.network).congr same, reads, cursor, supplies⟩

/-- The node of a pattern that has its objects at hand. -/
theorem extend_atHand {object tuple : NodeId} {scope : BuildContext}
    (sound : bench.builder.Sound callbacks)
    (trusted : trust → Trusted callbacks bench.builder.config)
    (own : ∀ callback ∈ pattern.callbacks, callbacks callback)
    (atHand : AtHand trust bench.builder.network scope pattern found object)
    (begun : scope.tupleCursor = some tuple)
    (reads : ∀ invocation, pattern.use ≠ .invoke invocation)
    (ended : ∀ id builder log, Advances callbacks bench.builder builder →
      (∀ context : BuildContext,
        context.SameScope { scope.after pattern with tupleCursor := some id } →
        Follows trust builder.network context fun memory =>
          found memory >>= fun matching => (pattern.evaluate memory matching).outcome) →
      good () ⟨builder, bench.context.absorb id, log⟩)
    (failed : ∀ failure builder context log, Advances callbacks bench.builder builder →
      bad failure ⟨builder, context, log⟩) :
    Ensures (extend (scope.kindOf pattern) tuple (some object)) bench good bad := by
  have known : (scope.kindOf pattern).readsObjects = true ∧
      ∀ memory, pattern.supply memory = pattern.candidates memory := by
    unfold BuildContext.kindOf Pattern.supply
    cases how : pattern.use with
    | invoke invocation => exact absurd how (reads invocation)
    | _ => exact ⟨rfl, fun _ => rfl⟩
  refine extend_ends sound trusted own atHand.follows begun
    ⟨atHand.reads, fun invocation how => absurd how (reads invocation)⟩ ?_ ended failed
  rw [if_pos known.1]
  refine ⟨object, rfl, ?_⟩
  simpa only [known.2] using atHand.supplies

variable {builder : Builder} {context : BuildContext} {log : List LogLine} {object : NodeId}

theorem plain_ends (sound : builder.Sound callbacks)
    (trusted : trust → Trusted callbacks builder.config)
    (own : ∀ callback ∈ pattern.callbacks, callbacks callback) (how : pattern.use = .plain)
    (atHand : AtHand trust builder.network context pattern found object)
    (ended : ∀ after context log, Advances callbacks builder after →
      (Follows trust after.network context fun memory =>
        found memory >>= fun matching => (pattern.evaluate memory matching).outcome) →
      context.tupleCursor ≠ none → good () ⟨after, context, log⟩)
    (failed : ∀ failure after context log, Advances callbacks builder after →
      bad failure ⟨after, context, log⟩) :
    Ensures (plain pattern.subject (pattern.otherSingles.map (context.placed pattern.subject)))
      ⟨builder, context, log⟩ good bad := by
  unfold plain
  simp only [ensures_bind, ensures_context, BuildContext.requireObjectCursor, atHand.cursor]
  cases begun : context.tupleCursor with
  | none =>
    simp only [ensures_bind, ensures_modifyContext]
    refine ensureAdapter_ends sound trusted begun atHand.cursor atHand.supplies
      (fun id last after log later scope stream tokens => ?_) failed
    refine ended last _ log later (atHand.follows.started begun how atHand.reads stream tokens
      (scope.bind pattern.subject)) ?_
    have set := scope.tupleCursor
    exact fun none => Option.some_ne_none id (set.symm.trans none)
  | some tuple =>
    have kind : context.kindOf pattern =
        .join (pattern.otherSingles.map (context.placed pattern.subject)) := by
      simp only [BuildContext.kindOf, how]
    have after : context.after pattern = context.bind pattern.subject := by
      simp only [BuildContext.after, how]
    simp only [ensures_bind, ensures_modifyContext, ensures_ofOutcome_ok]
    rw [← kind]
    refine extend_atHand sound trusted own atHand begun (by simp [how])
      (fun id last log later follows => ?_) failed
    refine ended last _ log later (follows _ ?_) (Option.some_ne_none id)
    rw [after]
    exact ⟨rfl, rfl, rfl⟩

theorem existential_ends {quantifier : Quantifier} (sound : builder.Sound callbacks)
    (trusted : trust → Trusted callbacks builder.config)
    (own : ∀ callback ∈ pattern.callbacks, callbacks callback)
    (how : pattern.use = .existential quantifier)
    (atHand : AtHand trust builder.network context pattern found object)
    (ended : ∀ after context log, Advances callbacks builder after →
      (Follows trust after.network context fun memory =>
        found memory >>= fun matching => (pattern.evaluate memory matching).outcome) →
      context.tupleCursor ≠ none → good () ⟨after, context, log⟩)
    (failed : ∀ failure after context log, Advances callbacks builder after →
      bad failure ⟨after, context, log⟩) :
    Ensures (existential quantifier (pattern.otherSingles.map (context.placed pattern.subject)))
      ⟨builder, context, log⟩ good bad := by
  have kind : context.kindOf pattern =
      .existential quantifier (pattern.otherSingles.map (context.placed pattern.subject)) := by
    simp only [BuildContext.kindOf, how]
  have after : context.after pattern = context.reserve := by
    simp only [BuildContext.after, how]
  unfold existential
  simp only [ensures_bind, ensures_context, BuildContext.requireObjectCursor, atHand.cursor,
    ensures_ofOutcome_ok, ensures_modifyContext]
  refine ensures_ofOutcome (fun tuple begun => ?_)
    fun failure _ => failed failure _ _ _ sound.advances
  rw [← kind]
  refine extend_atHand sound trusted own atHand (BuildContext.requireTupleCursor_ok begun)
    (by simp [how]) (fun id last log later follows => ?_) failed
  refine ended last _ log later (follows _ ?_) (Option.some_ne_none id)
  rw [after]
  exact ⟨rfl, rfl, rfl⟩

theorem accumulate_ends {bindings : List Binding} (sound : builder.Sound callbacks)
    (trusted : trust → Trusted callbacks builder.config)
    (own : ∀ callback ∈ pattern.callbacks, callbacks callback)
    (how : pattern.use = .accumulate bindings)
    (atHand : AtHand trust builder.network context pattern found object)
    (ended : ∀ after context log, Advances callbacks builder after →
      (Follows trust after.network context fun memory =>
        found memory >>= fun matching => (pattern.evaluate memory matching).outcome) →
      context.tupleCursor ≠ none → good () ⟨after, context, log⟩)
    (failed : ∀ failure after context log, Advances callbacks builder after →
      bad failure ⟨after, context, log⟩) :
    Ensures (accumulate bindings (pattern.otherSingles.map (context.placed pattern.subject)))
      ⟨builder, context, log⟩ good bad := by
  have kind : context.kindOf pattern =
      .accumulate (pattern.otherSingles.map (context.placed pattern.subject)) []
        (context.placeAll bindings) := by
    simp only [BuildContext.kindOf, how]
  have after : context.after pattern = context.bindResults bindings := by
    simp only [BuildContext.after, how]
  unfold accumulate
  simp only [ensures_bind, ensures_context, BuildContext.requireObjectCursor, atHand.cursor,
    ensures_ofOutcome_ok, ensures_placeAggregates]
  refine ensures_ofOutcome (fun tuple begun => ?_)
    fun failure _ => failed failure _ _ _ sound.advances
  -- the results have their places before the node is made
  rw [← kind]
  refine extend_atHand sound trusted own atHand (BuildContext.requireTupleCursor_ok begun)
    (by simp [how]) (fun id last log later follows => ?_) failed
  refine ended last _ log later (follows _ ?_) (Option.some_ne_none id)
  rw [after]
  exact ⟨rfl, rfl, rfl⟩

theorem invoke_ends {invocation : Invocation} (sound : bench.builder.Sound callbacks)
    (trusted : trust → Trusted callbacks bench.builder.config)
    (own : ∀ callback ∈ pattern.callbacks, callbacks callback)
    (how : pattern.use = .invoke invocation)
    (follows : Follows trust bench.builder.network bench.context found)
    (ended : ∀ after context log, Advances callbacks bench.builder after →
      (Follows trust after.network context fun memory =>
        found memory >>= fun matching => (pattern.evaluate memory matching).outcome) →
      context.tupleCursor ≠ none → good () ⟨after, context, log⟩)
    (failed : ∀ failure after context log, Advances callbacks bench.builder after →
      bad failure ⟨after, context, log⟩) :
    Ensures (invoke pattern invocation) bench good bad := by
  unfold invoke
  simp only [ensures_bind, ensures_context, ensures_modifyContext]
  refine ensures_ofOutcome (fun tuple begun => ?_) fun failure _ =>
    failed failure _ _ _ sound.advances
  refine ensures_ofOutcome (fun args required => ?_) fun failure _ =>
    failed failure _ _ _ sound.advances
  obtain ⟨rfl, params⟩ := BuildContext.mapM_requireOffset required
  have reported : Keeps (fun after => Advances callbacks bench.builder after.builder ∧
      after.context = bench.context)
      ((pattern.constraint.singles.filter SingleConstraint.isConstant).forM skip) := by
    refine keeps_forM fun single _ after held => ?_
    exact ensures_report fun tracer log => ⟨held.1.traced tracer, held.2⟩
  refine (reported bench ⟨sound.advances, rfl⟩).mono (fun _ after kept => ?_)
    fun failure after kept => failed failure _ _ _ kept.1
  obtain ⟨builder, context, lines⟩ := after
  obtain ⟨advances, rfl⟩ := kept
  refine ensures_ofOutcome (fun constraints bound => ?_) fun failure _ =>
    failed failure _ _ _ advances
  obtain ⟨rfl, reads⟩ := SingleConstraint.bindAll_ok bound
  have kind : bench.context.kindOf pattern =
      .invoker invocation (invocation.params.map fun v => (bench.context.offset? v).getD 0)
        (pattern.readingSingles.map (bench.context.placed pattern.subject)) := by
    simp only [BuildContext.kindOf, how]
  have after : bench.context.after pattern = bench.context.bind pattern.subject := by
    simp only [BuildContext.after, how]
  have covers : bench.context.Covers pattern := by
    refine ⟨fun single member v read => ?_, fun other use => ?_⟩
    · refine reads single (List.mem_filter.mpr ⟨member, ?_⟩) v read
      cases constant : single.isConstant with
      | false => rfl
      | true =>
        rw [List.isEmpty_iff.mp constant] at read
        cases read
    · rw [how] at use
      cases use
      exact params
  rw [show (pattern.constraint.singles.filter fun single => !single.isConstant) =
    pattern.readingSingles from rfl, ← kind]
  refine extend_ends advances.sound (advances.config ▸ trusted) own
    (follows.mono advances.network) (BuildContext.requireTupleCursor_ok begun) covers ?_
    (fun id last log later follows => ?_)
    fun failure last after log later => failed failure last after log (advances.trans later)
  · rw [kind]
    refine ⟨rfl, fun memory => ?_⟩
    simp only [Pattern.supply, how, Traced.outcome_pure]
  · refine ended last _ log (advances.trans later) (follows _ ?_) (Option.some_ne_none id)
    rw [after]
    exact ⟨rfl, rfl, rfl⟩
end

/-- **A pattern extends the matches**, once a match is started. -/
theorem use_ends {good : Unit → Workbench → Prop} (sound : bench.builder.Sound callbacks)
    (trusted : trust → Trusted callbacks bench.builder.config) {pattern : Pattern}
    (own : ∀ callback ∈ pattern.callbacks, callbacks callback)
    {found : WorkingMemory → Outcome (List Match)}
    (follows : Follows trust bench.builder.network bench.context found)
    (ended : ∀ builder context log, Advances callbacks bench.builder builder →
      (Follows trust builder.network context fun memory =>
        found memory >>= fun matching => (pattern.evaluate memory matching).outcome) →
      context.tupleCursor ≠ none → good () ⟨builder, context, log⟩)
    (failed : ∀ failure builder context log, Advances callbacks bench.builder builder →
      bad failure ⟨builder, context, log⟩) :
    Ensures (use pattern) bench good bad := by
  unfold use
  cases how : pattern.use with
  | plain =>
    simp only [ensures_bind]
    refine objects_atHand sound trusted own follows
      (fun object builder context log advances atHand => ?_) failed
    exact plain_ends advances.sound (advances.config ▸ trusted) own how atHand
      (fun last after log later => ended last after log (advances.trans later))
      fun failure last after log later => failed failure last after log (advances.trans later)
  | existential quantifier =>
    simp only [ensures_bind]
    refine objects_atHand sound trusted own follows
      (fun object builder context log advances atHand => ?_) failed
    exact existential_ends advances.sound (advances.config ▸ trusted) own how atHand
      (fun last after log later => ended last after log (advances.trans later))
      fun failure last after log later => failed failure last after log (advances.trans later)
  | accumulate bindings =>
    simp only [ensures_bind]
    refine objects_atHand sound trusted own follows
      (fun object builder context log advances atHand => ?_) failed
    exact accumulate_ends advances.sound (advances.config ▸ trusted) own how atHand
      (fun last after log later => ended last after log (advances.trans later))
      fun failure last after log later => failed failure last after log (advances.trans later)
  | invoke invocation => exact invoke_ends sound trusted own how follows ended failed

end Build

end RuleNet
