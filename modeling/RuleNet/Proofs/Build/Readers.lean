/-
**What the nodes of a rule read.**

A variable takes the next place of the tuple whenever a pattern binds it, also if it has a place
already. Nothing tells the two apart by name: whoever reads the variable reads its first place.

* `Pattern.binds`: the variables that a pattern binds;
* `NodeKind.reads`: the places that a node reads;
* `Builder.readers`: the nodes below tuples that the factory was asked for;
* `Placed`: the invariant between patterns. A pattern keeps it (`Placed.extended`), because places
  that are taken stay as they are;
* `Quiet`: what the steps up to the object cursor leave alone;
* `use_placed`, `condition_placed`: **patterns and views**;
* `addRule_placed`: **an accepted rule, whatever the factory makes of its nodes.**
-/

import RuleNet.Proofs.Build.Compiled

namespace RuleNet

open Stateful

/-! ### Readers -/

/-- **The variables that a pattern binds**, in order. -/
def Pattern.binds (pattern : Pattern) : List Variable :=
  match pattern.use with
  | .plain | .invoke _ => [pattern.subject]
  | .existential _ => []
  | .accumulate bindings => bindings.map Binding.result

namespace NodeKind

/-- The constraints that a node tests with a tuple. -/
def constraints : NodeKind → List BoundConstraint
  | join constraints | existential _ constraints | invoker _ _ constraints => constraints
  | accumulate source results _ => source ++ results
  | _ => []

/-- The places whose values a node passes on, to a function or to a consequence. -/
def passed : NodeKind → List Nat
  | invoker _ args _ => args
  | .terminal last => last.bindings
  | _ => []

/-- **What a node reads of a tuple.** -/
def reads (kind : NodeKind) : List BoundConstraint × List Nat :=
  (kind.constraints, kind.passed)

end NodeKind

/-- **The kinds of the nodes below tuples that the factory was asked for**, oldest first. -/
def Builder.readers (builder : Builder) : List NodeKind :=
  (builder.requests.filter fun wanted => wanted.tupleParent.isSome).reverse.map NodeRequest.kind

/-- Asking for a node below a tuple adds a reader. -/
theorem Builder.readers_asked (builder : Builder) (ids : IdSupply) (wanted : NodeRequest) :
    (builder.asked ids wanted).readers =
      builder.readers ++ if wanted.tupleParent.isSome then [wanted.kind] else [] := by
  unfold readers asked
  rw [List.filter_cons]
  split <;> simp

/-- The patterns that extend a match. A plain pattern at the front starts it instead. -/
def extending : List Pattern → List Pattern
  | [] => []
  | first :: rest => if first.needsTuple then first :: rest else rest

theorem extending_append {done : List Pattern} {leaf : Pattern}
    (begun : done ≠ [] ∨ leaf.needsTuple = true) :
    extending (done ++ [leaf]) = extending done ++ [leaf] := by
  cases done with
  | nil =>
    have needs : leaf.needsTuple = true := begun.resolve_left fun some => some rfl
    simp [extending, needs]
  | cons first rest =>
    simp only [List.cons_append, extending]
    split <;> rfl

/-! ### Places that are taken -/

namespace BuildContext

variable {context later : BuildContext} {leaf : Pattern} {own v : Variable}

/-- What a pattern binds takes places behind those that are taken. -/
theorem bound_after (context : BuildContext) (leaf : Pattern) :
    ∃ places, (context.after leaf).bound = context.bound ++ places ∧
      places.map Prod.fst = leaf.binds ∧ (places.map Prod.snd).Pairwise (· < ·) ∧
        ∀ entry ∈ places, context.width ≤ entry.2 := by
  have results : ∀ (bindings : List Binding) (context : BuildContext),
      ∃ places, (context.bindResults bindings).bound = context.bound ++ places ∧
        places.map Prod.fst = bindings.map Binding.result ∧
          (places.map Prod.snd).Pairwise (· < ·) ∧ ∀ entry ∈ places, context.width ≤ entry.2 := by
    intro bindings
    induction bindings with
    | nil => exact fun context => ⟨[], by simp [bindResults]⟩
    | cons binding rest hypothesis =>
      intro context
      obtain ⟨places, bound, names, rising, behind⟩ := hypothesis (context.bind binding.result)
      refine ⟨(binding.result, context.width) :: places, ?_, by simp [names], ?_, ?_⟩
      · show ((context.bind binding.result).bindResults rest).bound = _
        rw [bound]
        simp [BuildContext.bind]
      · refine List.pairwise_cons.mpr ⟨fun place listed => ?_, rising⟩
        obtain ⟨entry, member, rfl⟩ := List.mem_map.mp listed
        exact behind entry member
      · intro entry listed
        rcases List.mem_cons.mp listed with rfl | member
        · exact Nat.le_refl _
        · exact Nat.le_of_succ_le (behind entry member)
  unfold BuildContext.after Pattern.binds
  cases leaf.use with
  | plain => exact ⟨[(leaf.subject, context.width)], by simp [BuildContext.bind]⟩
  | invoke invocation => exact ⟨[(leaf.subject, context.width)], by simp [BuildContext.bind]⟩
  | existential quantifier => exact ⟨[], by simp [BuildContext.reserve]⟩
  | accumulate bindings => exact results bindings context

/-- **A variable keeps its place**, whatever is bound later. -/
theorem offset?_mono {offset : Nat} (wider : context.bound <+: later.bound)
    (named : context.offset? v = some offset) : later.offset? v = some offset := by
  obtain ⟨places, bound⟩ := wider
  unfold offset? at named ⊢
  obtain ⟨entry, found, rfl⟩ := Option.map_eq_some_iff.mp named
  rw [← bound, List.find?_append, found]
  rfl

theorem Reads.mono (wider : context.bound <+: later.bound) (bound : context.Reads own v) :
    later.Reads own v :=
  bound.imp_right fun ⟨offset, named⟩ => ⟨offset, offset?_mono wider named⟩

theorem Covers.mono (covers : context.Covers leaf) (wider : context.bound <+: later.bound) :
    later.Covers leaf where
  singles single listed v read := (covers.singles single listed v read).mono wider
  params invocation how v given := by
    obtain ⟨offset, named⟩ := covers.params invocation how v given
    exact ⟨offset, offset?_mono wider named⟩

/-- **What the node of a pattern reads can be told from any later places.** -/
theorem Covers.reads_kindOf (covers : context.Covers leaf) (wider : context.bound <+: later.bound) :
    (later.kindOf leaf).reads = (context.kindOf leaf).reads := by
  have slot : ∀ single ∈ leaf.constraint.singles, ∀ v ∈ single.reads,
      later.slot leaf.subject v = context.slot leaf.subject v := by
    intro single listed v read
    unfold BuildContext.slot
    rcases covers.singles single listed v read with own | ⟨offset, named⟩
    · rw [if_pos own, if_pos own]
    · rw [named, offset?_mono wider named]
  have placed : ∀ singles : List SingleConstraint,
      (∀ single ∈ singles, single ∈ leaf.constraint.singles) →
        singles.map (later.placed leaf.subject) = singles.map (context.placed leaf.subject) := by
    intro singles own
    refine List.map_congr_left fun single listed => ?_
    unfold BuildContext.placed
    rw [List.map_congr_left (slot single (own single listed))]
  have others := placed leaf.otherSingles fun single listed => (List.mem_filter.mp listed).1
  have readers := placed leaf.readingSingles fun single listed => (List.mem_filter.mp listed).1
  unfold kindOf NodeKind.reads
  cases how : leaf.use with
  | invoke invocation =>
    have args : (invocation.params.map fun v => (later.offset? v).getD 0) =
        invocation.params.map fun v => (context.offset? v).getD 0 := by
      refine List.map_congr_left fun v given => ?_
      obtain ⟨offset, named⟩ := covers.params invocation how v given
      rw [named, offset?_mono wider named]
    simp only [NodeKind.constraints, NodeKind.passed, readers, args]
  | _ => simp only [NodeKind.constraints, NodeKind.passed, others]

/-- The constraints of an invocation that read no variable read no place. -/
theorem covers_of_reading {invocation : Invocation} (how : leaf.use = .invoke invocation)
    (reads : ∀ single ∈ leaf.readingSingles, ∀ v ∈ single.reads, context.Reads leaf.subject v)
    (params : ∀ v ∈ invocation.params, ∃ offset, context.offset? v = some offset) :
    context.Covers leaf := by
  refine ⟨fun single listed v read => ?_, fun other use => ?_⟩
  · refine reads single (List.mem_filter.mpr ⟨listed, ?_⟩) v read
    cases constant : single.isConstant with
    | false => rfl
    | true =>
      rw [List.isEmpty_iff.mp constant] at read
      cases read
  · rw [how] at use
    cases use
    exact params

namespace SameScope

variable {other : BuildContext}

theorem bindResults (same : context.SameScope other) (bindings : List Binding) :
    (context.bindResults bindings).SameScope (other.bindResults bindings) := by
  induction bindings generalizing context other with
  | nil => exact same
  | cons binding rest hypothesis => exact hypothesis (same.bind binding.result)

theorem placeAll (same : context.SameScope other) (bindings : List Binding) :
    context.placeAll bindings = other.placeAll bindings := by
  induction bindings generalizing context other with
  | nil => rfl
  | cons binding rest hypothesis =>
    simp only [BuildContext.placeAll, same.width, hypothesis (same.bind binding.result)]

end SameScope

end BuildContext

/-! ### The invariant -/

/-- **The places after some patterns, and the nodes that read them.** Places rise, each variable has
one for every pattern that binds it, and every reader of a variable reads the first of them. -/
structure Placed (context : BuildContext) (done : List Pattern) (readers : List NodeKind) :
    Prop where
  rising : (context.bound.map Prod.snd).Pairwise (· < ·)
  inRange : context.InRange
  bound : context.bound.map Prod.fst = done.flatMap Pattern.binds
  opened : ∀ leaf, done.head? = some leaf → leaf.needsTuple = false →
    ∀ single ∈ leaf.constraint.singles, ∀ v ∈ single.reads, v.same leaf.subject = true
  covers : ∀ leaf ∈ extending done, context.Covers leaf
  reads : readers.map NodeKind.reads =
    (extending done).map fun leaf => (context.kindOf leaf).reads

namespace Placed

variable {context scope : BuildContext} {done : List Pattern} {leaf : Pattern}
  {readers : List NodeKind}

theorem new (name : String) : Placed (.new name) [] [] where
  rising := .nil
  inRange _ member := nomatch member
  bound := rfl
  opened _ first := nomatch first
  covers _ member := nomatch member
  reads := rfl

/-- Cursors and frames do not matter, and places without a name may be taken. -/
theorem widen (placed : Placed context done readers) (bound : scope.bound = context.bound)
    (wider : context.width ≤ scope.width) : Placed scope done readers where
  rising := by rw [bound]; exact placed.rising
  inRange entry member := Nat.lt_of_lt_of_le (placed.inRange entry (bound ▸ member)) wider
  bound := by rw [bound]; exact placed.bound
  opened := placed.opened
  covers leaf member := (placed.covers leaf member).mono (bound ▸ List.prefix_refl _)
  reads := by
    rw [placed.reads]
    refine List.map_congr_left fun leaf member => ?_
    exact ((placed.covers leaf member).reads_kindOf (bound ▸ List.prefix_refl _)).symm

/-- The places after a pattern. -/
theorem after (placed : Placed context done readers) (leaf : Pattern) :
    ((context.after leaf).bound.map Prod.snd).Pairwise (· < ·) ∧
      (context.after leaf).bound.map Prod.fst = (done ++ [leaf]).flatMap Pattern.binds := by
  obtain ⟨places, bound, names, rising, behind⟩ := context.bound_after leaf
  rw [bound, List.map_append, List.map_append, List.pairwise_append]
  refine ⟨⟨placed.rising, rising, fun before earlier next later => ?_⟩, ?_⟩
  · obtain ⟨entry, member, rfl⟩ := List.mem_map.mp earlier
    obtain ⟨other, listed, rfl⟩ := List.mem_map.mp later
    exact Nat.lt_of_lt_of_le (placed.inRange entry member) (behind other listed)
  · rw [placed.bound, names, List.flatMap_append]
    simp

/-- Places that were taken are those of the patterns before. -/
theorem covers_after (placed : Placed context done readers) :
    (∀ other ∈ extending done, (context.after leaf).Covers other) ∧
      readers.map NodeKind.reads =
        (extending done).map fun other => ((context.after leaf).kindOf other).reads := by
  obtain ⟨places, bound, _⟩ := context.bound_after leaf
  have wider : context.bound <+: (context.after leaf).bound := ⟨places, bound.symm⟩
  refine ⟨fun other member => (placed.covers other member).mono wider, ?_⟩
  rw [placed.reads]
  exact List.map_congr_left fun other member =>
    ((placed.covers other member).reads_kindOf wider).symm

/-- **A pattern whose node extends tuples.** -/
theorem extended (placed : Placed context done readers) (covers : context.Covers leaf)
    (begun : done ≠ [] ∨ leaf.needsTuple = true) :
    Placed (context.after leaf) (done ++ [leaf]) (readers ++ [context.kindOf leaf]) := by
  obtain ⟨known, reads⟩ := @covers_after _ _ leaf _ placed
  obtain ⟨places, bound, _⟩ := context.bound_after leaf
  have wider : context.bound <+: (context.after leaf).bound := ⟨places, bound.symm⟩
  refine ⟨(placed.after leaf).1, placed.inRange.after leaf, (placed.after leaf).2,
    fun first front plain => ?_, ?_, ?_⟩
  · cases done with
    | nil =>
      cases front
      exact absurd (plain.symm.trans (begun.resolve_left fun some => some rfl)) Bool.noConfusion
    | cons other rest => exact placed.opened first front plain
  · rw [extending_append begun]
    intro other member
    rcases List.mem_append.mp member with earlier | last
    · exact known other earlier
    · rw [List.mem_singleton.mp last]
      exact covers.mono wider
  · rw [extending_append begun, List.map_append, List.map_append, reads, List.map_singleton,
      List.map_singleton, covers.reads_kindOf wider]

/-- **A plain pattern that starts the match** has no tuple to read. -/
theorem started (placed : Placed context [] readers) (covers : context.Covers leaf)
    (plain : leaf.needsTuple = false) : Placed (context.after leaf) [leaf] readers := by
  have none : extending [leaf] = [] := by simp [extending, plain]
  have unbound : context.bound = [] := List.map_eq_nil_iff.mp placed.bound
  refine ⟨(placed.after leaf).1, placed.inRange.after leaf, (placed.after leaf).2,
    fun first front _ single listed v read => ?_, ?_, ?_⟩
  · cases front
    rcases covers.singles single listed v read with own | ⟨offset, named⟩
    · exact own
    · simp [BuildContext.offset?, unbound] at named
  · rw [none]
    intro other member
    cases member
  · rw [none]
    exact placed.reads

end Placed

/-! ### Steps up to the object cursor -/

/-- **Nothing was asked for below a tuple, and the places are as they were.** -/
structure Quiet (base bench : Workbench) : Prop where
  readers : bench.builder.readers = base.builder.readers
  scope : bench.context.SameScope base.context

theorem Quiet.refl (bench : Workbench) : Quiet bench bench :=
  ⟨rfl, .refl _⟩

namespace Build

variable {base bench : Workbench}

theorem report_quiet (event : BuildEvent) : Keeps (Quiet base) (report event) :=
  fun _ quiet => ensures_report fun _ _ => ⟨quiet.readers, quiet.scope⟩

/-- A change of the context that takes no place. -/
theorem modifyContext_quiet {change : BuildContext → BuildContext}
    (same : ∀ context, (change context).SameScope context) :
    Keeps (Quiet base) (modifyContext change) :=
  fun bench quiet => ⟨quiet.readers, (same bench.context).trans quiet.scope⟩

/-- Nodes that do not stand below a tuple. -/
theorem request_quiet (kind : NodeKind) (object : Option NodeId) :
    Keeps (Quiet base) (request kind none object) := by
  intro bench quiet
  have asked : ∀ id ids, Quiet base
      { bench with builder := bench.builder.asked ids ⟨id, kind, object, none⟩ } := by
    intro id ids
    refine ⟨?_, quiet.scope⟩
    rw [Builder.readers_asked]
    simpa using quiet.readers
  exact ensures_request (fun _ _ => quiet) fun id ids _ =>
    ⟨fun _ _ => asked id ids, fun _ _ => asked id ids⟩

theorem place_quiet (node : Node) (share : Bool) : Keeps (Quiet base) (place node share) :=
  fun _ quiet => ensures_place (fun _ _ => quiet) fun _ _ _ _ _ => ⟨quiet.readers, quiet.scope⟩

theorem entryPointRoot_quiet (name : String) : Keeps (Quiet base) (entryPointRoot name) := by
  unfold entryPointRoot
  refine keeps_bind builder_keeps fun known => ?_
  split
  · exact keeps_bind (report_quiet _) fun _ => keeps_pure _
  · refine keeps_bind (request_quiet _ _) fun node => keeps_bind (place_quiet _ _) fun root => ?_
    refine keeps_bind (fun _ quiet => ⟨quiet.readers, quiet.scope⟩) fun _ => ?_
    exact keeps_bind (fun _ quiet => ⟨quiet.readers, quiet.scope⟩) fun _ => keeps_pure _

theorem streamRoot_quiet (name : String) (type : ObjectType) :
    Keeps (Quiet base) (streamRoot name type) := by
  unfold streamRoot
  refine keeps_bind builder_keeps fun known => ?_
  split
  · exact keeps_bind (report_quiet _) fun _ => keeps_pure _
  · refine keeps_bind (request_quiet _ _) fun node => keeps_bind (place_quiet _ _) fun root => ?_
    refine keeps_bind (fun _ quiet => ⟨quiet.readers, quiet.scope⟩) fun _ => ?_
    exact keeps_bind (fun _ quiet => ⟨quiet.readers, quiet.scope⟩) fun _ => keeps_pure _

theorem objectTypeNode_quiet (root : NodeId) (type : ObjectType) :
    Keeps (Quiet base) (objectTypeNode root type) := by
  unfold objectTypeNode
  refine keeps_bind builder_keeps fun known => ?_
  split
  · exact keeps_bind (report_quiet _) fun _ => keeps_pure _
  · exact keeps_bind (request_quiet _ _) fun node => place_quiet _ _

theorem readSource_quiet (source : Source) (type : ObjectType) :
    Keeps (Quiet base) (readSource source type) := by
  unfold readSource
  cases source with
  | entryPoint name =>
    refine keeps_bind (entryPointRoot_quiet name) fun root => ?_
    refine keeps_bind (modifyContext_quiet fun _ => ⟨rfl, rfl, rfl⟩) fun _ => ?_
    exact keeps_bind (objectTypeNode_quiet _ _) fun _ => modifyContext_quiet fun _ => ⟨rfl, rfl, rfl⟩
  | stream name =>
    refine keeps_bind (streamRoot_quiet name type) fun root => ?_
    refine keeps_bind (modifyContext_quiet fun _ => ⟨rfl, rfl, rfl⟩) fun _ => ?_
    refine keeps_bind (streamType_keeps name root) fun carried => ?_
    split
    · exact keeps_pure _
    · split
      · exact keeps_bind (objectTypeNode_quiet _ _) fun _ =>
          modifyContext_quiet fun _ => ⟨rfl, rfl, rfl⟩
      · exact keeps_throw _

theorem filter_quiet (single : SingleConstraint) : Keeps (Quiet base) (filter single) := by
  unfold filter
  refine keeps_bind context_keeps fun context => ?_
  refine keeps_bind (ofOutcome_keeps _) fun parent => keeps_bind (request_quiet _ _) fun node => ?_
  refine keeps_bind builder_keeps fun known => keeps_bind (place_quiet _ _) fun id => ?_
  exact modifyContext_quiet fun _ => ⟨rfl, rfl, rfl⟩

/-- **The objects of a pattern.** The constraints that are left have their places. -/
theorem objects_quiet (pattern : Pattern) (bench : Workbench) :
    Ensures (objects pattern) bench
      (fun constraints after => Quiet bench after ∧
        constraints = pattern.otherSingles.map (bench.context.placed pattern.subject) ∧
        ∀ single ∈ pattern.constraint.singles, ∀ v ∈ single.reads,
          bench.context.Reads pattern.subject v)
      fun _ _ => True := by
  unfold objects
  rw [ensures_bind]
  refine (readSource_quiet pattern.source pattern.subject.type bench (.refl bench)).mono
    (fun _ mid read => ?_) fun _ _ _ => trivial
  simp only [ensures_bind, ensures_context]
  refine ensures_ofOutcome (fun classified sorted => ?_) fun _ _ => trivial
  obtain ⟨_, beta, reads⟩ := Classified.partition_ok sorted
  have skips : Keeps (Quiet bench) (classified.constant.forM fun single => do
      log .trace ("skipping constant constraint " ++ single.predicate.key)
      skip single) :=
    keeps_forM fun single _ => keeps_bind (fun _ quiet => ⟨quiet.readers, quiet.scope⟩)
      fun _ => report_quiet _
  refine (skips mid read).mono (fun _ skipped quiet => ?_) fun _ _ _ => trivial
  have filters : Keeps (Quiet bench) (classified.alpha.forM filter) :=
    keeps_forM fun single _ => filter_quiet single
  refine (filters skipped quiet).mono (fun _ last filtered => ?_) fun _ _ _ => trivial
  refine ensures_ofOutcome (fun constraints bound => ?_) fun _ _ => trivial
  obtain ⟨rfl, _⟩ := SingleConstraint.bindAll_ok bound
  refine ⟨filtered, ?_, fun single member v mentioned => ?_⟩
  · rw [beta, filtered.scope.placed]
    rfl
  · exact read.scope.reads.mp (reads single member v mentioned)

theorem ensureAdapter_quiet (fresh : bench.context.tupleCursor = none) :
    Ensures ensureAdapter bench
      (fun id after => after.builder.readers = bench.builder.readers ∧
        after.context.SameScope { bench.context with tupleCursor := some id })
      fun _ _ => True := by
  unfold ensureAdapter
  simp only [ensures_bind, ensures_context, fresh]
  refine ensures_ofOutcome (fun object _ => ?_) fun _ _ => trivial
  simp only [ensures_builder]
  split
  · trivial
  · simp only [ensures_bind, ensures_modifyContext, ensures_builder, ensures_pure]
    refine (request_quiet .adapter (some object) _ (.refl _)).mono (fun node mid asked => ?_)
      fun _ _ _ => trivial
    refine (place_quiet node _ mid asked).mono (fun id after placed => ?_) fun _ _ _ => trivial
    exact ensures_report fun _ _ => ⟨placed.readers, rfl, placed.scope.width, placed.scope.bound⟩

theorem initialFact_quiet (fresh : bench.context.tupleCursor = none) :
    Ensures initialFact bench
      (fun _ after => after.builder.readers = bench.builder.readers ∧
        after.context.tupleCursor ≠ none ∧ after.context.bound = bench.context.bound ∧
          after.context.width = bench.context.width + 1)
      fun _ _ => True := by
  unfold initialFact
  rw [ensures_bind]
  refine (entryPointRoot_quiet _ bench (.refl bench)).mono (fun root mid rooted => ?_)
    fun _ _ _ => trivial
  simp only [ensures_bind, ensures_modifyContext]
  have moved : Quiet bench { mid with context := { mid.context with entryPoint := some root } } :=
    ⟨rooted.readers, rooted.scope.tupleCursor, rooted.scope.width, rooted.scope.bound⟩
  refine (objectTypeNode_quiet root .initialFact _ moved).mono (fun narrowed next quiet => ?_)
    fun _ _ _ => trivial
  refine ensures_report fun tracer log => ?_
  have unstarted : (next.context.setObjectCursor narrowed).tupleCursor = none :=
    quiet.scope.tupleCursor.trans fresh
  refine (@ensureAdapter_quiet (Workbench.written
    { next with context := next.context.setObjectCursor narrowed } tracer log) unstarted).mono
    (fun id after adapted => ?_) fun _ _ _ => trivial
  obtain ⟨readers, same⟩ := adapted
  have set : after.context.tupleCursor = some id := same.tupleCursor
  refine ⟨readers.trans quiet.readers, ?_, same.bound.trans quiet.scope.bound, ?_⟩
  · show after.context.tupleCursor ≠ none
    rw [set]
    exact Option.some_ne_none id
  · exact congrArg (· + 1) (same.width.trans quiet.scope.width)

/-! ### Patterns -/

/-- **What a pattern leaves.** Its variables have places, and its node is asked for unless it starts
the match. -/
structure Used (leaf : Pattern) (before after : Workbench) : Prop where
  covers : before.context.Covers leaf
  begun : after.context.tupleCursor ≠ none
  width : after.context.width = (before.context.after leaf).width
  bound : after.context.bound = (before.context.after leaf).bound
  readers : after.builder.readers = before.builder.readers ++
    if before.context.tupleCursor.isSome then [before.context.kindOf leaf] else []

/-- A node below a tuple is asked for. -/
theorem extend_asks (kind : NodeKind) (tuple : NodeId) (object : Option NodeId)
    (bench : Workbench) :
    Ensures (extend kind tuple object) bench
      (fun _ after => after.builder.readers = bench.builder.readers ++ [kind] ∧
        ∃ id, after.context = bench.context.absorb id)
      fun _ _ => True := by
  unfold extend
  rw [ensures_bind]
  refine ensures_request (fun _ _ => trivial) fun own ids _ => ⟨fun node _ => ?_, fun _ _ => trivial⟩
  simp only [ensures_bind, ensures_builder, ensures_modifyContext]
  refine ensures_place (fun _ _ => trivial) fun attached network _ tracer log => ?_
  exact ⟨bench.builder.readers_asked ids ⟨own, kind, object, some tuple⟩, attached.id, rfl⟩

/-- **The node of a pattern**, below the tuple cursor. -/
theorem extend_placed {leaf : Pattern} {mid : Workbench} {tuple : NodeId} {object : Option NodeId}
    (change : BuildContext → BuildContext) (covers : bench.context.Covers leaf)
    (cursor : bench.context.tupleCursor = some tuple)
    (readers : mid.builder.readers = bench.builder.readers)
    (places : ∀ id, (change (mid.context.absorb id)).SameScope
      { bench.context.after leaf with tupleCursor := some id }) :
    Ensures (extend (bench.context.kindOf leaf) tuple object) mid
      (fun _ last => Used leaf bench { last with context := change last.context })
      fun _ _ => True := by
  refine (extend_asks _ tuple object mid).mono (fun _ last asked => ?_) fun _ _ _ => trivial
  obtain ⟨asked, id, context⟩ := asked
  have ends := places id
  rw [← context] at ends
  refine ⟨covers, ?_, ends.width, ends.bound, ?_⟩
  · show (change last.context).tupleCursor ≠ none
    rw [ends.tupleCursor]
    exact Option.some_ne_none id
  · rw [cursor]
    show last.builder.readers = _
    rw [asked, readers]
    rfl

/-- A plain pattern starts the match if there is none. -/
theorem plain_placed {leaf : Pattern} (how : leaf.use = .plain) {mid : Workbench}
    (quiet : Quiet bench mid) (covers : bench.context.Covers leaf) :
    Ensures (plain leaf.subject (leaf.otherSingles.map (bench.context.placed leaf.subject))) mid
      (fun _ last => Used leaf bench last) fun _ _ => True := by
  have after : bench.context.after leaf = bench.context.bind leaf.subject := by
    simp only [BuildContext.after, how]
  have kind : bench.context.kindOf leaf =
      .join (leaf.otherSingles.map (bench.context.placed leaf.subject)) := by
    simp only [BuildContext.kindOf, how]
  unfold plain
  simp only [ensures_bind, ensures_context, quiet.scope.tupleCursor]
  cases cursor : bench.context.tupleCursor with
  | none =>
    simp only [ensures_bind, ensures_modifyContext]
    refine (ensureAdapter_quiet (quiet.scope.tupleCursor.trans cursor)).mono
      (fun id last adapted => ?_) fun _ _ _ => trivial
    obtain ⟨readers, same⟩ := adapted
    have set : last.context.tupleCursor = some id := same.tupleCursor
    have moved : ({ mid.context with tupleCursor := some id } : BuildContext).SameScope
        { bench.context with tupleCursor := some id } := ⟨rfl, quiet.scope.width, quiet.scope.bound⟩
    have places := (same.trans moved).bind leaf.subject
    refine ⟨covers, fun none => Option.some_ne_none id (set.symm.trans none), ?_, ?_, ?_⟩
    · rw [after]
      exact places.width
    · rw [after]
      exact places.bound
    · rw [cursor]
      show last.builder.readers = _
      rw [readers, quiet.readers]
      simp
  | some tuple =>
    simp only [ensures_bind, ensures_modifyContext]
    refine ensures_ofOutcome (fun object _ => ?_) fun _ _ => trivial
    rw [← kind]
    refine extend_placed (fun context => context.bind leaf.subject) covers cursor quiet.readers
      fun id => ?_
    rw [after]
    exact ⟨rfl, (quiet.scope.bind leaf.subject).width, (quiet.scope.bind leaf.subject).bound⟩

theorem existential_placed {leaf : Pattern} {quantifier : Quantifier}
    (how : leaf.use = .existential quantifier) {mid : Workbench} (quiet : Quiet bench mid)
    (covers : bench.context.Covers leaf) :
    Ensures (existential quantifier (leaf.otherSingles.map (bench.context.placed leaf.subject))) mid
      (fun _ last => Used leaf bench last) fun _ _ => True := by
  have after : bench.context.after leaf = bench.context.reserve := by
    simp only [BuildContext.after, how]
  have kind : bench.context.kindOf leaf = .existential quantifier
      (leaf.otherSingles.map (bench.context.placed leaf.subject)) := by
    simp only [BuildContext.kindOf, how]
  unfold existential
  simp only [ensures_bind, ensures_context, ensures_modifyContext]
  refine ensures_ofOutcome (fun tuple required => ?_) fun _ _ => trivial
  refine ensures_ofOutcome (fun object _ => ?_) fun _ _ => trivial
  have cursor := BuildContext.requireTupleCursor_ok required
  rw [quiet.scope.tupleCursor] at cursor
  rw [← kind]
  refine extend_placed BuildContext.reserve covers cursor quiet.readers fun id => ?_
  rw [after]
  exact ⟨rfl, congrArg (· + 1) quiet.scope.width, quiet.scope.bound⟩

theorem accumulate_placed {leaf : Pattern} {bindings : List Binding}
    (how : leaf.use = .accumulate bindings) {mid : Workbench} (quiet : Quiet bench mid)
    (covers : bench.context.Covers leaf) :
    Ensures (accumulate bindings (leaf.otherSingles.map (bench.context.placed leaf.subject))) mid
      (fun _ last => Used leaf bench last) fun _ _ => True := by
  have after : bench.context.after leaf = bench.context.bindResults bindings := by
    simp only [BuildContext.after, how]
  have kind : bench.context.kindOf leaf =
      .accumulate (leaf.otherSingles.map (bench.context.placed leaf.subject)) []
        (bench.context.placeAll bindings) := by
    simp only [BuildContext.kindOf, how]
  unfold accumulate
  simp only [ensures_bind, ensures_context, ensures_placeAggregates]
  refine ensures_ofOutcome (fun tuple required => ?_) fun _ _ => trivial
  refine ensures_ofOutcome (fun object _ => ?_) fun _ _ => trivial
  have cursor := BuildContext.requireTupleCursor_ok required
  rw [quiet.scope.tupleCursor] at cursor
  rw [quiet.scope.placeAll, ← kind]
  refine extend_placed (fun context => context) covers cursor quiet.readers fun id => ?_
  have places := quiet.scope.bindResults bindings
  rw [after]
  exact ⟨rfl, places.width, places.bound⟩

theorem invoke_placed {leaf : Pattern} {invocation : Invocation}
    (how : leaf.use = .invoke invocation) (bench : Workbench) :
    Ensures (invoke leaf invocation) bench (fun _ last => Used leaf bench last)
      fun _ _ => True := by
  have after : bench.context.after leaf = bench.context.bind leaf.subject := by
    simp only [BuildContext.after, how]
  have kind : bench.context.kindOf leaf =
      .invoker invocation (invocation.params.map fun v => (bench.context.offset? v).getD 0)
        (leaf.readingSingles.map (bench.context.placed leaf.subject)) := by
    simp only [BuildContext.kindOf, how]
  unfold invoke
  simp only [ensures_bind, ensures_context, ensures_modifyContext]
  refine ensures_ofOutcome (fun tuple required => ?_) fun _ _ => trivial
  refine ensures_ofOutcome (fun args given => ?_) fun _ _ => trivial
  obtain ⟨rfl, params⟩ := BuildContext.mapM_requireOffset given
  have skips : Keeps (Quiet bench)
      ((leaf.constraint.singles.filter SingleConstraint.isConstant).forM skip) :=
    keeps_forM fun single _ => report_quiet _
  refine (skips bench (.refl bench)).mono (fun _ mid quiet => ?_) fun _ _ _ => trivial
  refine ensures_ofOutcome (fun constraints bound => ?_) fun _ _ => trivial
  obtain ⟨rfl, reads⟩ := SingleConstraint.bindAll_ok bound
  have covers := BuildContext.covers_of_reading how reads params
  have cursor := BuildContext.requireTupleCursor_ok required
  rw [show (leaf.constraint.singles.filter fun single => !single.isConstant) =
    leaf.readingSingles from rfl, ← kind]
  refine extend_placed (fun context => context.bind leaf.subject) covers cursor quiet.readers
    fun id => ?_
  rw [after]
  exact ⟨rfl, (quiet.scope.bind leaf.subject).width, (quiet.scope.bind leaf.subject).bound⟩

/-- **A pattern takes places and asks for its node**, once a match was started or if it starts it. -/
theorem use_placed (leaf : Pattern) (bench : Workbench) :
    Ensures (use leaf) bench (fun _ after => Used leaf bench after) fun _ _ => True := by
  have covers : (∀ invocation, leaf.use ≠ .invoke invocation) →
      (∀ single ∈ leaf.constraint.singles, ∀ v ∈ single.reads,
        bench.context.Reads leaf.subject v) → bench.context.Covers leaf :=
    fun other reads => ⟨reads, fun invocation how => absurd how (other invocation)⟩
  unfold use
  cases how : leaf.use with
  | plain =>
    rw [ensures_bind]
    refine (objects_quiet leaf bench).mono (fun constraints mid read => ?_) fun _ _ _ => trivial
    obtain ⟨quiet, rfl, reads⟩ := read
    exact plain_placed how quiet (covers (by simp [how]) reads)
  | existential quantifier =>
    rw [ensures_bind]
    refine (objects_quiet leaf bench).mono (fun constraints mid read => ?_) fun _ _ _ => trivial
    obtain ⟨quiet, rfl, reads⟩ := read
    exact existential_placed how quiet (covers (by simp [how]) reads)
  | accumulate bindings =>
    rw [ensures_bind]
    refine (objects_quiet leaf bench).mono (fun constraints mid read => ?_) fun _ _ _ => trivial
    obtain ⟨quiet, rfl, reads⟩ := read
    exact accumulate_placed how quiet (covers (by simp [how]) reads)
  | invoke invocation => exact invoke_placed how bench

/-! ### Views -/

/-- **The invariant between patterns**, beside the nodes that were asked for before. -/
structure Placing (base : List NodeKind) (bench : Workbench) (done : List Pattern) : Prop where
  begun : bench.context.tupleCursor = none ↔ done = []
  placed : ∃ readers, bench.builder.readers = base ++ readers ∧ Placed bench.context done readers

/-- Frames and counts do not matter. -/
theorem Placing.congr {before : List NodeKind} {done : List Pattern} {scope : BuildContext}
    (placing : Placing before bench done) (same : scope.SameScope bench.context) :
    Placing before { bench with context := scope } done := by
  obtain ⟨begun, readers, asked, placed⟩ := placing
  refine ⟨?_, readers, asked, placed.widen same.bound (Nat.le_of_eq same.width.symm)⟩
  show scope.tupleCursor = none ↔ done = []
  rw [same.tupleCursor, begun]

/-- **A pattern goes on from the patterns before.** -/
theorem pattern_placed {before : List NodeKind} {done : List Pattern} (leaf : Pattern)
    (placing : Placing before bench done) :
    Ensures (pattern leaf) bench (fun _ after => Placing before after (done ++ [leaf]))
      fun _ _ => True := by
  obtain ⟨begun, readers, asked, placed⟩ := placing
  rw [pattern_eq]
  unfold start check
  simp only [ensures_bind, ensures_context]
  by_cases first : (leaf.needsTuple && bench.context.tupleCursor.isNone) = true
  · rw [if_pos first]
    rw [Bool.and_eq_true, Option.isNone_iff_eq_none] at first
    obtain rfl := begun.mp first.2
    refine (initialFact_quiet first.2).mono (fun _ mid opened => ?_) fun _ _ _ => trivial
    obtain ⟨same, cursor, bound, width⟩ := opened
    refine (use_placed leaf mid).mono (fun _ after used => ?_) fun _ _ _ => trivial
    refine ensures_ofOutcome (fun _ _ => ?_) fun _ _ => trivial
    have wide : Placed mid.context [] readers := placed.widen bound (by omega)
    refine ⟨by simp [used.begun], readers ++ [mid.context.kindOf leaf], ?_, ?_⟩
    · rw [used.readers, same, asked, if_pos (Option.isSome_iff_ne_none.mpr cursor),
        List.append_assoc]
    · exact (wide.extended used.covers (Or.inr first.1)).widen used.bound
        (Nat.le_of_eq used.width.symm)
  · rw [if_neg first, ensures_pure]
    refine (use_placed leaf bench).mono (fun _ after used => ?_) fun _ _ _ => trivial
    refine ensures_ofOutcome (fun _ _ => ?_) fun _ _ => trivial
    refine ⟨by simp [used.begun], ?_⟩
    cases cursor : bench.context.tupleCursor with
    | none =>
      obtain rfl := begun.mp cursor
      have plain : leaf.needsTuple = false := by simpa [cursor] using first
      refine ⟨readers, ?_, (placed.started used.covers plain).widen used.bound
        (Nat.le_of_eq used.width.symm)⟩
      simp [used.readers, asked, cursor]
    | some tuple =>
      have some : done ≠ [] := fun none => by simp [begun.mpr none] at cursor
      refine ⟨readers ++ [bench.context.kindOf leaf], ?_,
        (placed.extended used.covers (Or.inl some)).widen used.bound
          (Nat.le_of_eq used.width.symm)⟩
      simp [used.readers, asked, cursor]

/-- **A view goes on from the patterns before by its patterns.** -/
theorem condition_placed {before : List NodeKind} (view : Condition) (done : List Pattern)
    (placing : Placing before bench done) :
    Ensures (condition view) bench
      (fun _ after => Placing before after (done ++ view.patterns)) fun _ _ => True := by
  have walks : Walks (fun done after => Placing before after done) fun _ => True :=
    ⟨fun _ _ held => held.congr ⟨rfl, rfl, rfl⟩, fun _ => trivial⟩
  exact walks.condition view (fun leaf _ _ _ held => pattern_placed leaf held) done bench placing

/-! ### Rules -/

/-- **The terminal of a rule** reads the places of the variables that the consequence takes. -/
theorem terminal_placed {before : List NodeKind} {done : List Pattern} {rule : Rule}
    {readers : List NodeKind} (asked : bench.builder.readers = before ++ readers)
    (placed : Placed bench.context done readers) :
    Ensures (terminal rule) bench
      (fun _ after => after.builder.readers = before ++ readers ++
          [.terminal ⟨rule.name, rule.salience, rule.consequence,
            rule.consequence.bindings.map fun v => (after.context.offset? v).getD 0⟩] ∧
        (∀ v ∈ rule.consequence.bindings, ∃ place, after.context.offset? v = some place) ∧
        Placed after.context done readers)
      fun _ _ => True := by
  unfold terminal
  simp only [ensures_bind, ensures_modifyContext, ensures_context]
  refine ensures_ofOutcome (fun tuple _ => ?_) fun _ _ => trivial
  refine ensures_ofOutcome (fun bindings listed => ?_) fun _ _ => trivial
  obtain ⟨rfl, bound⟩ := BuildContext.mapM_requireOffset listed
  refine ensures_request (fun _ _ => trivial) fun own ids _ => ⟨fun node _ => ?_, fun _ _ => trivial⟩
  refine ensures_place (fun _ _ => trivial) fun attached network _ tracer log => ?_
  refine ⟨?_, bound, placed.widen rfl (Nat.le_refl _)⟩
  rw [← asked]
  exact bench.builder.readers_asked ids ⟨own, .terminal ⟨rule.name, rule.salience,
    rule.consequence, _⟩, none, some tuple⟩

/-- **A compiled rule**: its patterns, and its terminal last. -/
theorem rule_placed (whole : Rule) (new : bench.context = .new whole.name) :
    Ensures (rule whole) bench
      (fun _ after => ∃ readers, Placed after.context whole.view.patterns readers ∧
        (∀ v ∈ whole.consequence.bindings, ∃ place, after.context.offset? v = some place) ∧
        after.builder.readers = bench.builder.readers ++ readers ++
          [.terminal ⟨whole.name, whole.salience, whole.consequence,
            whole.consequence.bindings.map fun v => (after.context.offset? v).getD 0⟩])
      fun _ _ => True := by
  have start : Placing bench.builder.readers bench [] := by
    refine ⟨by simp [new, BuildContext.new], [], (List.append_nil _).symm, ?_⟩
    rw [new]
    exact .new whole.name
  rw [rule_eq, ensures_bind]
  refine (condition_placed whole.view [] start).mono (fun _ mid placing => ?_)
    fun _ _ _ => trivial
  obtain ⟨begun, readers, asked, placed⟩ := placing
  simp only [List.nil_append] at begun placed
  have ends : ∀ last : Workbench, last.builder.readers = bench.builder.readers ++ readers →
      Placed last.context whole.view.patterns readers → Ensures (terminal whole) last
        (fun _ after => ∃ readers, Placed after.context whole.view.patterns readers ∧
          (∀ v ∈ whole.consequence.bindings, ∃ place, after.context.offset? v = some place) ∧
          after.builder.readers = bench.builder.readers ++ readers ++
            [.terminal ⟨whole.name, whole.salience, whole.consequence,
              whole.consequence.bindings.map fun v => (after.context.offset? v).getD 0⟩])
        fun _ _ => True := fun last asked placed =>
    (terminal_placed asked placed).mono (fun _ _ ended => ⟨readers, ended.2.2, ended.2.1, ended.1⟩)
      fun _ _ _ => trivial
  unfold Build.start check
  simp only [ensures_bind, ensures_context, Bool.true_and]
  by_cases unstarted : mid.context.tupleCursor.isNone = true
  · rw [if_pos unstarted]
    refine (initialFact_quiet (Option.isNone_iff_eq_none.mp unstarted)).mono
      (fun _ last opened => ?_) fun _ _ _ => trivial
    obtain ⟨same, _, bound, width⟩ := opened
    exact ensures_ofOutcome (fun _ _ => ends last (same.trans asked)
      (placed.widen bound (by omega))) fun _ _ => trivial
  · rw [if_neg unstarted, ensures_pure]
    exact ensures_ofOutcome (fun _ _ => ends mid asked placed) fun _ _ => trivial

end Build

/-- **Every reader of a variable reads its first place**, in every rule that is accepted, whatever
the knowledge base holds and whatever the factory makes of the nodes it is asked for. At the end of
the compilation

* places rise in the order they were taken, and lie inside the tuple;
* there is one for each variable that a pattern binds, in the order of the patterns, also if several
  patterns bind the same variable;
* a plain pattern at the front has constraints of its own variable only. Each of the other patterns
  has asked for a node below a tuple, in their order, and the terminal follows. Their constraints,
  parameters and bindings read every variable in its first place, apart from a pattern's own
  variable, which its constraints read off the object. -/
theorem Builder.addRule_placed {bench after : Workbench} {rule : Rule} {handle : RuleHandle}
    (added : result (Builder.addRule rule) bench = (.ok handle, after)) :
    (after.context.bound.map Prod.snd).Pairwise (· < ·) ∧
      (∀ entry ∈ after.context.bound, entry.2 < after.context.width) ∧
      after.context.bound.map Prod.fst = rule.view.patterns.flatMap Pattern.binds ∧
      (∀ leaf, rule.view.patterns.head? = some leaf → leaf.needsTuple = false →
        ∀ single ∈ leaf.constraint.singles, ∀ v ∈ single.reads, v.same leaf.subject = true) ∧
      (∀ leaf ∈ extending rule.view.patterns, after.context.Covers leaf) ∧
      (∀ v ∈ rule.consequence.bindings, ∃ place, after.context.offset? v = some place) ∧
      ∃ readers, after.builder.readers = bench.builder.readers ++ readers ++
          [.terminal ⟨rule.name, rule.salience, rule.consequence,
            rule.consequence.bindings.map fun v => (after.context.offset? v).getD 0⟩] ∧
        readers.map NodeKind.reads = (extending rule.view.patterns).map fun leaf =>
          (after.context.kindOf leaf).reads := by
  have ends : Ensures (Builder.addRule rule) bench
      (fun _ after => ∃ readers, Placed after.context rule.view.patterns readers ∧
        (∀ v ∈ rule.consequence.bindings, ∃ place, after.context.offset? v = some place) ∧
        after.builder.readers = bench.builder.readers ++ readers ++
          [.terminal ⟨rule.name, rule.salience, rule.consequence,
            rule.consequence.bindings.map fun v => (after.context.offset? v).getD 0⟩])
      fun _ _ => True :=
    ensures_addRule fun tracer log => (Build.rule_placed rule rfl).mono
      (fun _ _ ended _ _ => ended) fun _ _ _ _ _ => trivial
  unfold Ensures at ends
  rw [added] at ends
  obtain ⟨readers, placed, bound, asked⟩ := ends
  exact ⟨placed.rising, placed.inRange, placed.bound, placed.opened, placed.covers, bound, readers,
    asked, placed.reads⟩

/-! ### A variable with two places -/

/-- A person, and a person again under the same name. -/
def personTwice : Rule where
  name := "a person twice"
  salience := 0
  view := .and [.pattern (.of ⟨0, "p", .fact "Person"⟩ .plain),
    .pattern (.of ⟨0, "p", .fact "Person"⟩ .plain)]
  consequence := ⟨[⟨0, "p", .fact "Person"⟩], fun _ => .ok ()⟩

/-- The rule is accepted, and the person has two places. -/
theorem personTwice_two_places :
    ∃ handle after,
      result (Builder.addRule personTwice) ⟨.new default .standard, .new "a person twice", []⟩ =
          (.ok handle, after) ∧
        after.context.bound = [(⟨0, "p", .fact "Person"⟩, 0), (⟨0, "p", .fact "Person"⟩, 1)] ∧
        ¬(after.context.bound.map Prod.fst).Nodup := by
  have succeeds : (result (Builder.addRule personTwice)
      ⟨.new default .standard, .new "a person twice", []⟩).1.isOk = true := by decide +kernel
  have places : (result (Builder.addRule personTwice)
      ⟨.new default .standard, .new "a person twice", []⟩).2.context.bound =
        [(⟨0, "p", .fact "Person"⟩, 0), (⟨0, "p", .fact "Person"⟩, 1)] := by decide +kernel
  cases ended : result (Builder.addRule personTwice)
      ⟨.new default .standard, .new "a person twice", []⟩ with
  | mk outcome after =>
    rw [ended] at succeeds places
    cases outcome with
    | error failure => cases succeeds
    | ok handle =>
      refine ⟨handle, after, rfl, places, ?_⟩
      rw [show after.context.bound = _ from places]
      decide

/-- The consequence takes the first person. -/
theorem personTwice_reads_first :
    ∃ handle after readers,
      result (Builder.addRule personTwice) ⟨.new default .standard, .new "a person twice", []⟩ =
          (.ok handle, after) ∧
        (after.context.bound.map Prod.snd).Pairwise (· < ·) ∧
        after.builder.readers = [] ++ readers ++
          [.terminal ⟨"a person twice", 0, personTwice.consequence, [0]⟩] ∧
        readers.map NodeKind.reads = [([], [])] := by
  have succeeds : (result (Builder.addRule personTwice)
      ⟨.new default .standard, .new "a person twice", []⟩).1.isOk = true := by decide +kernel
  have first : (personTwice.consequence.bindings.map fun v => ((result (Builder.addRule personTwice)
      ⟨.new default .standard, .new "a person twice", []⟩).2.context.offset? v).getD 0) = [0] := by
    decide +kernel
  cases ended : result (Builder.addRule personTwice)
      ⟨.new default .standard, .new "a person twice", []⟩ with
  | mk outcome after =>
    rw [ended] at succeeds first
    cases outcome with
    | error failure => cases succeeds
    | ok handle =>
      obtain ⟨rising, _, _, _, _, _, readers, asked, reads⟩ := Builder.addRule_placed ended
      rw [first] at asked
      exact ⟨handle, after, readers, rfl, rising, asked, reads⟩

end RuleNet
