/-
**The registries say what the accepted rules read.**

A source gets a root when the first pattern that reads it is compiled, and loses it again if the
rule fails. A match that no pattern starts is started by the initial fact, which is read from the
default entry point although no pattern names it.

* `Rule.reads`, `Rule.seeded`: the sources that the patterns of a rule read, and whether the rule
  needs the initial fact;
* `Footprint`: the sources that have a root half way through a rule;
* `Outline.condition_touches`, `Outline.rule_touches`: what a view and a rule add to them;
* `Grown.ledger_sources`: **in every history the registered sources are those that the accepted
  rules touched**, and a stream has the type that the first of them asked for;
* `registries_exact`: the registries, the root list, and what they let a session do.
-/

import RuleNet.Proofs.Build.Accepted
import RuleNet.Proofs.Build.Maximal
import RuleNet.Proofs.Build.Scoping
import RuleNet.Session

namespace RuleNet

open Stateful

/-! ### What rules read -/

/-- The source that a pattern reads, and the type it is read as. An invocation reads none. -/
def Pattern.reads? (leaf : Pattern) : Option (Source × ObjectType) :=
  match leaf.use with
  | .invoke _ => none
  | _ => some (leaf.source, leaf.subject.type)

namespace Rule

/-- **The sources that the patterns of a rule read**, depth first. -/
def reads (rule : Rule) : List (Source × ObjectType) :=
  rule.view.patterns.filterMap Pattern.reads?

/-- **No pattern starts the match**: there is none, or the first one extends a match. -/
def seeded (rule : Rule) : Bool :=
  rule.view.patterns.head?.all Pattern.needsTuple

/-- All sources that a rule needs, the initial fact's among them. -/
def touches (rule : Rule) : List (Source × ObjectType) :=
  (if rule.seeded then [(.entryPoint defaultEntryPoint, .initialFact)] else []) ++ rule.reads

theorem mem_touches {rule : Rule} {read : Source × ObjectType} :
    read ∈ rule.touches ↔
      rule.seeded = true ∧ read = (.entryPoint defaultEntryPoint, .initialFact) ∨
        read ∈ rule.reads := by
  rw [touches, List.mem_append]
  cases rule.seeded <;> simp

end Rule

/-! ### Footprints -/

/-- **The sources that have a root**, and whether the match has begun. -/
@[ext]
structure Footprint where
  entryPoints : String → Bool
  /-- The type that a stream carries. -/
  streams : String → Option ObjectType
  begun : Bool

namespace Footprint

/-- A source is read. The first to read a stream fixes its type. -/
def touch (sofar : Footprint) (read : Source × ObjectType) : Footprint :=
  match read.1 with
  | .entryPoint name => { sofar with entryPoints := Function.update sofar.entryPoints name true }
  | .stream name =>
    { sofar with
      streams := Function.update sofar.streams name (some ((sofar.streams name).getD read.2)) }

/-- The match begins. -/
def begin (sofar : Footprint) : Footprint :=
  { sofar with begun := true }

/-- The initial fact is read, where it is needed. -/
def start (sofar : Footprint) (needed : Bool) : Footprint :=
  if needed && !sofar.begun then (sofar.touch (.entryPoint defaultEntryPoint, .initialFact)).begin
  else sofar

/-- A pattern is compiled. -/
def pattern (sofar : Footprint) (leaf : Pattern) : Footprint :=
  (leaf.reads?.toList.foldl touch (sofar.start leaf.needsTuple)).begin

theorem touch_begin (sofar : Footprint) (read : Source × ObjectType) :
    sofar.begin.touch read = (sofar.touch read).begin := by
  unfold touch begin
  cases read.1 <;> rfl

theorem foldl_touch_begin (sofar : Footprint) (reads : List (Source × ObjectType)) :
    reads.foldl touch sofar.begin = (reads.foldl touch sofar).begin := by
  induction reads generalizing sofar with
  | nil => rfl
  | cons read rest hypothesis =>
    rw [List.foldl_cons, List.foldl_cons, touch_begin, hypothesis]

/-- **Once the match has begun**, patterns touch what they read and nothing else. -/
theorem foldl_pattern_begin (sofar : Footprint) (patterns : List Pattern) :
    patterns.foldl pattern sofar.begin =
      ((patterns.filterMap Pattern.reads?).foldl touch sofar).begin := by
  induction patterns generalizing sofar with
  | nil => rfl
  | cons leaf rest hypothesis =>
    have one : sofar.begin.pattern leaf = (leaf.reads?.toList.foldl touch sofar).begin := by
      have started : sofar.begin.start leaf.needsTuple = sofar.begin := by simp [start, begin]
      rw [pattern, started, foldl_touch_begin]
      rfl
    rw [List.foldl_cons, one, hypothesis, List.filterMap_cons]
    cases leaf.reads? <;> rfl

/-- **A whole rule** touches its sources, and begins its match. -/
theorem foldl_pattern_start (sofar : Footprint) (unbegun : sofar.begun = false) (rule : Rule) :
    (rule.view.patterns.foldl pattern sofar).start true =
      (rule.touches.foldl touch sofar).begin := by
  unfold Rule.touches Rule.reads Rule.seeded
  cases rule.view.patterns with
  | nil => simp [start, unbegun]
  | cons leaf rest =>
    have seeded : (sofar.start leaf.needsTuple).begin =
        (if leaf.needsTuple then [(.entryPoint defaultEntryPoint, .initialFact)]
          else [] : List (Source × ObjectType)).foldl touch sofar.begin := by
      cases leaf.needsTuple <;> simp [start, unbegun, begin, touch]
    have first : sofar.pattern leaf =
        (leaf.reads?.toList.foldl touch (sofar.start leaf.needsTuple)).begin := rfl
    have begun : ∀ later : Footprint, later.begin.start true = later.begin := by
      intro later
      simp [start, begin]
    have listed : (leaf :: rest).filterMap Pattern.reads? =
        leaf.reads?.toList ++ rest.filterMap Pattern.reads? := by
      rw [List.filterMap_cons]
      cases leaf.reads? <;> rfl
    rw [List.foldl_cons, first, foldl_pattern_begin, begun, ← foldl_touch_begin,
      ← foldl_touch_begin, seeded, listed, List.head?_cons, Option.all_some, ← foldl_touch_begin,
      List.foldl_append, List.foldl_append]

theorem begun_foldl (sofar : Footprint) (reads : List (Source × ObjectType)) :
    (reads.foldl touch sofar).begun = sofar.begun := by
  induction reads generalizing sofar with
  | nil => rfl
  | cons read rest hypothesis =>
    rw [List.foldl_cons, hypothesis, touch]
    split <;> rfl

/-- The entry points that were touched. -/
theorem entryPoints_foldl (sofar : Footprint) (reads : List (Source × ObjectType)) (name : String) :
    (reads.foldl touch sofar).entryPoints name =
      (sofar.entryPoints name || reads.any fun read => read.1 = .entryPoint name) := by
  induction reads generalizing sofar with
  | nil => simp
  | cons read rest hypothesis =>
    rw [List.foldl_cons, hypothesis, List.any_cons, ← Bool.or_assoc]
    congr 1
    obtain ⟨source, type⟩ := read
    cases source with
    | stream other => simp [touch]
    | entryPoint other =>
      by_cases same : name = other
      · simp [touch, same]
      · simp [touch, same, Ne.symm same]

/-- **A stream has the type that was asked for first.** -/
theorem streams_foldl (sofar : Footprint) (reads : List (Source × ObjectType)) (name : String) :
    (reads.foldl touch sofar).streams name =
      (sofar.streams name).or ((reads.find? fun read => read.1 = .stream name).map Prod.snd) := by
  induction reads generalizing sofar with
  | nil => simp
  | cons read rest hypothesis =>
    rw [List.foldl_cons, hypothesis]
    obtain ⟨source, type⟩ := read
    cases source with
    | entryPoint other => simp [touch]
    | stream other =>
      by_cases same : name = other
      · subst same
        cases known : sofar.streams name <;> simp [touch, known]
      · simp [touch, same, Ne.symm same]

end Footprint

/-! ### Outlines -/

/-- The sources that have a root, when no rule is compiled. -/
def Ledger.footprint (ledger : Ledger) : Footprint :=
  ⟨ledger.entryPoints, ledger.streams, false⟩

namespace Outline

/-- The sources that have a root half way through a rule. -/
def footprint (outline : Outline) : Footprint :=
  ⟨outline.ledger.entryPoints, outline.ledger.streams, outline.begun⟩

/-- **If the step succeeds**, it changes the footprint as said. -/
def Leaves {α : Type} (step : Stateful Outline α) (change : Footprint → Footprint) : Prop :=
  ∀ outline, Ensures step outline
    (fun _ after => after.footprint = change outline.footprint) fun _ _ => True

namespace Leaves

variable {α β : Type} {step : Stateful Outline α} {next : α → Stateful Outline β}
  {first second : Footprint → Footprint}

theorem bind (one : Leaves step first) (rest : ∀ value, Leaves (next value) second) :
    Leaves (step >>= next) fun sofar => second (first sofar) := by
  intro outline
  rw [ensures_bind]
  refine (one outline).mono (fun value mid same => ?_) fun _ _ done => done
  show Ensures (next value) mid (fun _ after => after.footprint = second (first _)) _
  rw [← same]
  exact rest value mid

/-- A step that touches nothing comes first. -/
theorem after (one : Leaves step id) (rest : ∀ value, Leaves (next value) second) :
    Leaves (step >>= next) second :=
  one.bind rest

/-- A step that touches nothing comes last. -/
theorem last (one : Leaves step first) (rest : ∀ value, Leaves (next value) id) :
    Leaves (step >>= next) first :=
  one.bind rest

theorem pure (value : α) : Leaves (Pure.pure value : Stateful Outline α) id :=
  fun _ => rfl

theorem throw (failure : Failure) (change : Footprint → Footprint) :
    Leaves (MonadExcept.throw failure : Stateful Outline α) change :=
  fun _ => trivial

theorem ofOutcome (outcome : Outcome α) : Leaves (Outline.ofOutcome outcome) id := by
  intro outline
  cases outcome with
  | ok value => exact rfl
  | error failure => exact trivial

end Leaves

theorem spend_leaves : Leaves spend id := by
  intro outline
  unfold spend
  rw [ensures_bind, ensures_get]
  have rest : ∀ supplied : NodeId × IdSupply, Leaves (do
      modifyLedger fun ledger => { ledger with ids := supplied.2 }
      return supplied.1) id := fun _ _ => rfl
  exact (Leaves.ofOutcome outline.ledger.ids.next).last rest outline

theorem modifyContext_leaves (change : BuildContext → BuildContext) :
    Leaves (modifyContext change) id :=
  fun _ => rfl

theorem scope_leaves : Leaves scope id :=
  fun _ => rfl

theorem entryPointRoot_touches (name : String) (type : ObjectType) :
    Leaves (entryPointRoot name) (·.touch (.entryPoint name, type)) := by
  intro outline
  unfold entryPointRoot
  simp only [ensures_bind, ensures_get]
  split
  · rename_i known
    have same : Function.update outline.ledger.entryPoints name true = outline.ledger.entryPoints :=
      Function.update_eq_self_iff.mpr known.symm
    exact Footprint.ext same.symm rfl rfl
  · rw [ensures_bind]
    refine (spend_leaves outline).mono (fun _ after same => ?_) fun _ _ done => done
    rw [← show after.footprint = outline.footprint from same]
    exact rfl

theorem streamRoot_touches (name : String) (type : ObjectType) :
    Leaves (streamRoot name type) (·.touch (.stream name, type)) := by
  intro outline
  unfold streamRoot
  simp only [ensures_bind, ensures_get]
  cases known : outline.ledger.streams name with
  | some carried =>
    have same : Function.update outline.ledger.streams name
        (some ((outline.ledger.streams name).getD type)) = outline.ledger.streams := by
      rw [known, Option.getD_some, ← known, Function.update_eq_self]
    exact Footprint.ext rfl same.symm rfl
  | none =>
    simp only [ensures_bind]
    refine (spend_leaves outline).mono (fun _ after same => ?_) fun _ _ done => done
    have same : after.footprint = outline.footprint := same
    have free : (after.footprint.streams name).getD type = type := by
      rw [same]
      exact congrArg (Option.getD · type) known
    have touched : after.footprint.touch (.stream name, type) = { after.footprint with
        streams := Function.update after.footprint.streams name (some type) } := by
      simp only [Footprint.touch, free]
    rw [← same, touched]
    exact rfl

theorem narrow_leaves (source : Source) (type : ObjectType) : Leaves (narrow source type) id := by
  intro outline
  unfold narrow
  simp only [ensures_bind, ensures_get]
  split
  · exact rfl
  · rw [ensures_bind]
    exact (spend_leaves outline).mono (fun _ _ same => same) fun _ _ done => done

theorem extend_begins : Leaves extend Footprint.begin :=
  spend_leaves.after fun _ _ => rfl

theorem readSource_touches (source : Source) (type : ObjectType) :
    Leaves (readSource source type) (·.touch (source, type)) := by
  unfold readSource
  cases source with
  | entryPoint name => exact (entryPointRoot_touches name type).last fun _ => narrow_leaves _ _
  | stream name =>
    refine (streamRoot_touches name type).last fun carried => ?_
    split
    · exact Leaves.pure _
    · split
      · exact narrow_leaves _ _
      · exact Leaves.throw _ _

theorem start_leaves (needed : Bool) : Leaves (start needed) (·.start needed) := by
  intro outline
  unfold start
  rw [ensures_bind, ensures_get]
  show Ensures _ outline (fun _ after => after.footprint =
    if needed && !outline.begun then (outline.footprint.touch _).begin else outline.footprint) _
  split
  · refine ((entryPointRoot_touches defaultEntryPoint .initialFact).bind fun _ => ?_) outline
    refine (narrow_leaves _ _).after fun _ => extend_begins.last fun _ => ?_
    exact modifyContext_leaves _
  · exact rfl

theorem objects_touches (leaf : Pattern) :
    Leaves (objects leaf) (·.touch (leaf.source, leaf.subject.type)) := by
  refine (readSource_touches _ _).last fun _ => scope_leaves.after fun known => ?_
  refine (Leaves.ofOutcome _).after fun classified => ?_
  induction classified.alpha with
  | nil => exact Leaves.pure _
  | cons single rest hypothesis =>
    show Leaves ((do let _ ← spend) >>= fun _ => rest.forM fun _ => do let _ ← spend) id
    exact (spend_leaves.after fun _ => Leaves.pure _).after fun _ => hypothesis

/-- A pattern touches what it reads, and the match has begun after it. -/
theorem use_touches (leaf : Pattern) :
    Leaves (use leaf) fun sofar => (leaf.reads?.toList.foldl Footprint.touch sofar).begin := by
  unfold use Pattern.reads?
  cases leaf.use with
  | plain =>
    exact (objects_touches leaf).bind fun _ => extend_begins.last fun _ => modifyContext_leaves _
  | existential quantifier =>
    exact (objects_touches leaf).bind fun _ => extend_begins.last fun _ => modifyContext_leaves _
  | accumulate bindings =>
    exact (objects_touches leaf).bind fun _ => (modifyContext_leaves _).after fun _ => extend_begins
  | invoke invocation =>
    refine scope_leaves.after fun known => (Leaves.ofOutcome _).after fun _ => ?_
    exact (Leaves.ofOutcome _).after fun _ => extend_begins.last fun _ => modifyContext_leaves _

theorem framed_leaves {frame : String} {step : Stateful Outline Unit}
    {change : Footprint → Footprint} (inside : Leaves step change) :
    Leaves (framed frame step) change :=
  (modifyContext_leaves _).after fun _ => inside.last fun _ => modifyContext_leaves _

mutual

/-- **A view touches what its patterns read**, in the order of the patterns. -/
theorem condition_touches :
    (view : Condition) → Leaves (condition view) (view.patterns.foldl Footprint.pattern)
  | .pattern leaf =>
    (modifyContext_leaves _).after fun _ => scope_leaves.after fun _ =>
      framed_leaves ((start_leaves leaf.needsTuple).bind fun _ => use_touches leaf)
  | .and parts => framed_leaves (conditions_touch parts)
  | .or _ => framed_leaves (Leaves.throw _ _)
  | .objectPath _ => framed_leaves (Leaves.throw _ _)

theorem conditions_touch : (parts : List Condition) →
    Leaves (conditions parts) ((Condition.patternsOf parts).foldl Footprint.pattern)
  | [] => Leaves.pure _
  | part :: rest => by
    have both := (condition_touches part).bind fun _ => conditions_touch rest
    simp only [← List.foldl_append] at both
    exact both

end

/-- **A rule touches what it reads**, and the default entry point if no pattern starts its match. -/
theorem rule_touches (whole : Rule) :
    Leaves (rule whole) fun sofar =>
      (whole.view.patterns.foldl Footprint.pattern sofar).start true := by
  refine (condition_touches whole.view).bind fun _ => (start_leaves true).last fun _ => ?_
  refine (modifyContext_leaves _).after fun _ => scope_leaves.after fun _ => ?_
  refine (Leaves.ofOutcome _).after fun _ => spend_leaves.after fun id => ?_
  exact fun _ => rfl

end Outline

/-! ### Histories -/

/-- **What a rule leaves in the ledger's registries.** One that fails is taken back. -/
theorem Ledger.footprint_addRule (ledger : Ledger) (rule : Rule) :
    (ledger.addRule true rule).2.footprint =
      ((accepted [(rule, (ledger.addRule true rule).1)]).flatMap fun entry =>
        entry.1.touches).foldl Footprint.touch ledger.footprint := by
  have ends := Outline.rule_touches rule (ledger.opened rule)
  unfold addRule
  unfold Ensures at ends
  cases ended : result (Outline.rule rule) (ledger.opened rule) with
  | mk outcome after =>
    rw [ended] at ends
    cases outcome with
    | ok terminal =>
      have same : after.footprint = (rule.touches.foldl Footprint.touch ledger.footprint).begin :=
        Eq.trans ends (Footprint.foldl_pattern_start ledger.footprint rfl rule)
      have entryPoints := congrArg Footprint.entryPoints same
      have streams := congrArg Footprint.streams same
      have unbegun := Footprint.begun_foldl ledger.footprint rule.touches
      simp only [accepted, List.filterMap_cons, accepted?, List.filterMap_nil, List.flatMap_cons,
        List.flatMap_nil, List.append_nil]
      exact Footprint.ext entryPoints streams unbegun.symm
    | error failure => rfl

namespace KnowledgeBase

variable {config : BuildConfig} {attempts : List (Rule × Outcome RuleHandle)} {kb : KnowledgeBase}

/-- **In every history the registered sources are those that the accepted rules touched**, if
failures are rolled back. -/
theorem Grown.ledger_sources (grown : Grown config .standard attempts kb)
    (rollback : config.rollback = true) :
    kb.builder.ledger.footprint =
      ((accepted attempts).flatMap fun entry => entry.1.touches).foldl Footprint.touch
        ⟨fun _ => false, fun _ => none, false⟩ := by
  induction grown with
  | new => rfl
  | @addRule attempts kb grown rule hypothesis =>
    have one := kb.builder.ledger.footprint_addRule rule
    rw [← rollback, grown.addRule_ledger rule] at one
    rw [one, hypothesis, ← List.foldl_append, accepted, accepted, accepted, List.filterMap_append,
      List.flatMap_append]
  | trace _ _ hypothesis => exact hypothesis

/-- **The registries say what rules read.** -/
structure Registers (kb : KnowledgeBase) (rules : List Rule) : Prop where
  /-- A pattern reads the entry point, or it is the default one and no pattern starts the match of
  some rule. -/
  entryPoint : ∀ name, (kb.entryPoint? name).isSome = true ↔
    (∃ rule ∈ rules, ∃ type, (.entryPoint name, type) ∈ rule.reads) ∨
      (name = defaultEntryPoint ∧ ∃ rule ∈ rules, rule.seeded = true)
  entryPointRoot : ∀ name root, kb.entryPoint? name = some root →
    ∃ node, kb.network.node? root = some node ∧ node.kind = .entryPoint name
  stream : ∀ name, (kb.streamRoot? name).isSome = true ↔
    ∃ rule ∈ rules, ∃ type, (.stream name, type) ∈ rule.reads
  /-- The type of a stream is the one that the earliest pattern asked for. -/
  streamRoot : ∀ name root, kb.streamRoot? name = some root →
    ∃ node type, kb.network.node? root = some node ∧ node.kind = .stream name type ∧
      ((rules.flatMap Rule.reads).find? fun read => read.1 = .stream name).map Prod.snd = some type
  once : kb.network.roots.Nodup
  roots : ∀ id, id ∈ kb.network.roots ↔
    (∃ name, kb.entryPoint? name = some id) ∨ ∃ name, kb.streamRoot? name = some id

/-- A stream is touched by the patterns that read it only. -/
theorem find?_touches (rules : List Rule) (name : String) :
    ((rules.flatMap Rule.touches).find? fun read => read.1 = .stream name) =
      (rules.flatMap Rule.reads).find? fun read => read.1 = .stream name := by
  induction rules with
  | nil => rfl
  | cons rule rest hypothesis =>
    rw [List.flatMap_cons, List.flatMap_cons, List.find?_append, List.find?_append, hypothesis,
      Rule.touches]
    cases rule.seeded <;> simp

/-- The entry points that rules touch are those that they read, and the one that starts a match. -/
theorem any_touches (rules : List Rule) (name : String) :
    ((rules.flatMap Rule.touches).any fun read => read.1 = .entryPoint name) = true ↔
      (∃ rule ∈ rules, ∃ type, (.entryPoint name, type) ∈ rule.reads) ∨
        (name = defaultEntryPoint ∧ ∃ rule ∈ rules, rule.seeded = true) := by
  rw [List.any_eq_true]
  constructor
  · rintro ⟨⟨source, type⟩, touched, named⟩
    obtain rfl : source = .entryPoint name := of_decide_eq_true named
    obtain ⟨rule, member, touched⟩ := List.mem_flatMap.mp touched
    rcases Rule.mem_touches.mp touched with ⟨seeded, initial⟩ | read
    · exact Or.inr ⟨Source.entryPoint.inj (congrArg Prod.fst initial), rule, member, seeded⟩
    · exact Or.inl ⟨rule, member, type, read⟩
  · rintro (⟨rule, member, type, read⟩ | ⟨rfl, rule, member, seeded⟩)
    · have touched := Rule.mem_touches.mpr (Or.inr read)
      exact ⟨_, List.mem_flatMap.mpr ⟨rule, member, touched⟩, decide_eq_true rfl⟩
    · have touched := Rule.mem_touches.mpr (Or.inl ⟨seeded, rfl⟩)
      exact ⟨_, List.mem_flatMap.mpr ⟨rule, member, touched⟩, decide_eq_true rfl⟩

/-- Some rule reads the stream. -/
theorem find?_reads_isSome (rules : List Rule) (name : String) :
    ((rules.flatMap Rule.reads).find? fun read => read.1 = .stream name).isSome = true ↔
      ∃ rule ∈ rules, ∃ type, (.stream name, type) ∈ rule.reads := by
  rw [List.find?_isSome]
  constructor
  · rintro ⟨⟨source, type⟩, listed, named⟩
    obtain rfl : source = .stream name := of_decide_eq_true named
    obtain ⟨rule, member, read⟩ := List.mem_flatMap.mp listed
    exact ⟨rule, member, type, read⟩
  · rintro ⟨rule, member, type, read⟩
    exact ⟨_, List.mem_flatMap.mpr ⟨rule, member, read⟩, decide_eq_true rfl⟩

/-- The root of a stream is there and carries the type that is looked up. -/
theorem Grown.streamRoot_carries (grown : Grown config .standard attempts kb) {name : String}
    {root : NodeId} (registered : kb.streamRoot? name = some root) :
    ∃ node type, kb.network.node? root = some node ∧ node.kind = .stream name type ∧
      (kb.streamRoot? name).bind kb.network.streamType? = some type := by
  obtain ⟨node, found, kind⟩ := grown.complete.toLinked.roots (.stream name) root registered
  obtain ⟨type, kind⟩ := NodeKind.eq_stream kind
  refine ⟨node, type, found, kind, ?_⟩
  have found : kb.network.node? root = some node := found
  rw [registered, Option.bind_some, Network.streamType?, found, Option.bind_some, kind]
  rfl

/-- **With rollback, the registries say what the accepted rules read.** -/
theorem Grown.registers (grown : Grown config .standard attempts kb)
    (rollback : config.rollback = true) : kb.Registers ((accepted attempts).map Prod.fst) := by
  have complete := grown.complete
  have sources := grown.ledger_sources rollback
  rw [← List.flatMap_map] at sources
  generalize (accepted attempts).map Prod.fst = rules at sources ⊢
  have types : ∀ name, (kb.streamRoot? name).bind kb.network.streamType? =
      ((rules.flatMap Rule.reads).find? fun read => read.1 = .stream name).map Prod.snd := by
    intro name
    have known := congrFun (congrArg Footprint.streams sources) name
    rw [Footprint.streams_foldl, Option.none_or, find?_touches] at known
    exact known
  refine ⟨fun name => ?_, fun name root registered => ?_, fun name => ?_,
    fun name root registered => ?_, complete.once, fun id => ?_⟩
  · have known := congrFun (congrArg Footprint.entryPoints sources) name
    rw [Footprint.entryPoints_foldl, Bool.false_or] at known
    rw [show (kb.entryPoint? name).isSome = _ from known, any_touches]
  · obtain ⟨node, found, kind⟩ := complete.toLinked.roots (.entryPoint name) root registered
    exact ⟨node, found, NodeKind.eq_entryPoint kind⟩
  · have isSome : (kb.streamRoot? name).isSome =
        ((rules.flatMap Rule.reads).find? fun read => read.1 = .stream name).isSome := by
      rw [← Option.isSome_map (f := Prod.snd), ← types]
      cases registered : kb.streamRoot? name with
      | none => rfl
      | some root =>
        obtain ⟨_, type, _, _, known⟩ := grown.streamRoot_carries registered
        rw [← registered, known, registered]
        rfl
    rw [isSome, find?_reads_isSome]
  · obtain ⟨node, type, found, kind, known⟩ := grown.streamRoot_carries registered
    exact ⟨node, type, found, kind, (types name).symm.trans known⟩
  · refine (complete.rooted id).trans ⟨?_, ?_⟩
    · rintro ⟨source, registered⟩
      cases source with
      | entryPoint name => exact Or.inl ⟨name, registered⟩
      | stream name => exact Or.inr ⟨name, registered⟩
    · rintro (⟨name, registered⟩ | ⟨name, registered⟩)
      · exact ⟨.entryPoint name, registered⟩
      · exact ⟨.stream name, registered⟩

end KnowledgeBase

/-! ### Sessions -/

namespace Session

variable {session : Session} {source : Source} {value : Value}

/-- A session takes an object exactly if it knows the source. -/
theorem put_isOk (session : Session) (source : Source) (value : Value) :
    (session.put source value).outcome.isOk = session.knows source := by
  unfold put
  cases session.knows source <;> rfl

/-- **An object that is refused leaves no trace**: no handle is used up. -/
theorem put_refused {failure : Failure}
    (refused : (session.put source value).outcome = .error failure) :
    (session.put source value).session = session := by
  have unknown : session.knows source = false := by
    rw [← put_isOk session source value, refused]
    rfl
  simp only [put, unknown, Bool.false_eq_true, if_false, reply]

end Session

namespace KnowledgeBase

variable {config : BuildConfig} {attempts : List (Rule × Outcome RuleHandle)} {kb : KnowledgeBase}

/-- **The registries say exactly what the accepted rules read**, after any rules with any answers,
if failures are rolled back. So a session takes objects for the default entry point and for what the
accepted rules read, and refuses all others without a trace. -/
theorem registries_exact (grown : Grown config .standard attempts kb)
    (rollback : config.rollback = true) :
    kb.Registers ((accepted attempts).map Prod.fst) ∧
      ∀ session : Session, session.kb = kb → ∀ name value,
        ((session.put (.entryPoint name) value).outcome.isOk = true ↔
          name = defaultEntryPoint ∨ (kb.entryPoint? name).isSome = true) ∧
        ((session.put (.stream name) value).outcome.isOk = true ↔
          (kb.streamRoot? name).isSome = true) ∧
        ∀ source failure, (session.put source value).outcome = .error failure →
          (session.put source value).session = session := by
  refine ⟨grown.registers rollback, ?_⟩
  rintro session rfl name value
  refine ⟨?_, ?_, fun source failure refused => Session.put_refused refused⟩
  · rw [Session.put_isOk, Session.knows, Bool.or_eq_true, decide_eq_true_eq]
  · rw [Session.put_isOk, Session.knows]

/-- Of a rule over a stream and one that reads it as another type, the first is accepted. The stream
has a root, and no entry point has one. -/
theorem arrival_registered :
    let first := ((KnowledgeBase.new default .standard).addRule arrival).after
    let kb := (first.addRule petArrival).after
    (kb.streamRoot? "arrivals").isSome = true ∧ kb.entryPoint? defaultEntryPoint = none ∧
      kb.Registers [arrival] ∧
      ∀ session : Session, session.kb = kb → ∀ name value,
        ((session.put (.entryPoint name) value).outcome.isOk = true ↔
          name = defaultEntryPoint ∨ (kb.entryPoint? name).isSome = true) ∧
        ((session.put (.stream name) value).outcome.isOk = true ↔
          (kb.streamRoot? name).isSome = true) ∧
        ∀ source failure, (session.put source value).outcome = .error failure →
          (session.put source value).session = session := by
  intro first kb
  have grown : Grown default .standard _ first := Grown.new.addRule arrival
  have known := registries_exact (grown.addRule petArrival) rfl
  have accepts : ((KnowledgeBase.new default .standard).addRule arrival).outcome.isOk = true := by
    decide +kernel
  have refuses : (first.addRule petArrival).outcome.isOk = false := by decide +kernel
  have rules : (accepted ([] ++ [(arrival, ((KnowledgeBase.new default .standard).addRule
      arrival).outcome)] ++ [(petArrival, (first.addRule petArrival).outcome)])).map Prod.fst =
        [arrival] := by
    cases one : ((KnowledgeBase.new default .standard).addRule arrival).outcome with
    | error failure =>
      rw [one] at accepts
      cases accepts
    | ok handle =>
      cases two : (first.addRule petArrival).outcome with
      | ok other =>
        rw [two] at refuses
        cases refuses
      | error failure => rfl
  rw [rules] at known
  exact ⟨by decide +kernel, by decide +kernel, known⟩

end KnowledgeBase

end RuleNet
