/-
**The place of a compile error.**

Frames are pushed and popped by hand along the walk over a view, and a step that fails leaves what
was pushed. So whatever succeeds leaves the frames as it found them, and the frames that a failure
leaves are those of the conditions it happened in.

* `Condition.leaves`: the conditions of a view that are no conjunctions, each with its depth;
* `Scope.Faults`: **the first fault** among leaves, and its frames;
* `Outline.Stands`: the place of a compilation, and the number of patterns it has met;
* `Outline.condition_stands`: a view that compiles leaves no frame, and one that does not leaves
  the frames of its first fault;
* `addRule_place`: **the place of every error of a knowledge base**.
-/

import RuleNet.Proofs.Build.Scoping

namespace RuleNet

open Stateful

/-! ### Leaves -/

/-- **A condition of a view**, inside a number of conjunctions. -/
structure Leaf where
  depth : Nat
  condition : Condition

/-- The leaf, inside one more conjunction. -/
def Leaf.deeper (leaf : Leaf) : Leaf :=
  { leaf with depth := leaf.depth + 1 }

namespace Condition

mutual

/-- **The leaves of a view**, depth first. Disjunctions are not looked into. -/
def leaves : Condition → List Leaf
  | pattern leaf => [⟨0, pattern leaf⟩]
  | and parts => (leavesOf parts).map Leaf.deeper
  | or parts => [⟨0, or parts⟩]
  | objectPath path => [⟨0, objectPath path⟩]
termination_by structural view => view

def leavesOf : List Condition → List Leaf
  | [] => []
  | part :: rest => leaves part ++ leavesOf rest
termination_by structural parts => parts

end

/-- The frame of a condition. A pattern shows its number. -/
def frame (number : Nat) : Condition → String
  | pattern leaf => leaf.frame number
  | and _ => "and"
  | or _ => "or"
  | objectPath _ => "object-path"

theorem patternsOf_append (parts others : List Condition) :
    patternsOf (parts ++ others) = patternsOf parts ++ patternsOf others := by
  induction parts with
  | nil => rfl
  | cons part rest hypothesis => simp only [List.cons_append, patternsOf, hypothesis,
      List.append_assoc]

theorem deeper_conditions (leaves : List Leaf) :
    (leaves.map Leaf.deeper).map Leaf.condition = leaves.map Leaf.condition := by
  rw [List.map_map]
  rfl

mutual

/-- **The leaves have the patterns of the view**, in its order. -/
theorem patternsOf_leaves (view : Condition) :
    patternsOf (view.leaves.map Leaf.condition) = view.patterns := by
  cases view with
  | pattern leaf => rfl
  | and parts =>
    rw [leaves, deeper_conditions, patterns]
    exact patternsOf_leavesOf parts
  | or parts => exact List.append_nil _
  | objectPath path => rfl
termination_by structural view

theorem patternsOf_leavesOf (parts : List Condition) :
    patternsOf ((leavesOf parts).map Leaf.condition) = patternsOf parts := by
  cases parts with
  | nil => rfl
  | cons part rest =>
    rw [leavesOf, List.map_append, patternsOf_append, patternsOf_leaves part,
      patternsOf_leavesOf rest, patternsOf]
termination_by structural parts

end

mutual

/-- **No leaf is a conjunction.** -/
theorem leaves_ne_and (view : Condition) {leaf : Leaf} (member : leaf ∈ view.leaves)
    (parts : List Condition) : leaf.condition ≠ .and parts := by
  cases view with
  | and own =>
    obtain ⟨inner, listed, rfl⟩ := List.mem_map.mp member
    exact leavesOf_ne_and own listed parts
  | pattern _ | or _ | objectPath _ =>
    cases List.mem_singleton.mp member
    exact Condition.noConfusion
termination_by structural view

theorem leavesOf_ne_and (list : List Condition) {leaf : Leaf} (member : leaf ∈ leavesOf list)
    (parts : List Condition) : leaf.condition ≠ .and parts := by
  cases list with
  | nil => cases member
  | cons part rest =>
    rcases List.mem_append.mp member with first | later
    · exact leaves_ne_and part first parts
    · exact leavesOf_ne_and rest later parts
termination_by structural list

end

end Condition

/-- **The frames of a leaf**: one for each conjunction around it, outermost first, and its own. -/
def Leaf.frames (number : Nat) (leaf : Leaf) : List String :=
  List.replicate leaf.depth "and" ++ [leaf.condition.frame number]

theorem Leaf.frames_deeper (number : Nat) (leaf : Leaf) :
    leaf.deeper.frames number = "and" :: leaf.frames number := rfl

/-! ### First faults -/

namespace Scope

variable {scope known : Scope} {met : Nat} {leaves more : List Leaf} {kind : FaultKind}
  {frames : List String}

theorem conditions_append (scope : Scope) (parts others : List Condition) :
    scope.conditions (parts ++ others) =
      scope.conditions parts >>= fun known => known.conditions others := by
  induction parts generalizing scope with
  | nil => rfl
  | cons part rest hypothesis =>
    simp only [List.cons_append, conditions, hypothesis, bind_assoc]

theorem conditions_singleton (scope : Scope) (part : Condition) :
    scope.conditions [part] = scope.condition part := by
  simp only [conditions]
  cases scope.condition part <;> rfl

mutual

/-- **The walk over a view goes from leaf to leaf.** -/
theorem conditions_leaves (scope : Scope) (view : Condition) :
    scope.conditions (view.leaves.map Leaf.condition) = scope.condition view := by
  cases view with
  | pattern leaf => exact conditions_singleton scope _
  | and parts =>
    rw [Condition.leaves, Condition.deeper_conditions, condition]
    exact conditions_leavesOf scope parts
  | or parts => exact conditions_singleton scope _
  | objectPath path => exact conditions_singleton scope _
termination_by structural view

theorem conditions_leavesOf (scope : Scope) (parts : List Condition) :
    scope.conditions ((Condition.leavesOf parts).map Leaf.condition) = scope.conditions parts := by
  cases parts with
  | nil => rfl
  | cons part rest =>
    rw [Condition.leavesOf, List.map_append, conditions_append, conditions_leaves scope part,
      conditions]
    cases scope.condition part with
    | error kind => rfl
    | ok known => exact conditions_leavesOf known rest
termination_by structural parts

end

/-- **The first fault among the leaves**: the walk gets past those before it and ends there. Some
patterns were met before the leaves, and the others are numbered on from them. -/
def Faults (scope : Scope) (met : Nat) (leaves : List Leaf) (kind : FaultKind)
    (frames : List String) : Prop :=
  ∃ (before : List Leaf) (leaf : Leaf) (after : List Leaf) (known : Scope),
    leaves = before ++ leaf :: after ∧
      scope.conditions (before.map Leaf.condition) = .ok known ∧
      known.condition leaf.condition = .error kind ∧
      frames =
        leaf.frames (met + (Condition.patternsOf (before.map Leaf.condition)).length + 1)

namespace Faults

theorem single {condition : Condition} (fault : scope.condition condition = .error kind) :
    Faults scope met [⟨0, condition⟩] kind [condition.frame (met + 1)] :=
  ⟨[], ⟨0, condition⟩, [], scope, rfl, rfl, fault, rfl⟩

/-- In one more conjunction. -/
theorem deeper (faults : Faults scope met leaves kind frames) :
    Faults scope met (leaves.map Leaf.deeper) kind ("and" :: frames) := by
  obtain ⟨before, leaf, after, known, rfl, passed, fault, rfl⟩ := faults
  refine ⟨before.map Leaf.deeper, leaf.deeper, after.map Leaf.deeper, known, ?_, ?_, fault, ?_⟩
  · rw [List.map_append, List.map_cons]
  · rw [Condition.deeper_conditions]
    exact passed
  · rw [Condition.deeper_conditions, Leaf.frames_deeper]

/-- With leaves that the walk does not reach. -/
theorem append (faults : Faults scope met leaves kind frames) (more : List Leaf) :
    Faults scope met (leaves ++ more) kind frames := by
  obtain ⟨before, leaf, after, known, rfl, passed, fault, place⟩ := faults
  exact ⟨before, leaf, after ++ more, known, List.append_assoc .., passed, fault, place⟩

/-- After leaves that the walk gets past. -/
theorem later (passed : scope.conditions (leaves.map Leaf.condition) = .ok known)
    (faults : Faults known
      (met + (Condition.patternsOf (leaves.map Leaf.condition)).length) more kind frames) :
    Faults scope met (leaves ++ more) kind frames := by
  obtain ⟨before, leaf, after, last, rfl, others, fault, rfl⟩ := faults
  refine ⟨leaves ++ before, leaf, after, last, (List.append_assoc ..).symm, ?_, fault, ?_⟩
  · rw [List.map_append, conditions_append, passed]
    exact others
  · rw [List.map_append, Condition.patternsOf_append, List.length_append, Nat.add_assoc met]

/-- **The walk ends at the first fault.** -/
theorem ends (faults : Faults scope met leaves kind frames) :
    scope.conditions (leaves.map Leaf.condition) = .error kind := by
  obtain ⟨before, leaf, after, known, rfl, passed, fault, rfl⟩ := faults
  rw [List.map_append, conditions_append, passed]
  show known.conditions (leaf.condition :: after.map Leaf.condition) = _
  rw [conditions, fault]
  rfl

end Faults

end Scope

/-! ### Places -/

/-- The place, one frame further in. -/
def Place.inside (place : Place) (frames : List String) : Place :=
  { place with frames := place.frames ++ frames }

theorem Place.inside_cons (place : Place) (frame : String) (frames : List String) :
    (place.inside [frame]).inside frames = place.inside (frame :: frames) := by
  simp only [Place.inside, List.append_assoc, List.singleton_append]

namespace Outline

/-- **The compilation stands in a place**, and has met a number of patterns. -/
def Stands (place : Place) (met : Nat) (outline : Outline) : Prop :=
  outline.context.place = place ∧ outline.context.patterns = met

variable {place : Place} {met : Nat} {outline : Outline}

/-- **Once a pattern is counted and has its frame**, its steps stay in their place. -/
theorem stands_of_undisturbed {α : Type} {step : Stateful Outline α}
    (quiet : ∀ begin, Keeps (Undisturbed begin) step) : Keeps (Stands place met) step :=
  keeps_of_undisturbed quiet fun _ _ same held =>
    ⟨same.2.1.trans held.1, same.2.2.trans held.2⟩

theorem ensures_modifyContext {good : Unit → Outline → Prop} {bad : Failure → Outline → Prop}
    (change : BuildContext → BuildContext) :
    Ensures (modifyContext change) outline good bad ↔
      good () { outline with context := change outline.context } := Iff.rfl

theorem ensures_scope {good : BuildContext → Outline → Prop} {bad : Failure → Outline → Prop} :
    Ensures scope outline good bad ↔ good outline.context outline := Iff.rfl

theorem known_pushFrame (outline : Outline) (frame : String) :
    known { outline with context := outline.context.pushFrame frame } = outline.known := rfl

/-- **A frame is gone after a success**, and there after a failure. -/
theorem framed_stands {frame : String} {step : Stateful Outline Unit} {ended : Nat}
    {bad : Failure → Outline → Prop} (held : Stands place met outline)
    (inside : ∀ start, start.known = outline.known → Stands (place.inside [frame]) met start →
      Ensures step start (fun _ after => Stands (place.inside [frame]) ended after) bad) :
    Ensures (framed frame step) outline (fun _ after => Stands place ended after) bad := by
  have pushed : Stands (place.inside [frame]) met
      { outline with context := outline.context.pushFrame frame } := by
    obtain ⟨rfl, rfl⟩ := held
    exact ⟨rfl, rfl⟩
  unfold framed
  rw [ensures_bind, ensures_modifyContext, ensures_bind]
  refine (inside _ (known_pushFrame outline frame) pushed).mono (fun _ after standing => ?_)
    fun _ _ failed => failed
  obtain ⟨here, count⟩ := standing
  refine ⟨?_, count⟩
  have rules := congrArg Place.rule here
  have frames := congrArg Place.frames here
  show Place.mk (some after.context.rule) after.context.frames.dropLast = place
  rw [show after.context.frames = place.frames ++ [frame] from frames, List.dropLast_concat,
    show some after.context.rule = place.rule from rules]

/-! ### Views and rules -/

/-- **What a failure leaves**: the frames of the first fault, unless the ids ran out. -/
def Blames (place : Place) (met : Nat) (scope : Scope) (leaves : List Leaf) (failure : Failure)
    (after : Outline) : Prop :=
  Exhausted failure after ∨ ∃ frames, after.context.place = place.inside frames ∧
    scope.Faults met leaves failure.kind frames

namespace Blames

variable {scope known : Scope} {leaves more : List Leaf} {failure : Failure}

theorem deeper (left : Blames (place.inside ["and"]) met scope leaves failure outline) :
    Blames place met scope (leaves.map Leaf.deeper) failure outline := by
  rcases left with exhausted | ⟨frames, here, faults⟩
  · exact Or.inl exhausted
  · exact Or.inr ⟨"and" :: frames, here.trans (Place.inside_cons ..), faults.deeper⟩

theorem append (left : Blames place met scope leaves failure outline) (more : List Leaf) :
    Blames place met scope (leaves ++ more) failure outline :=
  left.imp_right fun ⟨frames, here, faults⟩ => ⟨frames, here, faults.append more⟩

theorem later (passed : scope.conditions (leaves.map Leaf.condition) = .ok known)
    (left : Blames place (met + (Condition.patternsOf (leaves.map Leaf.condition)).length) known
      more failure outline) :
    Blames place met scope (leaves ++ more) failure outline :=
  left.imp_right fun ⟨frames, here, faults⟩ => ⟨frames, here, faults.later passed⟩

end Blames

/-- The frame of a pattern has its number, which is that of the patterns met so far and itself. -/
theorem pattern_stands (leaf : Pattern) (held : Stands place met outline) :
    Ensures (condition (.pattern leaf)) outline (fun _ after => Stands place (met + 1) after)
      fun _ after => after.context.place = place.inside [leaf.frame (met + 1)] := by
  obtain ⟨rfl, rfl⟩ := held
  rw [condition, ensures_bind, ensures_modifyContext, ensures_bind, ensures_scope]
  have counted : Stands outline.context.place (outline.context.patterns + 1)
    { outline with context := outline.context.nextPattern } := ⟨rfl, rfl⟩
  refine framed_stands counted fun start _ standing => ?_
  exact (keeps_bind (stands_of_undisturbed fun _ => start_undisturbed _)
    (fun _ => stands_of_undisturbed fun _ => use_undisturbed leaf) start standing).mono
    (fun _ _ kept => kept) fun _ _ kept => kept.1

mutual

/-- **A view that compiles leaves the frames as they were**, and its patterns are counted. A view
that does not leaves the frames of its first fault. -/
theorem condition_stands (view : Condition) {place : Place} {met : Nat} {outline : Outline}
    (held : Stands place met outline) :
    Ensures (condition view) outline
      (fun _ after => Stands place (met + view.patterns.length) after)
      (Blames place met outline.known view.leaves) := by
  cases view with
  | pattern leaf =>
    refine ((pattern_stands leaf held).both (condition_judged (.pattern leaf) outline)).mono
      (fun _ _ ended => ended.1) fun failure after ended => ?_
    obtain ⟨here, fault | exhausted⟩ := ended
    · exact Or.inr ⟨_, here, .single fault⟩
    · exact Or.inl exhausted
  | and parts =>
    refine framed_stands held fun start same standing => ?_
    refine (conditions_stands parts standing).mono (fun _ _ ended => ended) fun _ _ left => ?_
    rw [same] at left
    exact left.deeper
  | or parts =>
    exact framed_stands held fun start _ standing => Or.inr ⟨["or"], standing.1, .single rfl⟩
  | objectPath path =>
    exact framed_stands held fun start _ standing =>
      Or.inr ⟨["object-path"], standing.1, .single rfl⟩
termination_by structural view

theorem conditions_stands (parts : List Condition) {place : Place} {met : Nat} {outline : Outline}
    (held : Stands place met outline) :
    Ensures (conditions parts) outline
      (fun _ after => Stands place (met + (Condition.patternsOf parts).length) after)
      (Blames place met outline.known (Condition.leavesOf parts)) := by
  cases parts with
  | nil => exact held
  | cons part rest =>
    rw [conditions, ensures_bind]
    refine ((condition_stands part held).both (condition_judged part outline)).mono
      (fun _ mid ended => ?_) fun _ _ ended => ended.1.append _
    obtain ⟨standing, passed⟩ := ended
    refine (conditions_stands rest standing).mono (fun _ after ended => ?_) fun _ _ left => ?_
    · rw [Condition.patternsOf, List.length_append, ← Nat.add_assoc]
      exact ended
    · rw [← Condition.patternsOf_leaves] at left
      exact left.later ((Scope.conditions_leaves _ part).trans passed)
termination_by structural parts

end

/-- **A terminal that fails** leaves one frame. -/
theorem terminal_stands (whole : Rule) (held : Stands place met outline) :
    Ensures (terminal whole) outline (fun _ _ => True)
      fun _ after => after.context.place = place.inside ["consequence"] := by
  obtain ⟨rfl, rfl⟩ := held
  unfold terminal
  rw [ensures_bind, ensures_modifyContext, ensures_bind, ensures_scope, ensures_bind]
  have pushed : Stands (outline.context.place.inside ["consequence"]) outline.context.patterns
    { outline with context := outline.context.pushFrame "consequence" } := ⟨rfl, rfl⟩
  refine (ofOutcome_keeps _ _ pushed).mono (fun _ bound standing => ?_) fun _ _ kept => kept.1
  rw [ensures_bind]
  exact (stands_of_undisturbed (fun _ => spend_undisturbed) bound standing).mono
    (fun _ _ _ => trivial) fun _ _ kept => kept.1

/-- **A rule that fails** leaves the frames of the first fault of its view, or that of its
consequence, unless the ids ran out. -/
theorem rule_stands (whole : Rule) (held : Stands place met outline) :
    Ensures (rule whole) outline (fun _ _ => True) fun failure after =>
      Blames place met outline.known whole.view.leaves failure after ∨
        ∃ known, outline.known.condition whole.view = .ok known ∧
          known.require whole.consequence.bindings = .error failure.kind ∧
          after.context.place = place.inside ["consequence"] := by
  unfold rule
  rw [ensures_bind]
  refine ((condition_stands whole.view held).both (condition_judged whole.view outline)).mono
    (fun _ mid ended => ?_) fun _ _ failed => Or.inl failed.1
  obtain ⟨standing, passed⟩ := ended
  rw [ensures_bind]
  have begins := stands_of_undisturbed (fun _ => start_undisturbed true) mid standing
  refine (begins.both (start_judged true)).mono
    (fun _ begun ended => ?_) fun _ _ failed => ?_
  · obtain ⟨standing, same⟩ := ended
    rw [Except.ok.inj same] at passed
    refine ((terminal_stands whole standing).both (terminal_judged whole)).mono
      (fun _ _ _ => trivial) fun _ _ failed => ?_
    obtain ⟨here, fault | exhausted⟩ := failed
    · refine Or.inr ⟨begun.known, passed, ?_, here⟩
      cases required : begun.known.require whole.consequence.bindings with
      | ok _ =>
        rw [required] at fault
        cases fault
      | error kind =>
        rw [required] at fault
        exact congrArg Except.error (Except.error.inj fault)
    · exact Or.inl (Or.inl exhausted)
  · exact Or.inl (Or.inl (failed.2.resolve_left fun fault => by cases fault))

end Outline

/-- A consequence is at fault if it reads a variable that is not bound. -/
theorem Scope.unbound_of_require {scope : Scope} {reads : List Variable} {kind : FaultKind}
    (fault : scope.require reads = .error kind) :
    (∃ v ∈ reads, scope.binds v = false) ∧ kind = .structural := by
  unfold require at fault
  split at fault
  · cases fault
  · rename_i unbound
    cases fault
    refine ⟨?_, rfl⟩
    simpa only [not_forall, Bool.not_eq_true, exists_prop] using unbound

namespace KnowledgeBase

variable {config : BuildConfig} {attempts : List (Rule × Outcome RuleHandle)} {kb : KnowledgeBase}

/-- **The place of an error is where its compilation ended.** -/
theorem Grown.addRule_failure (grown : Grown config .standard attempts kb) {rule : Rule}
    {failure : Failure} (fails : (kb.addRule rule).outcome = .error failure) :
    ∃ cause after,
      result (Outline.rule rule) (kb.builder.ledger.opened rule) = (.error cause, after) ∧
        failure = cause.located after.context.place ∧
        (Outline.Exhausted cause after → kb.Exhausts rule) := by
  have answer := grown.addRule_ledger rule
  unfold Ledger.addRule at answer
  cases ended : result (Outline.rule rule) (kb.builder.ledger.opened rule) with
  | mk outcome after =>
    rw [ended, fails] at answer
    cases outcome with
    | ok terminal => cases (Prod.mk.inj answer).1
    | error cause =>
      obtain ⟨located, left⟩ := Prod.mk.inj answer
      have located : failure = cause.located after.context.place :=
        (Except.error.inj located).symm
      have used : (kb.addRule rule).after.builder.ledger.ids = after.ledger.ids := by
        rw [← left]
        split <;> rfl
      refine ⟨cause, after, rfl, located, fun exhausted => ?_⟩
      obtain ⟨limit, spent⟩ := exhausted
      rw [← used] at spent
      exact ⟨failure, fails, located ▸ limit, spent⟩

/-- **The place of an error.** In every history of a knowledge base, as long as the ids last, the
error of a rule that is rejected names the rule. If the view of the rule has a fault, the frames
are those of its first: one for each conjunction around it, and that of the condition itself, in
which patterns are numbered as they stand in the view. Otherwise the consequence reads a variable
that is not bound, and the one frame is that of the consequence. -/
theorem addRule_place (grown : Grown config .standard attempts kb) {rule : Rule}
    {failure : Failure} (supplied : ¬ kb.Exhausts rule)
    (fails : (kb.addRule rule).outcome = .error failure) :
    ∃ frames, failure.place = some ⟨some rule.name, frames⟩ ∧
      ((kb.scope.condition rule.view = .error failure.kind ∧
          ∃ before leaf after known number,
            rule.view.leaves = before ++ leaf :: after ∧
              kb.scope.conditions (before.map Leaf.condition) = .ok known ∧
              known.condition leaf.condition = .error failure.kind ∧
              (∀ parts, leaf.condition ≠ .and parts) ∧
              number = (Condition.patternsOf (before.map Leaf.condition)).length ∧
              (∀ pattern, leaf.condition = .pattern pattern →
                rule.view.patterns[number]? = some pattern) ∧
              frames = List.replicate leaf.depth "and" ++ [leaf.condition.frame (number + 1)]) ∨
        ∃ known, kb.scope.condition rule.view = .ok known ∧
          (∃ v ∈ rule.consequence.bindings, known.binds v = false) ∧
          failure.kind = .structural ∧ frames = ["consequence"]) := by
  obtain ⟨cause, after, ended, located, exhausts⟩ := grown.addRule_failure fails
  have opened : Outline.Stands (.inRule rule.name) 0 (kb.builder.ledger.opened rule) :=
    ⟨rfl, rfl⟩
  have left := (Outline.rule_stands rule opened).of_error (congrArg Prod.fst ended)
  rw [ended] at left
  subst located
  rcases left with (exhausted | ⟨frames, here, faults⟩) | ⟨known, passed, unbound, here⟩
  · exact absurd (exhausts exhausted) supplied
  · refine ⟨frames, congrArg some here, Or.inl ⟨?_, ?_⟩⟩
    · rw [← Scope.conditions_leaves]
      exact faults.ends
    · obtain ⟨before, leaf, others, known, split, passed, fault, rfl⟩ := faults
      have member : leaf ∈ rule.view.leaves :=
        split ▸ List.mem_append_right before List.mem_cons_self
      refine ⟨before, leaf, others, known, _, split, passed, fault,
        Condition.leaves_ne_and rule.view member, rfl, fun pattern own => ?_, ?_⟩
      · rw [← Condition.patternsOf_leaves, split, List.map_append, Condition.patternsOf_append,
          List.getElem?_append_right (Nat.le_refl _), Nat.sub_self, List.map_cons, own]
        rfl
      · rw [Leaf.frames, Nat.zero_add]
  · exact ⟨_, congrArg some here, Or.inr ⟨known, passed, (Scope.unbound_of_require unbound).1,
      (Scope.unbound_of_require unbound).2, rfl⟩⟩

/-- A rule whose second pattern reads a variable that nothing binds, in a conjunction inside a
conjunction. -/
def nestedElder : Rule where
  name := "nested elder"
  salience := 0
  view := .and [.and [.pattern (Pattern.of ⟨0, "p", .fact "Person"⟩ .plain)],
    .and [.and [.pattern ((Pattern.of ⟨1, "q", .fact "Person"⟩ .plain).joining "older"
      ⟨2, "r", .fact "Person"⟩ fun _ => .ok true)]]]
  consequence := ⟨[], fun _ => .ok ()⟩

/-- The conjunction that was compiled before leaves no frame. -/
theorem nestedElder_place :
    let kb := KnowledgeBase.new default .standard
    ∃ failure, (kb.addRule nestedElder).outcome = .error failure ∧
      failure.place =
        some ⟨some "nested elder", ["and", "and", "and", "pattern #2 ?q"]⟩ ∧
      kb.scope.condition nestedElder.view = .error failure.kind := by
  intro kb
  have grown : Grown default .standard [] kb := Grown.new
  have fails : (match (kb.addRule nestedElder).outcome with
    | .ok _ => false
    | .error failure => decide (failure.kind = .structural ∧ failure.place =
        some ⟨some "nested elder", ["and", "and", "and", "pattern #2 ?q"]⟩)) = true := by
    decide +kernel
  cases ended : (kb.addRule nestedElder).outcome with
  | ok handle =>
    rw [ended] at fails
    cases fails
  | error failure =>
    rw [ended] at fails
    obtain ⟨kind, place⟩ := of_decide_eq_true fails
    have supplied : ¬ kb.Exhausts nestedElder := by
      rintro ⟨other, answer, limit, _⟩
      rw [ended] at answer
      cases answer
      rw [kind] at limit
      cases limit
    obtain ⟨frames, _, ⟨fault, _⟩ | ⟨known, _, ⟨v, read, _⟩, _⟩⟩ :=
      addRule_place grown supplied ended
    · exact ⟨failure, rfl, place, fault⟩
    · cases read

end KnowledgeBase

end RuleNet
