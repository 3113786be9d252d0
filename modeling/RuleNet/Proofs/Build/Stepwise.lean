/-
**The changes that the compiler makes to a builder, one at a time.**

Whatever a rule looks like, compiling it uses up ids, adds nodes under them, finds nodes that are
there, registers roots and reports what it did. A property that each of these changes keeps holds at
the end of a compilation, also of one that failed.

* `Builder.made`: the builder after a node was made, added and reported;
* `Builder.StepwiseFor`, `Builder.Stepwise`: a property that every change keeps, for nodes of some
  kinds or of all;
* `StepwiseFor.tracked`, `Stepwise.upheld`, `Stepwise.steady`: **then every step of the compiler
  keeps it**;
* `Grown.compiled_of`: so it holds of what a rule was compiled to;
* `Grown.addRule_counted`: rules are counted, and numbered by the count.
-/

import RuleNet.Proofs.Build.Ending
import RuleNet.Proofs.Build.Maximal

namespace RuleNet

open Stateful

namespace Builder

/-- **The builder after a node was made under a new id**, added to the network and reported. -/
def made (builder : Builder) (ids : IdSupply) (wanted : NodeRequest) : Builder :=
  { builder.asked ids wanted with network := builder.network.insert wanted.toNode }.told
    (.nodeCreated wanted.id wanted.kind.sort.text)

/-- **Every change of the compiler keeps the property**, as long as nodes of the given kinds are
made. The builder's links are complete, and only the standard factory makes its nodes. -/
structure StepwiseFor (allowed : NodeKind → Prop) (property : Builder → Prop) : Prop where
  /-- An id is used up. -/
  asked : ∀ {builder : Builder} {id : NodeId} {ids : IdSupply} (wanted : NodeRequest),
    builder.Complete → builder.ids.next = .ok (id, ids) → property builder →
      property (builder.asked ids wanted)
  /-- A node is made under an id that was not used before. -/
  made : ∀ {builder : Builder} {ids : IdSupply} {wanted : NodeRequest}, allowed wanted.kind →
    builder.Complete → builder.ids.next = .ok (wanted.id, ids) →
      builder.network.contains wanted.id = false → property builder →
        property (builder.made ids wanted)
  /-- A node that is there is used. -/
  shared : ∀ {builder : Builder} {id : NodeId} (kind : String), builder.network.contains id = true →
    property builder → property (builder.told (.nodeShared id kind))
  /-- A source that has no root gets one. -/
  registered : ∀ {builder : Builder} (source : Source) (root : NodeId),
    builder.root? source = none → property builder → property (builder.register source root)
  aside : ∀ {builder : Builder} {event : BuildEvent}, event.isAside = true → property builder →
    property (builder.told event)

/-- The same, whatever nodes are made. -/
abbrev Stepwise (property : Builder → Prop) : Prop :=
  StepwiseFor (fun _ => True) property

end Builder

/-! ### Steps of the compiler -/

namespace Build

open Builder

variable {allowed : NodeKind → Prop} {property : Builder → Prop} {bench : Workbench}

/-- The node under an id that was just handed out is new. -/
theorem handed_new {builder : Builder} (complete : builder.Complete) {id : NodeId} {ids : IdSupply}
    (handed : builder.ids.next = .ok (id, ids)) : builder.network.contains id = false := by
  refine Network.contains_eq_false.mpr fun other member same => ?_
  have below := complete.tidy.below other member
  rw [same, (IdSupply.next_increases handed).1] at below
  exact Nat.lt_irrefl _ below

/-- **A node that is asked for and attached** is made, or one that is there is used. -/
theorem grow_stepwise (stepwise : StepwiseFor allowed property) {kind : NodeKind}
    {tuple object : Option NodeId} (share : Builder → Bool) (allow : allowed kind)
    (complete : bench.builder.Complete) (held : property bench.builder) :
    Ensures (request kind tuple object) bench
      (fun node mid => Ensures (place node (share mid.builder)) mid
        (fun _ after => property after.builder ∧ after.builder.root? = bench.builder.root?)
        fun _ after => property after.builder)
      fun _ after => property after.builder := by
  refine ensures_request (fun _ _ => held) fun id ids handed => ?_
  have asked := stepwise.asked ⟨id, kind, object, tuple⟩ complete handed held
  have new := handed_new complete handed
  refine ⟨fun node answer => ?_, fun _ _ => asked⟩
  rw [complete.standard] at answer
  cases answer
  refine place_tells (fun _ _ => asked) fun ended network answer log => ?_
  rcases Network.attach_cases answer with ⟨known, _⟩ | ⟨_, _, found, shared, rfl⟩ | ⟨_, _, rfl, rfl⟩
  · exact absurd (known.symm.trans new) Bool.noConfusion
  · rw [shared]
    obtain ⟨existing, there, _⟩ := Network.equivalent?_some found
    exact ⟨stepwise.shared _ (Network.contains_of_node? there) asked, rfl⟩
  · exact ⟨stepwise.made allow complete handed new held, rfl⟩

theorem entryPointRoot_stepwise (stepwise : StepwiseFor allowed property) (name : String)
    (allow : allowed (.entryPoint name)) (complete : bench.builder.Complete)
    (held : property bench.builder) :
    Ensures (entryPointRoot name) bench (fun _ after => property after.builder)
      fun _ after => property after.builder := by
  unfold entryPointRoot
  simp only [ensures_bind, ensures_builder]
  split
  · rename_i root registered
    have there : bench.builder.root? (.entryPoint name) = some root := registered
    exact stepwise.shared _ (complete.toLinked.contains_root there) held
  · rename_i unregistered
    simp only [ensures_bind, ensures_modifyBuilder]
    refine (grow_stepwise stepwise (fun _ => false) allow complete held).mono
      (fun node mid placed => ?_) fun _ _ kept => kept
    refine placed.mono (fun root after grown => ?_) fun _ _ kept => kept
    have free : after.builder.root? (.entryPoint name) = none := grown.2 ▸ unregistered
    exact stepwise.registered (.entryPoint name) root free grown.1

theorem streamRoot_stepwise (stepwise : StepwiseFor allowed property) (name : String)
    (type : ObjectType) (allow : allowed (.stream name type)) (complete : bench.builder.Complete)
    (held : property bench.builder) :
    Ensures (streamRoot name type) bench (fun _ after => property after.builder)
      fun _ after => property after.builder := by
  unfold streamRoot
  simp only [ensures_bind, ensures_builder]
  split
  · rename_i root registered
    have there : bench.builder.root? (.stream name) = some root := registered
    exact stepwise.shared _ (complete.toLinked.contains_root there) held
  · rename_i unregistered
    simp only [ensures_bind, ensures_modifyBuilder]
    refine (grow_stepwise stepwise (fun _ => false) allow complete held).mono
      (fun node mid placed => ?_) fun _ _ kept => kept
    refine placed.mono (fun root after grown => ?_) fun _ _ kept => kept
    have free : after.builder.root? (.stream name) = none := grown.2 ▸ unregistered
    exact stepwise.registered (.stream name) root free grown.1

/-- The node that narrows a root to a type is there. -/
theorem contains_objectTypeNode? {network : Network} {root id : NodeId} {type : ObjectType}
    (found : network.objectTypeNode? root type = some id) : network.contains id = true := by
  have narrows := List.find?_some found
  rw [decide_eq_true_eq, Network.narrowedType?_eq] at narrows
  obtain ⟨node, there, _⟩ := Option.bind_eq_some_iff.mp narrows
  exact Network.contains_of_node? there

theorem objectTypeNode_stepwise (stepwise : StepwiseFor allowed property) (root : NodeId)
    (type : ObjectType) (allow : allowed (.objectType type)) (complete : bench.builder.Complete)
    (held : property bench.builder) :
    Ensures (objectTypeNode root type) bench (fun _ after => property after.builder)
      fun _ after => property after.builder := by
  unfold objectTypeNode
  simp only [ensures_bind, ensures_builder]
  split
  · rename_i existing found
    exact stepwise.shared _ (contains_objectTypeNode? found) held
  · rw [ensures_bind]
    refine (grow_stepwise stepwise (fun _ => true) allow complete held).mono
      (fun node mid placed => ?_) fun _ _ kept => kept
    exact placed.mono (fun _ _ grown => grown.1) fun _ _ kept => kept

end Build

namespace Builder

variable {allowed : NodeKind → Prop} {property : Builder → Prop}

/-- **Every step of the compiler keeps what every change keeps**, if roots and the nodes that narrow
them are of the given kinds. -/
theorem StepwiseFor.tracked (stepwise : StepwiseFor allowed property)
    (sources : ∀ name type, allowed (.entryPoint name) ∧ allowed (.stream name type) ∧
      allowed (.objectType type)) :
    Tracked allowed fun builder _ => builder.Complete ∧ property builder where
  aside _ _ aside _ held := ⟨held.1.traced _, stepwise.aside aside held.2⟩
  grows _ _ _ _ share _ asks allow held :=
    ((Build.grow_complete asks held.1).both
      (Build.grow_stepwise stepwise share allow held.1 held.2)).mono
      (fun _ _ ended => (ended.1.both ended.2).mono
        (fun _ _ grown => ⟨⟨grown.1, grown.2.1⟩, fun _ => ⟨grown.1, grown.2.1⟩⟩)
        fun _ _ kept => kept) fun _ _ ended => ended
  entryPointRoot name _ start held :=
    (Build.entryPointRoot_complete name start held.1).both
      (Build.entryPointRoot_stepwise stepwise name (sources name default).1 held.1 held.2)
  streamRoot name type _ start held :=
    (Build.streamRoot_complete name type start held.1).both
      (Build.streamRoot_stepwise stepwise name type (sources name type).2.1 held.1 held.2)
  objectTypeNode root type _ start held :=
    (Build.objectTypeNode_keeps Build.complete_steady root type start held.1).both
      (Build.objectTypeNode_stepwise stepwise root type (sources default type).2.2 held.1 held.2)

/-- So do the steps that make nodes of any kind. -/
theorem Stepwise.upheld (stepwise : Stepwise property) :
    Upheld fun builder => builder.Complete ∧ property builder :=
  (stepwise.tracked fun _ _ => ⟨trivial, trivial, trivial⟩).upheld

/-- So do the steps with any reports in between, if the tracer does not matter. -/
theorem Stepwise.steady (stepwise : Stepwise property)
    (traced : ∀ builder tracer, property builder → property (builder.traced tracer)) :
    Steady fun builder => builder.Complete ∧ property builder where
  traced builder tracer held := ⟨held.1.traced tracer, traced builder tracer held.2⟩
  grows := stepwise.upheld.grows
  entryPointRoot := stepwise.upheld.entryPointRoot
  streamRoot := stepwise.upheld.streamRoot

end Builder

/-! ### Whole rules -/

namespace KnowledgeBase

variable {config : BuildConfig} {attempts : List (Rule × Outcome RuleHandle)} {kb : KnowledgeBase}
  {property : Builder → Prop}

/-- A rule is compiled on a complete builder. -/
theorem Grown.opening_complete (grown : Grown config .standard attempts kb) (rule : Rule) :
    (kb.opening rule).builder.Complete :=
  (grown.complete.traced _).opened (Builder.Undoable.opened
    ((grown.settled NodeFactory.standard_orderly).1.traced _)).tidy

/-- **What every change keeps holds of what a rule was compiled to**, also if it failed. -/
theorem Grown.compiled_of (grown : Grown config .standard attempts kb) {rule : Rule}
    (stepwise : Builder.Stepwise property) (start : property (kb.opening rule).builder) :
    (kb.compiled rule).Complete ∧ property (kb.compiled rule) :=
  (Build.rule_keeps stepwise.upheld rule (kb.opening rule)
    ⟨grown.opening_complete rule, start⟩).either

/-- What a rule was compiled to can be taken out again. -/
theorem Grown.compiled_undoable (grown : Grown config .standard attempts kb) (rule : Rule) :
    Builder.Undoable (kb.opening rule).builder (kb.compiled rule) := by
  obtain ⟨settled, _, standard⟩ := grown.settled NodeFactory.standard_orderly
  exact (Builder.rule_undoable settled (standard ▸ NodeFactory.standard_orderly) rule _ _).either

/-- Every rule that is added is counted, and one that is accepted is numbered by the count. -/
theorem Grown.addRule_counted (grown : Grown config .standard attempts kb) (rule : Rule) :
    (kb.addRule rule).after.builder.compiled = kb.builder.compiled + 1 ∧
      ∀ handle, (kb.addRule rule).outcome = .ok handle →
        handle.sequence = kb.builder.compiled + 1 := by
  have counted : (kb.compiled rule).compiled = kb.builder.compiled + 1 :=
    (grown.compiled_undoable rule).compiled
  cases ended : (kb.addRule rule).outcome with
  | ok handle =>
    obtain ⟨made, _, builder⟩ := addRule_ok ended
    refine ⟨builder ▸ counted, fun other same => ?_⟩
    cases same
    rw [made]
    exact counted
  | error failure =>
    refine ⟨?_, fun _ same => nomatch same⟩
    rw [addRule_error ended]
    show (kb.compiled rule).abandoned.compiled = _
    unfold Builder.abandoned
    split <;> exact counted

end KnowledgeBase

end RuleNet
