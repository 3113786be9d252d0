/-
**No two nodes have one id.**

A node is only added under an id that is not taken, so the ids of a network are distinct, whatever
the factory does.

* `Network.Distinct.attach`, `Network.Distinct.rollback`: what happens to the network;
* `distinct_steady`: every step of the compiler keeps them distinct;
* `Grown.distinct`: **in every history the ids are distinct**, for every factory.
-/

import RuleNet.Proofs.Build.History

namespace RuleNet

open Stateful

namespace Network

variable {network after : Network}

theorem Distinct.attach (distinct : network.Distinct) {node : Node} {share : Bool}
    {attached : Attached} (answer : network.attach node share = .ok (attached, after)) :
    after.Distinct := by
  rcases attach_cases answer with ⟨_, _, rfl⟩ | ⟨_, _, _, _, rfl⟩ | ⟨new, _, _, rfl⟩
  · exact distinct
  · exact distinct
  · exact distinct.insert new

/-- Taking a node out leaves some of the ids. -/
theorem detach_sublist (nodes : List Node) (id : NodeId) :
    ((detach nodes id).map Node.id).Sublist (nodes.map Node.id) := by
  unfold detach
  split
  · exact List.Sublist.refl _
  · rename_i node _
    have same : Node.id ∘
        (fun other => if other.id ∈ node.parents then other.disown id else other) = Node.id := by
      funext other
      simp only [Function.comp_apply]
      split <;> rfl
    rw [List.map_map, same]
    exact List.filter_sublist.map _

theorem Distinct.rollback (distinct : network.Distinct) : network.rollback.2.Distinct := by
  unfold Network.rollback
  split
  · exact distinct
  · rename_i added _
    show (((added.reverse.foldl detach network.nodes).map Node.id)).Nodup
    unfold Distinct at distinct
    generalize network.nodes = nodes at distinct
    induction added.reverse generalizing nodes with
    | nil => exact distinct
    | cons id rest hypothesis => exact hypothesis _ ((detach_sublist nodes id).nodup distinct)

end Network

/-! ### Steps of the compiler -/

namespace Build

open Builder

/-- The ids of the network are distinct. -/
def Separate (builder : Builder) : Prop :=
  builder.network.Distinct

theorem request_separate (kind : NodeKind) (tuple object : Option NodeId) :
    Keeps (Holds Separate) (request kind tuple object) :=
  fun _ held => ensures_request (fun _ _ => held) fun _ _ _ => ⟨fun _ _ => held, fun _ _ => held⟩

theorem place_separate (node : Node) (share : Bool) : Keeps (Holds Separate) (place node share) :=
  fun _ held => ensures_place (fun _ _ => held) fun _ _ answer _ _ =>
    Network.Distinct.attach held answer

theorem modifyBuilder_separate {change : Builder → Builder}
    (same : ∀ builder, (change builder).network = builder.network) :
    Keeps (Holds Separate) (modifyBuilder change) := by
  intro start held
  show (change start.builder).network.Distinct
  rw [same]
  exact held

/-- **Every step of the compiler keeps the ids distinct.** -/
theorem distinct_steady : Steady Separate := by
  have logs : ∀ level text, Keeps (Holds Separate) (log level text) :=
    fun _ _ _ held => ensures_log fun _ _ => held
  have reports : ∀ event, Keeps (Holds Separate) (report event) :=
    fun _ _ held => ensures_report fun _ _ => held
  refine ⟨fun _ _ held => held, fun bench kind tuple object share _ held => ?_, fun name => ?_,
    fun name type => ?_⟩
  · exact (request_separate kind tuple object bench held).mono
      (fun node mid kept => place_separate node (share mid.builder) mid kept) fun _ _ kept => kept
  · unfold entryPointRoot
    refine keeps_bind builder_keeps fun known => ?_
    split
    · exact keeps_bind (reports _) fun _ => keeps_pure _
    · refine keeps_bind (request_separate _ _ _) fun node => ?_
      refine keeps_bind (place_separate _ _) fun root => ?_
      refine keeps_bind (modifyBuilder_separate fun _ => rfl) fun _ => ?_
      exact keeps_bind (logs _ _) fun _ => keeps_pure _
  · unfold streamRoot
    refine keeps_bind builder_keeps fun known => ?_
    split
    · exact keeps_bind (reports _) fun _ => keeps_pure _
    · refine keeps_bind (request_separate _ _ _) fun node => ?_
      refine keeps_bind (place_separate _ _) fun root => ?_
      refine keeps_bind (modifyBuilder_separate fun _ => rfl) fun _ => ?_
      exact keeps_bind (logs _ _) fun _ => keeps_pure _

end Build

namespace KnowledgeBase

variable {config : BuildConfig} {factory : NodeFactory}
  {attempts : List (Rule × Outcome RuleHandle)} {kb : KnowledgeBase}

/-- **In every history the ids are distinct**, whatever the factory does. -/
theorem Grown.distinct (grown : Grown config factory attempts kb) : kb.network.Distinct := by
  induction grown with
  | new => exact List.nodup_nil
  | @addRule attempts kb _ rule hypothesis =>
    have ends : Stateful.Ensures (Builder.addRule rule) ⟨kb.builder, .new rule.name, []⟩
        (fun _ after => Build.Separate after.builder)
        fun _ after => Build.Separate after.builder := by
      refine Builder.ensures_addRule fun tracer log => ?_
      have opened : Builder.Holds Build.Separate
          ⟨(kb.builder.traced tracer).opened, .new rule.name, log⟩ := by
        show (kb.builder.traced tracer).opened.network.Distinct
        unfold Builder.opened
        cases (kb.builder.traced tracer).config.rollback <;> exact hypothesis
      refine (Build.rule_keeps Build.distinct_steady.upheld rule _ opened).mono
        (fun _ after kept => fun _ _ => kept) fun _ after kept => fun _ _ => ?_
      show after.builder.abandoned.network.Distinct
      unfold Builder.abandoned
      split
      · exact Network.Distinct.rollback kept
      · exact kept
    show Build.Separate (kb.addRule rule).after.builder
    rw [(addRule_result kb rule).2]
    exact ends.either
  | trace _ step hypothesis => exact hypothesis

end KnowledgeBase

end RuleNet
