/-
**Rules that failed leave no trace but gaps between the ids.**

With rollback, a knowledge base that was asked to add some rules holds the same network as one that
was only asked to add those that it accepted. Only the ids differ: those that a failed rule used up
are missing.

* `Renumbering.skip`: a renumbering that leaves a gap before all ids that are still to come;
* `KnowledgeBase.Image`: a knowledge base holds the network and the rules of another one under other
  ids;
* `withoutFailures`: the rules that were accepted, added to a new knowledge base;
* `Twins`: the builders and the rules of two knowledge bases correspond, and go on to do so whether
  the next rule is accepted (`Twins.accepts`) or fails (`Twins.fails`);
* `Grown.replays`: **in every history the accepted rules are accepted** again, and the knowledge
  base holds what they were compiled to, under other ids.
-/

import RuleNet.Proofs.Build.Accepted
import RuleNet.Proofs.Build.Maximal
import RuleNet.Proofs.Build.Replay

namespace RuleNet

open Stateful

/-! ### Gaps -/

namespace Renumbering

variable {numbers others : Renumbering}

def identity : Renumbering :=
  ⟨fun index => index, strictMono_id⟩

/-- **A gap before all ids from one on**, which continue at another one. -/
def skip (numbers : Renumbering) {start next : Nat} (above : numbers.number start ≤ next) :
    Renumbering where
  number index := if index < start then numbers.number index else next + (index - start)
  rises a b less := by
    have rises := numbers.rises less
    have below : a < start → numbers.number a < numbers.number start :=
      fun less => numbers.rises less
    simp only
    split <;> split <;> omega

/-- What is below the gap keeps its number. -/
theorem skip_nodeId {start next : Nat} (above : numbers.number start ≤ next) {id : NodeId}
    (below : id.index < start) : (numbers.skip above).nodeId id = numbers.nodeId id :=
  congrArg NodeId.mk (if_pos below)

/-- **Only the numbers of nodes that are there count.** -/
theorem network_congr {builder : Builder} (complete : builder.Complete)
    (settled : builder.Settled) (agree : ∀ id, builder.network.contains id = true →
      others.nodeId id = numbers.nodeId id) :
    others.network builder.network = numbers.network builder.network := by
  have tidy := settled.tidy.network
  simp only [Renumbering.network, Network.mk.injEq]
  refine ⟨?_, ?_, ?_⟩
  · refine List.map_congr_left fun node member => ?_
    have own : others.nodeId node.id = numbers.nodeId node.id :=
      agree _ (Network.contains_iff.mpr ⟨node, member, rfl⟩)
    have object : node.objectParent.map others.nodeId = node.objectParent.map numbers.nodeId :=
      Option.map_congr fun parent named => agree parent <|
        complete.contains_parent member (by simp [Node.parents, Option.mem_def.mp named])
    have tuple : node.tupleParent.map others.nodeId = node.tupleParent.map numbers.nodeId :=
      Option.map_congr fun parent named => agree parent <|
        complete.contains_parent member (by simp [Node.parents, Option.mem_def.mp named])
    have children : node.children.map others.nodeId = node.children.map numbers.nodeId := by
      refine List.map_congr_left fun id listed => agree id ?_
      obtain ⟨child, inside, rfl, _⟩ := tidy.children node member id listed
      exact Network.contains_iff.mpr ⟨child, inside, rfl⟩
    simp only [Renumbering.node, own, object, tuple, children]
  · exact List.map_congr_left fun id listed => agree id (tidy.roots id listed)
  · rw [settled.closed]
    rfl

theorem roots_congr {roots : Roots}
    (agree : ∀ entry ∈ roots.byName, others.nodeId entry.2 = numbers.nodeId entry.2) :
    others.roots roots = numbers.roots roots :=
  congrArg Roots.mk (List.map_congr_left fun entry member => by rw [agree entry member])

end Renumbering

namespace Builder

variable {numbers : Renumbering} {twin builder after : Builder}

/-- **A builder that used up ids** holds the same network with a gap before the next id. -/
theorem Image.skip (image : twin.Image numbers builder) (complete : twin.Complete)
    (settled : twin.Settled) (same : builder.SameButUsed after)
    (above : numbers.number twin.ids.nextIndex ≤ after.ids.nextIndex) :
    twin.Image (numbers.skip above) after := by
  obtain ⟨ids, requests, compiled, tracer, rfl⟩ := same
  have agree : ∀ id, twin.network.contains id = true →
      (numbers.skip above).nodeId id = numbers.nodeId id := by
    intro id known
    obtain ⟨node, member, rfl⟩ := Network.contains_iff.mp known
    exact Renumbering.skip_nodeId above (settled.tidy.below node member)
  refine ⟨?_, ?_, ?_, image.config, image.factory, image.standard, ?_, fun index later => ?_⟩
  · rw [Renumbering.network_congr complete settled agree]
    exact image.network
  · rw [Renumbering.roots_congr fun entry member =>
      agree _ (settled.tidy.entryPoints entry member)]
    exact image.entryPoints
  · rw [Renumbering.roots_congr fun entry member => agree _ (settled.tidy.streams entry member)]
    exact image.streams
  · show ids.nextIndex = if _ then _ else _
    rw [if_neg (Nat.lt_irrefl _), Nat.sub_self]
    rfl
  · simp only [Renumbering.skip]
    rw [if_neg (by omega), if_neg (by omega)]
    omega

theorem image_new (config : BuildConfig) :
    (Builder.new config .standard).Image .identity (Builder.new config .standard) where
  network := rfl
  entryPoints := rfl
  streams := rfl
  config := rfl
  factory := rfl
  standard := rfl
  next := rfl
  onward _ _ := rfl

end Builder

namespace KnowledgeBase

/-! ### Several rules -/

/-- One more rule, after several that were accepted. -/
theorem addRules_append {kb : KnowledgeBase} {rules : List Rule} {handles : List RuleHandle}
    (added : (kb.addRules rules).outcome = .ok handles) {rule : Rule} {handle : RuleHandle}
    (last : ((kb.addRules rules).after.addRule rule).outcome = .ok handle) :
    (kb.addRules (rules ++ [rule])).outcome = .ok (handles ++ [handle]) ∧
      (kb.addRules (rules ++ [rule])).after = ((kb.addRules rules).after.addRule rule).after := by
  induction rules generalizing kb handles with
  | nil =>
    cases added
    simp only [addRules] at last
    simp only [List.nil_append, addRules, last]
    exact ⟨rfl, trivial⟩
  | cons first rest hypothesis =>
    simp only [List.cons_append, addRules] at added last ⊢
    cases one : (kb.addRule first).outcome with
    | error failure =>
      rw [one] at added
      cases added
    | ok known =>
      simp only [one] at added last ⊢
      obtain ⟨others, later, rfl⟩ := Outcome.map_eq_ok.mp added
      obtain ⟨outcome, after⟩ := hypothesis later last
      rw [outcome]
      exact ⟨rfl, after⟩

/-- Several rules are added one after the other. -/
theorem Grown.addRules {config : BuildConfig} {factory : NodeFactory}
    {attempts : List (Rule × Outcome RuleHandle)} {kb : KnowledgeBase}
    (grown : Grown config factory attempts kb) (rules : List Rule) :
    ∃ others, Grown config factory others (kb.addRules rules).after := by
  induction rules generalizing attempts kb with
  | nil => exact ⟨attempts, grown⟩
  | cons rule rest hypothesis =>
    simp only [KnowledgeBase.addRules]
    cases (kb.addRule rule).outcome with
    | error failure => exact ⟨_, grown.addRule rule⟩
    | ok handle => exact hypothesis (grown.addRule rule)

/-! ### Histories -/

/-- **A knowledge base holds the network and the rules of another one under other ids.** -/
structure Image (numbers : Renumbering) (twin kb : KnowledgeBase) : Prop where
  network : kb.network = numbers.network twin.network
  entryPoints : kb.builder.entryPoints = numbers.roots twin.builder.entryPoints
  streams : kb.builder.streams = numbers.roots twin.builder.streams
  rules : List.Forall₂ (RuleHandle.Image numbers) twin.rules kb.rules

/-- **The rules that were accepted**, added to a new knowledge base. -/
def withoutFailures (config : BuildConfig) (attempts : List (Rule × Outcome RuleHandle)) :
    Change KnowledgeBase (List RuleHandle) :=
  (KnowledgeBase.new config .standard).addRules ((accepted attempts).map Prod.fst)

variable {config : BuildConfig} {attempts : List (Rule × Outcome RuleHandle)} {kb : KnowledgeBase}

theorem withoutFailures_grown (config : BuildConfig)
    (attempts : List (Rule × Outcome RuleHandle)) :
    ∃ others, Grown config .standard others (withoutFailures config attempts).after :=
  Grown.new.addRules _

/-- A rule that failed is left out. -/
theorem withoutFailures_error (rule : Rule) (failure : Failure) :
    withoutFailures config (attempts ++ [(rule, .error failure)]) =
      withoutFailures config attempts := by
  rw [withoutFailures, accepted_error, withoutFailures]

/-- A rule that was accepted is added. -/
theorem withoutFailures_ok {handles : List RuleHandle} {rule : Rule} {own : RuleHandle}
    (accepts : (withoutFailures config attempts).outcome = .ok handles)
    (again : ((withoutFailures config attempts).after.addRule rule).outcome = .ok own)
    (handle : RuleHandle) :
    (withoutFailures config (attempts ++ [(rule, .ok handle)])).outcome = .ok (handles ++ [own]) ∧
      (withoutFailures config (attempts ++ [(rule, .ok handle)])).after =
        ((withoutFailures config attempts).after.addRule rule).after := by
  rw [withoutFailures, accepted_ok, List.map_append]
  exact addRules_append accepts again

/-- **What holds along a history**: the two builders correspond, and so do the rules. -/
structure Twins (numbers : Renumbering) (twin kb : KnowledgeBase) : Prop where
  builder : twin.builder.Image numbers kb.builder
  rules : List.Forall₂ (RuleHandle.Image numbers) twin.rules kb.rules

namespace Twins

variable {numbers : Renumbering} {twin : KnowledgeBase} {rule : Rule}
  {others : List (Rule × Outcome RuleHandle)}

theorem image (twins : Twins numbers twin kb) : twin.Image numbers kb :=
  ⟨twins.builder.network, twins.builder.entryPoints, twins.builder.streams, twins.rules⟩

/-- **A rule that is accepted** is accepted by the twin. -/
theorem accepts (twins : Twins numbers twin kb) {handle : RuleHandle}
    (ended : (kb.addRule rule).outcome = .ok handle) :
    ∃ own, (twin.addRule rule).outcome = .ok own ∧
      Twins numbers (twin.addRule rule).after (kb.addRule rule).after := by
  obtain ⟨outcome, builder⟩ := addRule_result kb rule
  obtain ⟨answer, last⟩ := addRule_result twin rule
  have replays := @Builder.addRule_replays numbers ⟨twin.builder, .new rule.name, []⟩
    ⟨kb.builder, .new rule.name, []⟩ twins.builder rule
  have replayed := replays.of_ok (outcome.symm.trans ended)
  rw [← builder] at replayed
  cases again : (twin.addRule rule).outcome with
  | error failure => exact (replayed.of_error (answer.symm.trans again)).elim
  | ok own =>
    obtain ⟨renumbered, image⟩ := replayed.of_ok (answer.symm.trans again)
    rw [← last] at image
    refine ⟨own, rfl, image, ?_⟩
    rw [rules_of_ok ended, rules_of_ok again]
    exact List.rel_append twins.rules (.cons renumbered .nil)

/-- **A rule that fails** uses up ids, and nothing else: the gap before the next id grows. -/
theorem fails (twins : Twins numbers twin kb) (grown : Grown config .standard attempts kb)
    (grows : Grown config .standard others twin) (rollback : config.rollback = true)
    {failure : Failure} (ended : (kb.addRule rule).outcome = .error failure) :
    ∃ numbers, Twins numbers twin (kb.addRule rule).after := by
  obtain ⟨outcome, builder⟩ := addRule_result kb rule
  obtain ⟨settled, same, standard⟩ := grown.settled NodeFactory.standard_orderly
  have ready := (grows.settled NodeFactory.standard_orderly).1
  have orderly : kb.builder.factory.Orderly := standard ▸ NodeFactory.standard_orderly
  have ends := (@Builder.addRule_ends ⟨kb.builder, .new rule.name, []⟩ settled orderly rule).both
    (Builder.addRule_supplied settled orderly rule)
  obtain ⟨⟨_, _, _, back⟩, supplied⟩ := ends.of_error (outcome.symm.trans ended)
  rw [← builder] at back supplied
  have above := twins.builder.next.symm.trans_le supplied
  have below : ∀ own ∈ twin.rules, own.terminal.index < twin.builder.ids.nextIndex := by
    intro own listed
    obtain ⟨node, member, same⟩ := Network.contains_iff.mp (grows.contains_terminal listed)
    exact same ▸ ready.tidy.below node member
  refine ⟨numbers.skip above,
    twins.builder.skip grows.complete ready (back (same ▸ rollback)) above, ?_⟩
  rw [rules_of_error ended]
  refine ((List.forall₂_and_left _ _).mpr ⟨below, twins.rules⟩).imp fun own handle renumbered => ?_
  obtain ⟨below, name, salience, terminal⟩ := renumbered
  exact ⟨name, salience, terminal.trans (Renumbering.skip_nodeId above below).symm⟩

end Twins

/-- **With rollback, a history leaves what its accepted rules leave**, under other ids. -/
theorem Grown.replays (grown : Grown config .standard attempts kb)
    (rollback : config.rollback = true) :
    ∃ handles numbers, (withoutFailures config attempts).outcome = .ok handles ∧
      Twins numbers (withoutFailures config attempts).after kb := by
  induction grown with
  | new => exact ⟨[], .identity, rfl, Builder.image_new config, .nil⟩
  | @addRule attempts kb grown rule hypothesis =>
    obtain ⟨handles, numbers, accepts, twins⟩ := hypothesis
    obtain ⟨others, grows⟩ := withoutFailures_grown config attempts
    cases ended : (kb.addRule rule).outcome with
    | error failure =>
      obtain ⟨renumbered, twins⟩ := twins.fails grown grows rollback ended
      rw [withoutFailures_error]
      exact ⟨handles, renumbered, accepts, twins⟩
    | ok handle =>
      obtain ⟨own, again, twins⟩ := twins.accepts ended
      obtain ⟨accepts, after⟩ := withoutFailures_ok accepts again handle
      exact ⟨_, numbers, accepts, after ▸ twins⟩
  | trace _ step hypothesis =>
    obtain ⟨handles, numbers, accepts, image, rules⟩ := hypothesis
    exact ⟨handles, numbers, accepts, { image with }, rules⟩

end KnowledgeBase

end RuleNet
