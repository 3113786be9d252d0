/-
**The meaning of compiled rules.**

Every rule that was added has a terminal for good, below the tokens that stand for the matches of
its view. Rules that were added later, with or without success, change nothing about that.

* `Attempted`: the callbacks of the rules that were attempted so far;
* `Builder.addRule_realizes`: adding a rule realizes it and keeps what was realized;
* `Grown.realizes`: **in every history, every rule that was added is realized**;
* `tokens_eq_matching`: evaluating the network gives the matches of the reference.
-/

import RuleNet.Proofs.Build.History
import RuleNet.Proofs.Build.Views
import RuleNet.Proofs.Match.Evaluation

namespace RuleNet

open Stateful

/-! ### Adding a rule -/

namespace Builder

variable {callbacks : Callback → Prop} {bench : Workbench} {trust : Prop} {rule : Rule}

/-- **Adding a rule realizes it**, and keeps what is there. -/
theorem addRule_realizes (settled : bench.builder.Settled) (sound : bench.builder.Sound callbacks)
    (trusted : trust → Trusted callbacks bench.builder.config)
    (own : ∀ callback ∈ rule.callbacks, callbacks callback) :
    Ensures (addRule rule) bench
      (fun handle after => Advances callbacks bench.builder after.builder ∧
        (handle.name = rule.name ∧ handle.salience = rule.salience) ∧
        ∃ scope tuple, after.builder.network.Realizes trust rule handle.terminal scope tuple)
      fun _ after => Advances callbacks bench.builder after.builder := by
  have ends := addRule_ends settled (sound.standard ▸ NodeFactory.standard_orderly) rule
  suffices Ensures (addRule rule) bench
      (fun handle after =>
        (after.builder.Settled → Advances callbacks bench.builder after.builder) ∧
        (handle.name = rule.name ∧ handle.salience = rule.salience) ∧
        ∃ scope tuple, after.builder.network.Realizes trust rule handle.terminal scope tuple)
      fun _ after => bench.builder.config.rollback = false → after.builder.Settled →
        Advances callbacks bench.builder after.builder by
    refine (ends.both this).mono (fun handle after ended => ?_) fun failure after ended => ?_
    · exact ⟨ended.2.1 ended.1.1, ended.2.2⟩
    · obtain ⟨⟨left, config, factory, back⟩, kept⟩ := ended
      cases rollback : bench.builder.config.rollback with
      | false => exact kept rollback left
      | true =>
        obtain ⟨ids, requests, compiled, tracer, same⟩ := back rollback
        exact sound.same left.tidy (by rw [same]) (by rw [same]) (by rw [same]) factory config
  refine ensures_addRule fun tracer log => ?_
  have opened : Advances callbacks bench.builder (bench.builder.traced tracer).opened := by
    have ready := settled.traced tracer
    refine sound.same (Undoable.opened ready).tidy ?_ rfl rfl rfl rfl
    unfold Builder.opened
    split <;> rfl
  refine (Build.rule_ends opened.sound (opened.config ▸ trusted) own rfl).mono
    (fun terminal after ended => ?_) fun failure after ended => ?_
  · obtain ⟨advances, scope, tuple, realizes⟩ := ended
    intro last lines
    refine ⟨fun left => ?_, ⟨rfl, rfl⟩, scope, tuple, realizes.mono ?_⟩
    · exact (opened.trans advances).trans (advances.sound.same left.tidy rfl rfl rfl rfl rfl)
    · exact ⟨fun _ node found => ⟨node.children, found⟩, fun _ _ => rfl⟩
  · intro last lines rollback left
    have off : after.builder.config.rollback = false := by
      rw [(opened.trans ended).config]
      exact rollback
    have kept : after.builder.abandoned = after.builder := by
      simp only [abandoned, off, Bool.false_eq_true, if_false]
    rw [kept] at left ⊢
    exact (opened.trans ended).traced last

end Builder

/-! ### Histories -/

/-- **The callbacks of the rules that were attempted**, whether or not they compiled. -/
def Attempted (attempts : List (Rule × Outcome RuleHandle)) (callback : Callback) : Prop :=
  ∃ attempt ∈ attempts, callback ∈ attempt.1.callbacks

namespace KnowledgeBase

variable {config : BuildConfig} {attempts : List (Rule × Outcome RuleHandle)} {kb : KnowledgeBase}

/-- A new builder is in order. -/
theorem sound_new (callbacks : Callback → Prop) (config : BuildConfig) :
    (Builder.new config .standard).Sound callbacks where
  standard := rfl
  tidy := (Builder.settled_new config .standard).tidy
  layered := trivial
  entryPoints _ member := nomatch member
  streams _ member := nomatch member
  known _ member := nomatch member

/-- **In every history, every rule that was added is realized.** -/
theorem Grown.realizes {callbacks : Callback → Prop} (grown : Grown config .standard attempts kb)
    (own : ∀ callback, Attempted attempts callback → callbacks callback) :
    kb.builder.Sound callbacks ∧ ∀ rule handle, (rule, .ok handle) ∈ attempts →
      (handle.name = rule.name ∧ handle.salience = rule.salience) ∧
        ∃ scope tuple, kb.network.Realizes (Builder.Trusted callbacks config) rule handle.terminal
          scope tuple := by
  induction grown with
  | new => exact ⟨sound_new callbacks config, fun _ _ member => nomatch member⟩
  | @addRule attempts kb grown rule hypothesis =>
    obtain ⟨sound, realized⟩ := hypothesis fun callback attempted => by
      obtain ⟨attempt, member, listed⟩ := attempted
      exact own callback ⟨attempt, List.mem_append_left _ member, listed⟩
    obtain ⟨settled, same, _⟩ := grown.settled NodeFactory.standard_orderly
    have known : ∀ callback ∈ rule.callbacks, callbacks callback := fun callback listed =>
      own callback ⟨_, List.mem_append_right _ (List.mem_singleton.mpr rfl), listed⟩
    have ends := @Builder.addRule_realizes callbacks ⟨kb.builder, .new rule.name, []⟩
      (Builder.Trusted callbacks config) rule settled sound (fun trusted => same ▸ trusted) known
    obtain ⟨outcome, builder⟩ := addRule_result kb rule
    have advances : Builder.Advances callbacks kb.builder (kb.addRule rule).after.builder :=
      builder ▸ (ends.mono (fun _ _ ended => ended.1) fun _ _ ended => ended).either
    refine ⟨advances.sound, fun other handle member => ?_⟩
    rcases List.mem_append.mp member with earlier | last
    · obtain ⟨named, scope, tuple, realizes⟩ := realized other handle earlier
      exact ⟨named, scope, tuple, realizes.mono advances.network⟩
    · obtain ⟨rfl, answer⟩ := Prod.mk.inj (List.mem_singleton.mp last)
      obtain ⟨_, named, scope, tuple, realizes⟩ := ends.of_ok (outcome.symm.trans answer.symm)
      exact ⟨named, scope, tuple, realizes⟩
  | trace _ step hypothesis =>
    obtain ⟨sound, realized⟩ := hypothesis own
    exact ⟨(sound.advances.traced _).sound, realized⟩

/-- **Compilation preserves the meaning of a rule.** In every history of a knowledge base, below the
terminal of a rule that was added, the evaluator returns the matches of the rule's view, in order.
It fails only if a callback of this rule fails. As far as nodes are shared, callbacks with the same
key must behave alike. -/
theorem tokens_eq_matching (grown : Grown config .standard attempts kb)
    (trusted : Builder.Trusted (Attempted attempts) config) {rule : Rule} {handle : RuleHandle}
    (added : (rule, .ok handle) ∈ attempts) :
    ∃ last tuple, kb.network.node? handle.terminal = some last ∧ last.kind.sort = .terminal ∧
      last.tupleParent = some tuple ∧
      ∀ memory state, Evaluation.Reached kb.network memory state →
        (result (kb.network.tokens memory tuple) state).1 =
            (rule.view.evaluate memory).outcome.map (List.map Match.token) ∧
          (∀ tokens, (result (kb.network.tokens memory tuple) state).1 = .ok tokens →
            tokens = (rule.view.matching memory).map Match.token) ∧
          ∀ failure, (result (kb.network.tokens memory tuple) state).1 = .error failure →
            Blame rule.callbacks (rule.view.evaluate memory).calls failure := by
  obtain ⟨sound, realized⟩ := grown.realizes fun _ attempted => attempted
  obtain ⟨_, scope, tuple, realizes⟩ := realized rule handle added
  obtain ⟨children, found⟩ := realizes.node
  refine ⟨_, tuple, found, rfl, rfl, fun memory state reached => ?_⟩
  have feed : (result (kb.network.tokens memory tuple) state).1 =
      (feedAt kb.network.nodes tuple).tokens memory :=
    reached.tokens_eq sound.layered.distinct tuple
  have whole : (feedAt kb.network.nodes tuple).tokens memory =
      (rule.view.evaluate memory).outcome.map (List.map Match.token) := by
    rw [realizes.follows.tokens trusted tuple realizes.cursor memory, Outcome.map_map]
    cases (feedAt kb.network.nodes tuple).tokens memory with
    | error failure => rfl
    | ok tokens =>
      simp only [Except.map, Function.comp_apply, List.map_map]
      exact congrArg Except.ok (List.map_id tokens).symm
  refine ⟨feed.trans whole, fun tokens returned => ?_, fun failure failed => ?_⟩
  · have same := (feed.trans whole).symm.trans returned
    obtain ⟨matching, succeeds, rfl⟩ := Outcome.map_eq_ok.mp same
    rw [Condition.evaluate_of_ok succeeds]
  · have fails := Outcome.map_eq_error.mp ((feed.trans whole).symm.trans failed)
    exact Rule.blames_evaluate rule failure fails

/-- Two persons that differ. -/
def twoPersons : Rule where
  name := "two persons"
  salience := 0
  view := .and [.pattern (.of ⟨0, "p", .fact "Person"⟩ .plain),
    .pattern ((Pattern.of ⟨1, "q", .fact "Person"⟩ .plain).joining "differ" ⟨0, "p", .fact "Person"⟩
      fun args => .ok (args[0]? != args[1]?))]
  consequence := ⟨[⟨1, "q", .fact "Person"⟩], fun _ => .ok ()⟩

/-- There is only one callback. -/
theorem trusted_twoPersons (first second : Outcome RuleHandle) : Builder.Trusted
    (Attempted ([] ++ [(everyPerson, first)] ++ [(twoPersons, second)])) default := by
  have only : ∀ callback,
      Attempted ([] ++ [(everyPerson, first)] ++ [(twoPersons, second)]) callback →
        callback = .predicate (.fixed "differ" 2 fun args => .ok (args[0]? != args[1]?)) := by
    rintro callback ⟨attempt, member, listed⟩
    rcases List.mem_append.mp member with earlier | last
    · rw [List.mem_singleton.mp earlier] at listed
      cases listed
    · rw [List.mem_singleton.mp last] at listed
      exact List.mem_singleton.mp listed
  intro _ a b known other _
  rw [only a known, only b other]
  exact fun _ => rfl

/-- The second rule shares the nodes of the first one, and has its own matches. -/
theorem twoPersons_tokens :
    let kb := ((KnowledgeBase.new default .standard).addRule everyPerson).after
    ∃ handle tuple, (kb.addRule twoPersons).outcome = .ok handle ∧
      ∀ memory tokens,
        (result ((kb.addRule twoPersons).after.network.tokens memory tuple) .fresh).1 =
            .ok tokens →
          tokens = (twoPersons.view.matching memory).map Match.token := by
  intro kb
  have grown : Grown default .standard _ (kb.addRule twoPersons).after :=
    (Grown.new.addRule everyPerson).addRule twoPersons
  have succeeds : (kb.addRule twoPersons).outcome.isOk = true := by decide +kernel
  cases ended : (kb.addRule twoPersons).outcome with
  | error failure =>
    rw [ended] at succeeds
    cases succeeds
  | ok handle =>
    rw [ended] at grown
    obtain ⟨last, tuple, _, _, _, means⟩ := tokens_eq_matching grown (trusted_twoPersons _ _)
      (List.mem_append_right _ (List.mem_singleton.mpr rfl))
    exact ⟨handle, tuple, rfl, fun memory tokens returned =>
      (means memory .fresh .fresh).2.1 tokens returned⟩

end KnowledgeBase

end RuleNet
