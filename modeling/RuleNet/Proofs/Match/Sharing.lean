/-
**A node that stands in for another gives what the other would give.**

A node may be used in place of a new one when the two agree in their parents and in the keys of
their callbacks. It gives the same stream in any case, and the same objects or tokens as long as
callbacks with the same key behave alike.

* `Callback.Alike`: two callbacks cannot be told apart by their outcomes;
* `Faithful`: of some callbacks, those with the same key are alike;
* `operate_same`: kinds that agree in every sharing key do the same to tokens and objects;
* `feed_shares`: **a node gives what an equivalent node gives.**
-/

import RuleNet.Proofs.Match.Operators

namespace RuleNet

/-! ### Callbacks with one key -/

namespace Callback

/-- The two are one callback for sharing. -/
def same : Callback → Callback → Bool
  | .predicate a, .predicate b => a.same b
  | .invocation a, .invocation b => a.same b
  | .aggregate a, .aggregate b => a.same b
  | _, _ => false

/-- **The two behave alike.** -/
def Alike : Callback → Callback → Prop
  | .predicate a, .predicate b => ∀ args, (a.test args).outcome = (b.test args).outcome
  | .invocation a, .invocation b => ∀ args, a.body args = b.body args
  | .aggregate a, .aggregate b => ∀ inputs, (a.run inputs).outcome = (b.run inputs).outcome
  | _, _ => False

end Callback

/-- **Callbacks with the same key behave alike.** -/
def Faithful (callbacks : Callback → Prop) : Prop :=
  ∀ a b, callbacks a → callbacks b → a.same b = true → a.Alike b

/-- Every callback of the first list behaves like those of the second with the same key. -/
def AlikeAll (callbacks others : List Callback) : Prop :=
  ∀ a ∈ callbacks, ∀ b ∈ others, a.same b = true → a.Alike b

theorem AlikeAll.mono {callbacks others fewer less : List Callback}
    (alike : AlikeAll callbacks others) (first : ∀ callback ∈ fewer, callback ∈ callbacks)
    (second : ∀ callback ∈ less, callback ∈ others) : AlikeAll fewer less :=
  fun a inside b there same => alike a (first a inside) b (second b there) same

/-! ### Kinds with the same keys -/

namespace BoundConstraint

theorem arguments_same {a b : BoundConstraint} (same : a.same b = true) (tuple : List Value)
    (object : Option Value) : a.arguments tuple object = b.arguments tuple object := by
  simp only [BoundConstraint.same, Predicate.same, Bool.and_eq_true, decide_eq_true_eq] at same
  unfold arguments
  rw [same.1, same.2]

theorem allHold_same {first second : List BoundConstraint} (same : sameAll first second = true)
    (alike : AlikeAll (callbacks first) (callbacks second)) (tuple : List Value)
    (object : Option Value) :
    (allHold first tuple object).outcome = (allHold second tuple object).outcome := by
  induction first generalizing second with
  | nil =>
    cases second with
    | nil => rfl
    | cons b others => cases same
  | cons a rest hypothesis =>
    cases second with
    | nil => cases same
    | cons b others =>
      rw [sameAll, Bool.and_eq_true] at same
      have keys : (Callback.predicate a.predicate).same (.predicate b.predicate) = true := by
        have both := same.1
        rw [BoundConstraint.same, Bool.and_eq_true] at both
        exact both.1
      have tests := alike _ List.mem_cons_self _ List.mem_cons_self keys
      have later := hypothesis same.2 (alike.mono (fun _ known => List.mem_cons_of_mem _ known)
        fun _ known => List.mem_cons_of_mem _ known)
      unfold allHold at later ⊢
      rw [Traced.all_cons, Traced.all_cons, Traced.outcome_bind, Traced.outcome_bind]
      simp only [evaluate, Traced.outcome_bind, Traced.outcome_ofOutcome, arguments_same same.1,
        bind_assoc]
      congr 1
      funext args
      rw [tests args]
      congr 1
      funext passed
      cases passed
      · rfl
      · exact later

end BoundConstraint

namespace PlacedAggregate

theorem each_same {first second : List PlacedAggregate} (same : sameAll first second = true)
    (alike : AlikeAll (first.map fun placed => .aggregate placed.function)
      (second.map fun placed => .aggregate placed.function)) (inputs : List Value) :
    (Traced.each (fun placed => placed.function.run inputs) first).outcome =
      (Traced.each (fun placed => placed.function.run inputs) second).outcome := by
  induction first generalizing second with
  | nil =>
    cases second with
    | nil => rfl
    | cons b others => cases same
  | cons a rest hypothesis =>
    cases second with
    | nil => cases same
    | cons b others =>
      rw [sameAll, Bool.and_eq_true] at same
      have keys : (Callback.aggregate a.function).same (.aggregate b.function) = true := by
        have both := same.1
        rw [PlacedAggregate.same, Bool.and_eq_true] at both
        exact both.1
      have runs := alike _ List.mem_cons_self _ List.mem_cons_self keys
      have later := hypothesis same.2 (alike.mono (fun _ known => List.mem_cons_of_mem _ known)
        fun _ known => List.mem_cons_of_mem _ known)
      simp only [Traced.each_cons, Traced.outcome_bind, Traced.outcome_map, later, runs inputs]

theorem length_same {first second : List PlacedAggregate} (same : sameAll first second = true) :
    first.length = second.length := by
  induction first generalizing second with
  | nil =>
    cases second with
    | nil => rfl
    | cons b others => cases same
  | cons a rest hypothesis =>
    cases second with
    | nil => cases same
    | cons b others =>
      rw [sameAll, Bool.and_eq_true] at same
      rw [List.length_cons, List.length_cons, hypothesis same.2]

end PlacedAggregate

section

variable {first second : Invocation}

/-- Invocations with the same key take the same arguments. -/
theorem Invocation.arguments_same (same : first.same second = true) (args : List Nat)
    (token : Token) :
    Operator.invocationArguments first args token =
      Operator.invocationArguments second args token := by
  simp only [Invocation.same, Bool.and_eq_true, decide_eq_true_eq] at same
  unfold Operator.invocationArguments
  rw [same.1]

/-- They take results apart in the same way. -/
theorem Invocation.candidates_same (same : first.same second = true) (result : Value) :
    Operator.candidates first result = Operator.candidates second result := by
  simp only [Invocation.same, Bool.and_eq_true, decide_eq_true_eq] at same
  unfold Operator.candidates
  rw [same.2]

end

namespace NodeKind

variable {a b : NodeKind}

/-- Kinds with the same keys give the same stream. -/
theorem gives_same (same : a.sharesWith b = true) (width : Nat) :
    a.gives width = b.gives width := by
  cases a <;> cases b <;> simp_all [sharesWith, gives]
  exact PlacedAggregate.length_same same.2

theorem reads_same (same : a.sharesWith b = true) :
    a.readsObjects = b.readsObjects ∧ a.readsTuples = b.readsTuples ∧ a.isBeta = b.isBeta := by
  cases a <;> cases b <;> simp_all [sharesWith, readsObjects, readsTuples, isBeta]

/-- Filters with the same key pass the same objects. -/
theorem alpha_same {first second : Predicate} {m n : Nat}
    (same : (alpha first m).sharesWith (alpha second n) = true)
    (alike : AlikeAll (alpha first m).callbacks (alpha second n).callbacks)
    (objects : List Held) :
    (Operator.alphaObjects first m objects).outcome =
      (Operator.alphaObjects second n objects).outcome := by
  simp only [sharesWith, Bool.and_eq_true, decide_eq_true_eq] at same
  obtain ⟨keys, rfl⟩ := same
  have tests := alike _ List.mem_cons_self _ List.mem_cons_self keys
  exact Traced.select_congr fun held _ => tests _

/-- **Kinds with the same keys do the same to tokens and objects.** -/
theorem operate_same (same : a.sharesWith b = true) (alike : AlikeAll a.callbacks b.callbacks)
    (tokens : List Token) (objects : List Held) :
    (a.operate tokens objects).outcome = (b.operate tokens objects).outcome := by
  cases a with
  | join first =>
    cases b with
    | join second =>
      refine Traced.expand_congr fun token _ => ?_
      have selects := Traced.select_congr fun held (_ : held ∈ objects) =>
        BoundConstraint.allHold_same same alike token.values (some held.value)
      simp only [Traced.outcome_bind]
      exact congrArg (· >>= _) selects
    | _ => cases same
  | existential quantifier first =>
    cases b with
    | existential other second =>
      simp only [sharesWith, Bool.and_eq_true, decide_eq_true_eq] at same
      obtain ⟨rfl, same⟩ := same
      refine Traced.expand_congr fun token _ => ?_
      have searches := Traced.any_congr fun held (_ : held ∈ objects) =>
        BoundConstraint.allHold_same same alike token.values (some held.value)
      simp only [Traced.outcome_bind]
      exact congrArg (· >>= _) searches
    | _ => cases same
  | accumulate source results functions =>
    cases b with
    | accumulate otherSource otherResults otherFunctions =>
      simp only [sharesWith, Bool.and_eq_true] at same
      obtain ⟨⟨sameSource, sameResults⟩, sameFunctions⟩ := same
      simp only [callbacks] at alike
      refine Traced.expand_congr fun token _ => ?_
      have selects := Traced.select_congr fun held (_ : held ∈ objects) =>
        BoundConstraint.allHold_same sameSource (alike.mono
          (fun _ known => List.mem_append_left _ (List.mem_append_left _ known))
          fun _ known => List.mem_append_left _ (List.mem_append_left _ known))
          token.values (some held.value)
      simp only [Traced.outcome_bind]
      refine (congrArg (· >>= _) selects).trans ?_
      congr 1
      funext matching
      rw [PlacedAggregate.each_same sameFunctions (alike.mono
        (fun _ known => List.mem_append_right _ known)
        fun _ known => List.mem_append_right _ known)]
      congr 1
      funext folded
      rw [BoundConstraint.allHold_same sameResults (alike.mono
        (fun _ known => List.mem_append_left _ (List.mem_append_right _ known))
        fun _ known => List.mem_append_left _ (List.mem_append_right _ known))]
    | _ => cases same
  | invoker invocation args first =>
    cases b with
    | invoker other otherArgs second =>
      simp only [sharesWith, Bool.and_eq_true, decide_eq_true_eq] at same
      obtain ⟨⟨keys, rfl⟩, same⟩ := same
      have bodies := alike _ List.mem_cons_self _ List.mem_cons_self keys
      have tests := fun token value => BoundConstraint.allHold_same same (alike.mono
        (fun _ known => List.mem_cons_of_mem _ known) fun _ known => List.mem_cons_of_mem _ known)
        (Token.values token) (some value)
      refine Traced.expand_congr fun token _ => ?_
      simp only [Traced.outcome_bind, Traced.outcome_ofOutcome]
      rw [Invocation.arguments_same keys]
      congr 1
      funext given
      have called : (invocation.call given).outcome = (other.call given).outcome := bodies given
      rw [called]
      congr 1
      funext result
      rw [Invocation.candidates_same keys]
      congr 1
      funext items
      exact congrArg (· >>= _) (Traced.select_congr fun value _ => tests token value)
    | _ => cases same
  | _ => cases b <;> first | rfl | cases same

end NodeKind

/-! ### Equivalent nodes -/

/-- **The first feed gives what the second gives**, as far as the second gives anything. -/
structure Feed.Like (first second : Feed) : Prop where
  objects : second.stream = some .objects → first.objects = second.objects
  tokens : ∀ width, second.stream = some (.tuples width) → first.tokens = second.tokens

theorem Feed.like_refl (feed : Feed) : feed.Like feed :=
  ⟨fun _ => rfl, fun _ _ => rfl⟩

namespace Node

variable {a b : Node} {input : NodeId → Feed}

/-- Equivalent nodes give the same stream. -/
theorem stream_shares (shares : a.equivalent b = true) :
    (a.feed input).stream = (b.feed input).stream := by
  simp only [equivalent, Bool.and_eq_true, decide_eq_true_eq] at shares
  obtain ⟨⟨_, tuple⟩, kinds⟩ := shares
  simp only [feed, widthRead, tuple]
  exact NodeKind.gives_same kinds _

/-- Equivalent nodes read the same, where they read anything. -/
theorem objectsRead_shares (shares : a.equivalent b = true)
    (fits : b.Fits fun id => (input id).stream) (reading : b.kind.readsObjects = true)
    (memory : WorkingMemory) : a.objectsRead input memory = b.objectsRead input memory := by
  simp only [equivalent, Bool.and_eq_true, decide_eq_true_eq] at shares
  obtain ⟨parent, named, _⟩ := fits.objectParent reading
  simp only [objectsRead, needObject, shares.1.1, named]

theorem tokensRead_shares (shares : a.equivalent b = true)
    (fits : b.Fits fun id => (input id).stream) (reading : b.kind.readsTuples = true)
    (memory : WorkingMemory) : a.tokensRead input memory = b.tokensRead input memory := by
  simp only [equivalent, Bool.and_eq_true, decide_eq_true_eq] at shares
  obtain ⟨parent, width, named, _⟩ := fits.tupleParent reading
  simp only [tokensRead, needTuple, shares.1.2, named]

/-- Equivalent nodes give the same objects. -/
theorem objectsGiven_shares (shares : a.equivalent b = true)
    (fits : b.Fits fun id => (input id).stream)
    (alike : AlikeAll a.kind.callbacks b.kind.callbacks) {width : Nat}
    (given : b.kind.gives width = some .objects) (memory : WorkingMemory) :
    a.objectsGiven input memory = b.objectsGiven input memory := by
  have objects := objectsRead_shares shares fits
  simp only [equivalent, Bool.and_eq_true] at shares
  have kinds := shares.2
  unfold objectsGiven
  cases second : b.kind with
  | entryPoint name =>
    cases first : a.kind with
    | entryPoint other =>
      simp only [first, second, NodeKind.sharesWith, decide_eq_true_eq] at kinds
      rw [kinds]
    | _ =>
      rw [first, second] at kinds
      cases kinds
  | stream name type =>
    cases first : a.kind with
    | stream other narrower =>
      simp only [first, second, NodeKind.sharesWith, Bool.and_eq_true, decide_eq_true_eq] at kinds
      rw [kinds.1, kinds.2]
    | _ =>
      rw [first, second] at kinds
      cases kinds
  | objectType type =>
    cases first : a.kind with
    | objectType other =>
      simp only [first, second, NodeKind.sharesWith, decide_eq_true_eq] at kinds
      rw [objects (by rw [second]; rfl), kinds]
    | _ =>
      rw [first, second] at kinds
      cases kinds
  | alpha predicate arity =>
    cases first : a.kind with
    | alpha other count =>
      rw [first, second] at kinds alike
      simp only [objects (by rw [second]; rfl), NodeKind.alpha_same kinds alike]
    | _ =>
      rw [first, second] at kinds
      cases kinds
  | _ => simp [second, NodeKind.gives] at given

/-- Equivalent nodes give the same tokens. -/
theorem tokensGiven_shares (shares : a.equivalent b = true)
    (fits : b.Fits fun id => (input id).stream)
    (alike : AlikeAll a.kind.callbacks b.kind.callbacks) {width inner : Nat}
    (given : b.kind.gives inner = some (.tuples width)) (memory : WorkingMemory) :
    a.tokensGiven input memory = b.tokensGiven input memory := by
  have objects := objectsRead_shares shares fits
  have tokens := tokensRead_shares shares fits
  simp only [equivalent, Bool.and_eq_true] at shares
  have kinds := shares.2
  have reads := NodeKind.reads_same kinds
  cases beta : b.kind.isBeta with
  | true =>
    have both := reads.2.2.trans beta
    have reading : b.kind.readsTuples = true := by
      cases kind : b.kind <;> rw [kind] at beta <;> first | rfl | cases beta
    rw [tokensGiven_eq both, tokensGiven_eq beta, tokens reading, reads.1]
    congr 1
    funext found
    by_cases object : b.kind.readsObjects = true
    · rw [if_pos object, if_pos object, objects object]
      congr 1
      funext held
      exact NodeKind.operate_same kinds alike found held
    · rw [if_neg object, if_neg object]
      exact NodeKind.operate_same kinds alike found []
  | false =>
    unfold tokensGiven
    cases second : b.kind with
    | adapter =>
      cases first : a.kind with
      | adapter => simp only [objects (by rw [second]; rfl)]
      | _ =>
        rw [first, second] at kinds
        cases kinds
    | _ => simp_all [NodeKind.gives, NodeKind.isBeta]

/-- **A node gives what an equivalent node gives**, if their callbacks behave alike. -/
theorem feed_shares (shares : a.equivalent b = true)
    (fits : b.Fits fun id => (input id).stream)
    (alike : AlikeAll a.kind.callbacks b.kind.callbacks) :
    (a.feed input).Like (b.feed input) where
  objects given := by
    funext memory
    exact objectsGiven_shares shares fits alike given memory
  tokens width given := by
    funext memory
    exact tokensGiven_shares shares fits alike given memory

end Node

end RuleNet
