/-
**One call of `fireAll` does exactly its first agenda.**

The agenda of a call is run from its start. It ends at the first match that the bound leaves no room
for or whose consequence fails, or it is run whole, and then the second round finds nothing.

* `fireEach_stops`: firing a list, up to where it stops;
* `fireAll_succeeds`: a call that succeeds ran its agenda whole;
* `fireAll_round`: all that a call leaves, and that the history never exceeds the bound.
-/

import RuleNet.Proofs.Session.Refraction

namespace RuleNet

namespace Session

variable {session after : Session} {activation : Activation} {agenda batch : List Activation}

/-! ### Firing a list -/

/-- What the action of a match answers. Its failure is placed in the rule. -/
def executes (session : Session) (activation : Activation) : Outcome Unit :=
  match session.consequence? activation with
  | none => .ok ()
  | some consequence => placedIn activation.rule (consequence.action activation.bindings)

/-- The bound leaves no room for a match after so many others of the call. -/
def Full (session : Session) (fired : Nat) : Prop :=
  session.bound ≤ session.history.size + fired

instance (session : Session) (fired : Nat) : Decidable (session.Full fired) :=
  inferInstanceAs (Decidable (_ ≤ _))

/-- The failure of a match that there is no room for. -/
def refusal (session : Session) (activation : Activation) : Failure :=
  ⟨.limit (.activations (session.bound % UInt32.size) (some activation.rule)), none⟩

/-- **The first matches of a list have room, and their consequences succeed.** -/
def Passes (session : Session) (agenda : List Activation) (fired : Nat) : Prop :=
  ∀ earlier < fired, ∀ activation, agenda[earlier]? = some activation →
    ¬ session.Full earlier ∧ session.executes activation = .ok ()

/-- The session after matches were run with success. -/
def passed (session : Session) (batch : List Activation) : Session :=
  { session with
    started := session.started ++ batch.toArray
    history := session.history ++ batch.toArray }

theorem passed_nil (session : Session) : session.passed [] = session := by
  simp [passed]

theorem passed_passed (session : Session) (first second : List Activation) :
    (session.passed first).passed second = session.passed (first ++ second) := by
  simp [passed, Array.append_assoc]

theorem full_passed (session : Session) (batch : List Activation) (fired : Nat) :
    (session.passed batch).Full fired ↔ session.Full (batch.length + fired) := by
  simp only [Full, passed, Array.size_append, List.size_toArray]
  omega

theorem passed_runs (session : Session) (batch : List Activation) :
    Runs session (session.passed batch) batch :=
  ⟨rfl, rfl, by simp [passed], batch, by simp [passed], List.Sublist.refl _⟩

/-- A match whose consequence fails is noted as started, and not in the history. -/
theorem start_runs (session : Session) (batch : List Activation) (activation : Activation) :
    Runs session ((session.passed batch).start activation) (batch ++ [activation]) :=
  ⟨rfl, rfl, by simp [passed, start], batch, by simp [passed, start],
    List.sublist_append_left _ _⟩

/-- **Firing one match.** The bound is looked at first. -/
theorem fire_cases (session : Session) (activation : Activation) :
    (session.Full 0 → (session.fire activation).outcome = .error (session.refusal activation) ∧
      (session.fire activation).session = session) ∧
    (¬ session.Full 0 → (session.fire activation).outcome = session.executes activation ∧
      (session.fire activation).session = match session.executes activation with
        | .ok () => session.passed [activation]
        | .error _ => session.start activation) := by
  have succeeds : (session.start activation).succeed activation = session.passed [activation] := by
    simp [start, succeed, passed]
  unfold fire executes Full Consequence.run
  refine ⟨fun full => ?_, fun room => ?_⟩
  · rw [if_pos (by simpa using full)]
    exact ⟨rfl, rfl⟩
  · rw [if_neg (by simpa using room)]
    cases session.consequence? activation with
    | none => exact ⟨rfl, succeeds⟩
    | some consequence =>
      cases ran : consequence.action activation.bindings with
      | ok done => exact ⟨by simp [ran, reply, placedIn], by simp [ran, reply, placedIn, succeeds]⟩
      | error failure => exact ⟨by simp [ran, reply, placedIn], by simp [ran, reply, placedIn]⟩

/-- **Matches that pass are fired, and then the rest.** -/
theorem fireEach_append (passes : session.Passes batch batch.length) (rest : List Activation) :
    (session.fireEach (batch ++ rest)).outcome = ((session.passed batch).fireEach rest).outcome ∧
      (session.fireEach (batch ++ rest)).session =
        ((session.passed batch).fireEach rest).session := by
  induction batch generalizing session with
  | nil => rw [passed_nil]; exact ⟨rfl, rfl⟩
  | cons activation others hypothesis =>
    obtain ⟨room, succeeds⟩ := passes 0 (Nat.succ_pos _) activation rfl
    have fired := (session.fire_cases activation).2 room
    rw [succeeds] at fired
    have onward : (session.passed [activation]).Passes others others.length := by
      intro earlier inside other listed
      have later := passes (earlier + 1) (Nat.succ_lt_succ inside) other listed
      rw [full_passed, List.length_singleton, Nat.add_comm]
      exact later
    have step := hypothesis onward
    rw [passed_passed] at step
    rw [List.cons_append, fireEach]
    simp only [fired.1, fired.2]
    exact step

/-- **A list that is fired with success** was run whole. -/
theorem fireEach_succeeds (fired : (session.fireEach agenda).outcome = .ok ()) :
    (session.fireEach agenda).session = session.passed agenda := by
  induction agenda generalizing session with
  | nil => exact (passed_nil session).symm
  | cons activation rest hypothesis =>
    have one := session.fire_cases activation
    rw [fireEach] at fired ⊢
    by_cases full : session.Full 0
    · rw [(one.1 full).1] at fired
      cases fired
    · obtain ⟨outcome, same⟩ := one.2 full
      cases answer : session.executes activation with
      | error failure =>
        rw [outcome, answer] at fired
        cases fired
      | ok done =>
        rw [answer] at outcome same
        simp only [outcome, same] at fired ⊢
        rw [hypothesis fired, passed_passed]
        rfl

/-- **Firing a list, up to where it stops.** -/
theorem fireEach_stops {fired : Nat} (passes : session.Passes agenda fired)
    (listed : agenda[fired]? = some activation) :
    (session.Full fired →
      (session.fireEach agenda).outcome = .error (session.refusal activation) ∧
        (session.fireEach agenda).session = session.passed (agenda.take fired)) ∧
    (¬ session.Full fired → ∀ failure, session.executes activation = .error failure →
      (session.fireEach agenda).outcome = .error failure ∧
        (session.fireEach agenda).session =
          (session.passed (agenda.take fired)).start activation) := by
  obtain ⟨inside, rfl⟩ := List.getElem?_eq_some_iff.mp listed
  have length : (agenda.take fired).length = fired := List.length_take_of_le (Nat.le_of_lt inside)
  have split : agenda = agenda.take fired ++ agenda[fired] :: agenda.drop (fired + 1) := by
    rw [List.getElem_cons_drop, List.take_append_drop]
  have front : session.Passes (agenda.take fired) (agenda.take fired).length := by
    intro earlier less other found
    rw [length] at less
    rw [List.getElem?_take_of_lt less] at found
    exact passes earlier less other found
  have rest := fireEach_append front (agenda[fired] :: agenda.drop (fired + 1))
  rw [← split] at rest
  have one := (session.passed (agenda.take fired)).fire_cases agenda[fired]
  rw [full_passed, length, Nat.add_zero] at one
  rw [rest.1, rest.2, fireEach]
  refine ⟨fun full => ?_, fun room failure fails => ?_⟩
  · obtain ⟨outcome, same⟩ := one.1 full
    simp only [outcome, same]
    exact ⟨rfl, trivial⟩
  · have fails : (session.passed (agenda.take fired)).executes agenda[fired] = .error failure :=
      fails
    obtain ⟨outcome, same⟩ := one.2 room
    rw [fails] at outcome same
    simp only [outcome, same]
    exact ⟨trivial, trivial⟩

/-- Firing a list keeps the bound, and never fills the history beyond it. -/
theorem fireEach_within (within : session.history.size ≤ session.bound) (agenda : List Activation) :
    (session.fireEach agenda).session.bound = session.bound ∧
      (session.fireEach agenda).session.history.size ≤ session.bound := by
  induction agenda generalizing session with
  | nil => exact ⟨rfl, within⟩
  | cons activation rest hypothesis =>
    have one := session.fire_cases activation
    rw [fireEach]
    by_cases full : session.Full 0
    · obtain ⟨outcome, same⟩ := one.1 full
      simp only [outcome, same]
      exact ⟨trivial, within⟩
    · obtain ⟨outcome, same⟩ := one.2 full
      cases answer : session.executes activation with
      | error failure =>
        rw [answer] at outcome same
        simp only [outcome, same]
        exact ⟨rfl, within⟩
      | ok done =>
        rw [answer] at outcome same
        simp only [outcome, same]
        refine @hypothesis (session.passed [activation]) ?_
        have room : ¬ session.bound ≤ session.history.size + 0 := full
        simp only [passed, Array.size_append, List.size_toArray, List.length_singleton]
        omega

/-! ### Calls -/

/-- **A call that succeeds ran its agenda whole.** -/
theorem fireAll_succeeds {count : Nat} (fired : session.fireAll.outcome = .ok count) :
    ∃ agenda, session.agenda.outcome = .ok agenda ∧
      session.fireAll.session = session.passed agenda := by
  obtain ⟨onError, onOk⟩ := session.fireAll_agenda
  cases listed : session.agenda.outcome with
  | error failure =>
    rw [(onError failure listed).1] at fired
    cases fired
  | ok agenda =>
    obtain ⟨outcome, same⟩ := onOk agenda listed
    rw [fired] at outcome
    obtain ⟨_, succeeds, _⟩ := Outcome.map_eq_ok.mp outcome.symm
    exact ⟨agenda, rfl, same.trans (fireEach_succeeds succeeds)⟩

/-- **The history of a session never exceeds the bound.** -/
theorem Ran.within {kb : KnowledgeBase} {bound : Nat} {firings : List Session}
    (ran : Ran kb bound firings session) :
    session.bound = bound ∧ session.history.size ≤ bound := by
  induction ran with
  | opened => exact ⟨rfl, Nat.zero_le _⟩
  | put ran source value hypothesis =>
    obtain ⟨memory, same, _⟩ := put_ends _ source value
    rw [same]
    exact hypothesis
  | retract ran handle hypothesis =>
    rw [retract_ends]
    exact hypothesis
  | @fireAll _ session ran hypothesis =>
    obtain ⟨rfl, within⟩ := hypothesis
    have calls := session.fireAll_agenda
    cases listed : session.agenda.outcome with
    | error failure =>
      rw [(calls.1 failure listed).2]
      exact ⟨rfl, within⟩
    | ok agenda =>
      rw [(calls.2 agenda listed).2]
      exact fireEach_within within agenda

/-- **A call of `fireAll` does exactly its first agenda.** In every reachable session, an agenda
that fails is the answer, and nothing changes. Otherwise the agenda is run from its start.

* If all of it has room and succeeds, the answer is its length, the history grows by it, and the
  next agenda is empty, so that a second call does nothing.
* If it stops at a match, because the bound leaves no room for it or else because its consequence
  fails, the answer is that failure and the history grows by the matches before it. The next agenda
  is what is left without the matches that were run, the one that failed among them.

Working memory stays as it is, and the history never exceeds the bound. -/
theorem fireAll_round {kb : KnowledgeBase} {bound : Nat} {firings : List Session}
    (ran : Ran kb bound firings session) :
    (∀ failure, session.agenda.outcome = .error failure →
      session.fireAll.outcome = .error failure ∧ session.fireAll.session = session) ∧
    (∀ agenda, session.agenda.outcome = .ok agenda →
      (session.Passes agenda agenda.length →
        session.fireAll.outcome = .ok agenda.length ∧
        session.fireAll.session.history = session.history ++ agenda.toArray ∧
        session.fireAll.session.agenda.outcome = .ok [] ∧
        session.fireAll.session.fireAll.outcome = .ok 0 ∧
        session.fireAll.session.fireAll.session = session.fireAll.session) ∧
      ∀ fired activation, agenda[fired]? = some activation → session.Passes agenda fired →
        (session.Full fired →
          session.fireAll.outcome = .error (session.refusal activation) ∧
          session.fireAll.session.history = session.history ++ (agenda.take fired).toArray ∧
          session.fireAll.session.agenda.outcome = .ok (without agenda (agenda.take fired))) ∧
        (¬ session.Full fired → ∀ failure, session.executes activation = .error failure →
          session.fireAll.outcome = .error failure ∧
          session.fireAll.session.history = session.history ++ (agenda.take fired).toArray ∧
          session.fireAll.session.agenda.outcome =
            .ok (without agenda (agenda.take (fired + 1))))) ∧
    session.fireAll.session.memory = session.memory ∧
    session.history.size ≤ bound ∧ session.fireAll.session.history.size ≤ bound := by
  obtain ⟨onError, onOk⟩ := session.fireAll_agenda
  refine ⟨onError, fun agenda listed => ⟨fun passes => ?_, fun fired activation found passes => ?_⟩,
    session.executed_runs.1.memory, ran.within.2, ran.fireAll.within.2⟩
  · obtain ⟨outcome, same⟩ := onOk agenda listed
    have whole := fireEach_append passes []
    rw [List.append_nil] at whole
    rw [whole.1] at outcome
    rw [whole.2] at same
    have runs : Runs session session.fireAll.session agenda := same ▸ passed_runs session agenda
    have none := agenda_after listed runs
    have again := session.fireAll.session.fireAll_agenda.2 [] none
    exact ⟨outcome, congrArg history same, none, again⟩
  · obtain ⟨outcome, same⟩ := onOk agenda listed
    have stops := fireEach_stops passes found
    refine ⟨fun full => ?_, fun room failure fails => ?_⟩
    · obtain ⟨refused, left⟩ := stops.1 full
      rw [refused] at outcome
      rw [left] at same
      have next := agenda_without (passed_runs session (agenda.take fired))
      rw [listed, ← same] at next
      exact ⟨outcome, congrArg history same, next⟩
    · obtain ⟨failed, left⟩ := stops.2 room failure fails
      rw [failed] at outcome
      rw [left] at same
      have taken : agenda.take fired ++ [activation] = agenda.take (fired + 1) := by
        rw [List.take_add_one, found]
        rfl
      have next := agenda_without (start_runs session (agenda.take fired) activation)
      rw [listed, ← same, taken] at next
      exact ⟨outcome, congrArg history same, next⟩

/-! ### A bound that leaves room for one match -/

/-- A session over two persons in which one match may fire. -/
def amongTwo : Session :=
  (((openOver (overSingle KnowledgeBase.everyPerson) 1).put (.entryPoint defaultEntryPoint)
    (Fact.named "Person").toValue).session.put (.entryPoint defaultEntryPoint)
    (Fact.named "Person").toValue).session

/-- The second person is refused, and is all that is left. -/
theorem amongTwo_round :
    ∃ first second, amongTwo.agenda.outcome = .ok [first, second] ∧
      amongTwo.fireAll.outcome = .error (amongTwo.refusal second) ∧
      amongTwo.fireAll.session.history = #[first] ∧
      amongTwo.fireAll.session.agenda.outcome = .ok [second] := by
  have ran : Ran (overSingle KnowledgeBase.everyPerson) 1 [] amongTwo :=
    (Ran.opened.put _ _).put _ _
  have listed : ∃ first second, amongTwo.agenda.outcome = .ok [first, second] ∧
      amongTwo.executes first = .ok () ∧ first.key ≠ second.key := by
    rw [agenda_sorted]
    exact ⟨_, _, rfl, rfl, by decide⟩
  obtain ⟨first, second, agenda, succeeds, different⟩ := listed
  have passes : amongTwo.Passes [first, second] 1 := by
    intro earlier less activation found
    obtain rfl : earlier = 0 := by omega
    cases found
    exact ⟨by decide +kernel, succeeds⟩
  obtain ⟨outcome, history, next⟩ :=
    ((fireAll_round ran).2.1 _ agenda).2 1 second rfl passes |>.1 (by decide +kernel)
  exact ⟨first, second, agenda, outcome, history, by simpa [without, different.symm] using next⟩

end Session

end RuleNet
