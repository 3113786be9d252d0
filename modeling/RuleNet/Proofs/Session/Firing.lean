/-
**What a call of `fireAll` runs.**

Consequences do not touch working memory. So the first round runs the agenda from its start, up to
the first failure or the bound, and if it runs all of it the second round finds nothing left.

* `Activation.key`: what makes two matches the same;
* `Session.Runs`: the matches that a step ran, and what they leave;
* `fireEach_runs`: firing a list runs a prefix of it;
* `filter_mergeSort`, `mergeSort_eq_insertionSort`: a stable sort commutes with a filter, and is the
  insertion sort;
* `agenda_without`: **the next agenda is this one without the matches that were run**, so one that
  was run is not found again;
* `fireAll_agenda`, `fireAll_runs`: a call fires its agenda once, and **runs a prefix of it**;
* `fireAll_sorted`: a call can be computed.
-/

import Mathlib.Data.List.Sort
import RuleNet.Proofs.Session.Agenda

namespace RuleNet

/-! ### Stable sorting -/

section

variable {α : Type} {before : α → α → Bool}

/-- An item goes in front of those that it may go before, and behind the others. -/
theorem orderedInsert_append {item : α} {front back : List α}
    (left : ∀ other ∈ front, before item other = false)
    (right : ∀ other ∈ back, before item other = true) :
    (front ++ back).orderedInsert (fun a b => before a b = true) item = front ++ item :: back := by
  induction front with
  | nil =>
    cases back with
    | nil => rfl
    | cons first rest => exact List.orderedInsert_cons_of_le _ _ (right first List.mem_cons_self)
  | cons first rest hypothesis =>
    rw [List.cons_append, List.orderedInsert_of_not_le _ _
      (Bool.not_eq_true _ ▸ left first List.mem_cons_self),
      hypothesis fun other member => left other (List.mem_cons_of_mem _ member)]
    rfl

section

variable (transitive : ∀ a b c, before a b = true → before b c = true → before a c = true)
  (total : ∀ a b, (before a b || before b a) = true)

include transitive total

/-- A first item goes in front of exactly those that it may go before. -/
theorem mergeSort_cons_split (item : α) (rest : List α) : ∃ front back,
    (item :: rest).mergeSort before = front ++ item :: back ∧
      rest.mergeSort before = front ++ back ∧
      (∀ other ∈ front, before item other = false) ∧
      ∀ other ∈ back, before item other = true := by
  obtain ⟨front, back, whole, others, smaller⟩ := List.mergeSort_cons transitive total item rest
  have ordered := List.pairwise_mergeSort transitive total (item :: rest)
  rw [whole, List.pairwise_append] at ordered
  exact ⟨front, back, whole, others, fun other member => by simpa using smaller other member,
    (List.pairwise_cons.mp ordered.2.1).1⟩

/-- **A merge sort is the insertion sort**, which evaluation can follow. -/
theorem mergeSort_eq_insertionSort (items : List α) :
    items.mergeSort before = items.insertionSort fun a b => before a b = true := by
  induction items with
  | nil => simp
  | cons item rest hypothesis =>
    obtain ⟨front, back, whole, others, left, right⟩ :=
      mergeSort_cons_split transitive total item rest
    rw [List.insertionSort_cons, ← hypothesis, others, whole, orderedInsert_append left right]

/-- **A stable sort and a filter commute.** -/
theorem filter_mergeSort (keep : α → Bool) (items : List α) :
    (items.mergeSort before).filter keep = (items.filter keep).mergeSort before := by
  induction items with
  | nil => simp
  | cons item rest hypothesis =>
    obtain ⟨front, back, whole, others, left, right⟩ :=
      mergeSort_cons_split transitive total item rest
    rw [others, List.filter_append] at hypothesis
    rw [whole, List.filter_append]
    cases kept : keep item with
    | false =>
      rw [List.filter_cons_of_neg (by simp [kept]), List.filter_cons_of_neg (by simp [kept])]
      exact hypothesis
    | true =>
      rw [List.filter_cons_of_pos kept, List.filter_cons_of_pos kept,
        mergeSort_eq_insertionSort transitive total, List.insertionSort_cons,
        ← mergeSort_eq_insertionSort transitive total, ← hypothesis]
      exact (orderedInsert_append (fun other member => left other (List.mem_filter.mp member).1)
        fun other member => right other (List.mem_filter.mp member).1).symm

end

end

/-! ### Firing matches -/

/-- **What makes two matches the same**: the terminal and the token. -/
def Activation.key (activation : Activation) : NodeId × Token :=
  (activation.terminal, activation.token)

theorem Activation.sameMatch_iff {a b : Activation} : a.sameMatch b = true ↔ a.key = b.key := by
  simp [sameMatch, key]

namespace Session

variable {session after : Session} {activation : Activation} {batch : List Activation}

theorem hasStarted_iff :
    session.hasStarted activation = true ↔
      ∃ earlier ∈ session.started.toList, activation.key = earlier.key := by
  simp only [hasStarted, ← Array.any_toList, List.any_eq_true, Activation.sameMatch_iff]

/-- **The matches that a step ran**: they are noted as started, some of them succeeded, and nothing
else changed. -/
structure Runs (session after : Session) (batch : List Activation) : Prop where
  kb : after.kb = session.kb
  memory : after.memory = session.memory
  started : after.started.toList = session.started.toList ++ batch
  history : ∃ succeeded, after.history.toList = session.history.toList ++ succeeded ∧
    succeeded.Sublist batch

theorem Runs.nothing (session : Session) : Runs session session [] :=
  ⟨rfl, rfl, (List.append_nil _).symm, [], (List.append_nil _).symm, List.Sublist.refl _⟩

theorem Runs.trans {middle : Session} {others : List Activation}
    (first : Runs session middle batch) (second : Runs middle after others) :
    Runs session after (batch ++ others) where
  kb := second.kb.trans first.kb
  memory := second.memory.trans first.memory
  started := by rw [second.started, first.started, List.append_assoc]
  history := by
    obtain ⟨some, here, less⟩ := first.history
    obtain ⟨more, there, fewer⟩ := second.history
    exact ⟨some ++ more, by rw [there, here, List.append_assoc], less.append fewer⟩

/-- Firing a match runs it, unless the bound is reached. -/
theorem fire_runs (session : Session) (activation : Activation) :
    (Runs session (session.fire activation).session [activation]) ∨
      (∃ failure, (session.fire activation).outcome = .error failure) ∧
        (session.fire activation).session = session := by
  have succeeds : Runs session ((session.start activation).succeed activation) [activation] :=
    ⟨rfl, rfl, by simp [start, succeed], [activation], by simp [start, succeed],
      List.Sublist.refl _⟩
  unfold fire
  split
  · exact Or.inr ⟨⟨_, rfl⟩, rfl⟩
  · left
    split
    · exact succeeds
    · split
      · exact succeeds
      · exact ⟨rfl, rfl, by simp [reply, start], [], by simp [reply, start], List.nil_sublist _⟩

/-- **Firing a list of matches runs a prefix of it**, and all of it if it succeeds. -/
theorem fireEach_runs (session : Session) (activations : List Activation) :
    ∃ batch, batch <+: activations ∧
      Runs session (session.fireEach activations).session batch ∧
      ((session.fireEach activations).outcome = .ok () → batch = activations) := by
  induction activations generalizing session with
  | nil => exact ⟨[], List.nil_prefix, .nothing session, fun _ => rfl⟩
  | cons activation rest hypothesis =>
    unfold fireEach
    rcases session.fire_runs activation with runs | ⟨⟨failure, full⟩, same⟩
    · cases first : (session.fire activation).outcome with
      | error failure =>
        simp only [first]
        exact ⟨[activation], List.prefix_cons_inj activation |>.mpr List.nil_prefix, runs,
          fun fired => by cases fired⟩
      | ok done =>
        simp only [first]
        obtain ⟨batch, inside, later, whole⟩ := hypothesis (session.fire activation).session
        exact ⟨activation :: batch, List.prefix_cons_inj activation |>.mpr inside,
          runs.trans later, fun fired => by rw [whole fired]⟩
    · simp only [full, same]
      exact ⟨[], List.nil_prefix, .nothing session, fun fired => by cases fired⟩

/-! ### Agendas -/

/-- What the evaluator finds depends on the network and working memory only. -/
def found (session : Session) : Outcome (List Activation) :=
  (Stateful.result (matchesAll session.kb.network session.memory session.kb.network.terminals)
    .fresh).1

theorem agenda_found (session : Session) :
    session.agenda.outcome =
      session.found.map fun matching => inFiringOrder (session.unstarted matching) := rfl

theorem inFiringOrder_perm (activations : List Activation) :
    (inFiringOrder activations).Perm activations :=
  List.mergeSort_perm _ _

/-- **An agenda holds no match that was run before.** -/
theorem agenda_unstarted {agenda : List Activation} (listed : session.agenda.outcome = .ok agenda) :
    ∀ activation ∈ agenda, ∀ earlier ∈ session.started.toList, activation.key ≠ earlier.key := by
  rw [agenda_found] at listed
  obtain ⟨matching, _, rfl⟩ := Outcome.map_eq_ok.mp listed
  intro activation member earlier before same
  have kept := (inFiringOrder_perm _).mem_iff.mp member
  rw [unstarted_eq_filter] at kept
  have new := (List.mem_filter.mp kept).2
  rw [hasStarted_iff.mpr ⟨earlier, before, same⟩] at new
  cases new

theorem goesBefore_trans (a b c : Activation) (first : goesBefore a b = true)
    (second : goesBefore b c = true) : goesBefore a c = true := by
  simp only [goesBefore, Bool.or_eq_true, Bool.and_eq_true, decide_eq_true_eq] at first second ⊢
  omega

theorem goesBefore_total (a b : Activation) : (goesBefore a b || goesBefore b a) = true := by
  simp only [goesBefore, Bool.or_eq_true, Bool.and_eq_true, decide_eq_true_eq]
  omega

/-- The matches of an agenda that are not among those that were run. -/
def without (agenda batch : List Activation) : List Activation :=
  agenda.filter fun activation => activation.key ∉ batch.map Activation.key

/-- **The next agenda is this one without the matches that were run**, in the same order. -/
theorem agenda_without (runs : Runs session after batch) :
    after.agenda.outcome = session.agenda.outcome.map fun agenda => without agenda batch := by
  have same : after.found = session.found := by
    unfold found
    rw [runs.kb, runs.memory]
  rw [agenda_found, agenda_found, same, Outcome.map_map]
  cases session.found with
  | error failure => rfl
  | ok matching =>
    refine congrArg Except.ok ?_
    simp only [Function.comp_apply, inFiringOrder, without,
      filter_mergeSort goesBefore_trans goesBefore_total, unstarted_eq_filter, List.filter_filter]
    congr 1
    refine List.filter_congr fun other _ => ?_
    rw [Bool.eq_iff_iff]
    simp only [Bool.not_eq_true', ← Bool.not_eq_true, hasStarted_iff, runs.started,
      List.mem_append, List.mem_map, Bool.and_eq_true, decide_eq_true_eq]
    grind

/-- **An agenda that was run is not found again.** -/
theorem agenda_after {agenda : List Activation} (listed : session.agenda.outcome = .ok agenda)
    (runs : Runs session after agenda) : after.agenda.outcome = .ok [] := by
  have none : without agenda agenda = [] :=
    List.filter_eq_nil_iff.mpr fun activation member => by
      simpa using ⟨activation, member, rfl⟩
  rw [agenda_without runs, listed, Except.map, none]

/-! ### Rounds -/

/-- **One round**, and the rounds that follow it. -/
theorem fireRounds_eq (session : Session) (count : Nat) :
    session.fireRounds count =
      match session.agenda.outcome with
      | .error failure => ⟨.error failure, session, [], session.agenda.calls⟩
      | .ok [] =>
        ⟨.ok count, session, [⟨.debug, "fired " ++ toString count ++ " activation(s)"⟩],
          session.agenda.calls⟩
      | .ok agenda =>
        match (session.fireEach agenda).outcome with
        | .error failure =>
          ⟨.error failure, (session.fireEach agenda).session, (session.fireEach agenda).log,
            session.agenda.calls ++ (session.fireEach agenda).calls⟩
        | .ok () =>
          let others := (session.fireEach agenda).session.fireRounds (count + agenda.length)
          { others with
            log := (session.fireEach agenda).log ++ others.log
            calls := session.agenda.calls ++ (session.fireEach agenda).calls ++ others.calls } := by
  rw [fireRounds]
  cases session.agenda.outcome with
  | error failure => rfl
  | ok agenda =>
    cases agenda with
    | nil => rfl
    | cons activation rest =>
      simp only
      split
      · rename_i failure fired
        simp only [fired]
      · rename_i fired
        simp only [fired]

/-- **A call fires its agenda, once.** -/
theorem fireAll_agenda (session : Session) :
    (∀ failure, session.agenda.outcome = .error failure →
      session.fireAll.outcome = .error failure ∧ session.fireAll.session = session) ∧
    ∀ agenda, session.agenda.outcome = .ok agenda →
      session.fireAll.outcome = (session.fireEach agenda).outcome.map (fun _ => agenda.length) ∧
        session.fireAll.session = (session.fireEach agenda).session := by
  have idle : ∀ {other : Session} (count : Nat), other.agenda.outcome = .ok [] →
      (other.fireRounds count).outcome = .ok count ∧ (other.fireRounds count).session = other := by
    intro other count none
    rw [fireRounds_eq, none]
    exact ⟨rfl, rfl⟩
  unfold fireAll
  refine ⟨fun failure failed => ?_, fun agenda listed => ?_⟩
  · rw [fireRounds_eq, failed]
    exact ⟨rfl, rfl⟩
  · cases agenda with
    | nil => exact idle 0 listed
    | cons activation rest =>
      obtain ⟨batch, _, runs, whole⟩ := session.fireEach_runs (activation :: rest)
      rw [fireRounds_eq, listed]
      simp only
      cases fired : (session.fireEach (activation :: rest)).outcome with
      | error failure => exact ⟨rfl, rfl⟩
      | ok done =>
        have none := agenda_after listed (whole fired ▸ runs)
        simp only [idle _ none]
        exact ⟨by simp [Except.map], trivial⟩

/-- **Firing all rules runs a prefix of one agenda**, or nothing if there is none. -/
theorem fireAll_runs (session : Session) :
    ∃ batch, Runs session session.fireAll.session batch ∧
      (batch = [] ∨ ∃ agenda, session.agenda.outcome = .ok agenda ∧ batch <+: agenda) := by
  obtain ⟨onError, onOk⟩ := session.fireAll_agenda
  cases listed : session.agenda.outcome with
  | error failure =>
    rw [(onError failure listed).2]
    exact ⟨[], .nothing session, Or.inl rfl⟩
  | ok agenda =>
    obtain ⟨batch, inside, runs, _⟩ := session.fireEach_runs agenda
    rw [(onOk agenda listed).2]
    exact ⟨batch, runs, Or.inr ⟨agenda, rfl, inside⟩⟩

/-- **The matches that a call of `fireAll` runs**, in order. -/
def executed (session : Session) : List Activation :=
  session.fireAll.session.started.toList.drop session.started.toList.length

theorem executed_runs (session : Session) :
    Runs session session.fireAll.session session.executed ∧ (session.executed = [] ∨
      ∃ agenda, session.agenda.outcome = .ok agenda ∧ session.executed <+: agenda) := by
  obtain ⟨batch, runs, known⟩ := session.fireAll_runs
  have same : session.executed = batch := by
    rw [executed, runs.started, List.drop_left]
  rw [same]
  exact ⟨runs, known⟩

/-! ### Computing a call -/

/-- The agenda with insertion sorts, which evaluation can follow. -/
def sortedAgenda (session : Session) : Outcome (List Activation) :=
  let network := session.kb.network
  let nodes := network.nodes.insertionSort fun a b => decide (a.id.index ≤ b.id.index) = true
  let terminals := (nodes.filter fun node => node.kind.isTerminal).map Node.id
  (Stateful.result (matchesAll network session.memory terminals) .fresh).1.map fun matching =>
    (matching.filter fun activation =>
      !session.started.toList.any activation.sameMatch).insertionSort
        fun a b => goesBefore a b = true

theorem agenda_sorted (session : Session) : session.agenda.outcome = session.sortedAgenda := by
  have nodes := @mergeSort_eq_insertionSort Node (fun a b => decide (a.id.index ≤ b.id.index))
    (fun a b c => by simpa using Nat.le_trans)
    (fun a b => by simpa using Nat.le_total a.id.index b.id.index) session.kb.network.nodes
  have agenda := mergeSort_eq_insertionSort goesBefore_trans goesBefore_total
  unfold sortedAgenda
  rw [agenda_found, found, Network.terminals, Network.byId, nodes]
  simp only [inFiringOrder, agenda, unstarted_eq_filter, hasStarted, Array.any_toList]

/-- What a call answers and leaves, by evaluation. -/
def sortedCall (session : Session) : Outcome Nat × Session :=
  match session.sortedAgenda with
  | .error failure => (.error failure, session)
  | .ok agenda =>
    ((session.fireEach agenda).outcome.map fun _ => agenda.length,
      (session.fireEach agenda).session)

/-- **A call is told by its agenda**, so that it can be computed. -/
theorem fireAll_sorted (session : Session) :
    session.fireAll.outcome = session.sortedCall.1 ∧
      session.fireAll.session = session.sortedCall.2 := by
  obtain ⟨onError, onOk⟩ := session.fireAll_agenda
  unfold sortedCall
  rw [← agenda_sorted]
  cases listed : session.agenda.outcome with
  | error failure => exact onError failure listed
  | ok agenda => exact onOk agenda listed

end Session

end RuleNet
