/-
**The trace of a build is faithful.**

A tracer that records all events, with room for every one of them, holds a chapter for each rule
that was offered, in the order of the rules. A chapter tells what its rule did to the network, so the
trace alone says which nodes there are.

* `KnowledgeBase.offer`: several rules one after another, whether they are accepted or fail;
* `KnowledgeBase.Chapter`: the records of one rule;
* `Confirmed`: an id that records say was made, by a rule that they say is complete;
* `Listening`: what holds between rules, kept by one rule (`Listening.addRule`) and so by several
  (`Listening.offer`);
* `trace_faithful`: **the records are the chapters of the rules**, and the nodes are those confirmed.
-/

import RuleNet.Proofs.Trace.Story

namespace RuleNet

open BuildEvent

/-- **The records say that the node was made** and that the rule it was made for is complete. -/
def Confirmed (records : List TraceRecord) (id : NodeId) : Prop :=
  ∃ made ∈ records, ∃ ended ∈ records, made.rule = ended.rule ∧ made.event.created? = some id ∧
    ∃ rule terminal, ended.event = .ruleComplete rule terminal

/-- Records of different rules confirm nothing together. -/
theorem confirmed_append {records others : List TraceRecord} {id : NodeId}
    (apart : ∀ record ∈ records, ∀ other ∈ others, record.rule ≠ other.rule) :
    Confirmed (records ++ others) id ↔ Confirmed records id ∨ Confirmed others id := by
  constructor
  · rintro ⟨made, told, ended, closed, same, confirms⟩
    rcases List.mem_append.mp told with first | second <;>
      rcases List.mem_append.mp closed with early | late
    · exact Or.inl ⟨made, first, ended, early, same, confirms⟩
    · exact absurd same (apart made first ended late)
    · exact absurd same.symm (apart ended early made second)
    · exact Or.inr ⟨made, second, ended, late, same, confirms⟩
  · rintro (⟨made, told, ended, closed, confirms⟩ | ⟨made, told, ended, closed, confirms⟩)
    · exact ⟨made, List.mem_append_left _ told, ended, List.mem_append_left _ closed, confirms⟩
    · exact ⟨made, List.mem_append_right _ told, ended, List.mem_append_right _ closed, confirms⟩

namespace KnowledgeBase

variable {config : BuildConfig} {attempts : List (Rule × Outcome RuleHandle)} {kb : KnowledgeBase}
  {rule : Rule} {rules : List Rule} {inner : List BuildEvent} {count : Nat} {id : NodeId}

/-- The records that the tracer holds, the oldest first. -/
def records (kb : KnowledgeBase) : List TraceRecord :=
  kb.builder.tracer.buffer.records

/-- The number of events that the tracer has recorded, whether or not it still holds them. -/
def recorded (kb : KnowledgeBase) : Nat :=
  kb.builder.tracer.buffer.nextId

/-- **Offers rules one after another.** Those that fail are passed over. -/
def offer (kb : KnowledgeBase) (rules : List Rule) : KnowledgeBase :=
  rules.foldl (fun kb rule => (kb.addRule rule).after) kb

theorem offer_append (kb : KnowledgeBase) (rules others : List Rule) :
    kb.offer (rules ++ others) = (kb.offer rules).offer others :=
  List.foldl_append

/-- **The records of one rule**: its start, what was done, and its end, under its number. -/
structure Chapter (kb : KnowledgeBase) (rule : Rule) (number : Nat) (records : List TraceRecord) :
    Prop where
  numbered : ∀ record ∈ records, record.rule = number
  told : ∃ inner, kb.Account rule inner ∧ records.map TraceRecord.event = kb.telling rule inner
  /-- An accepted rule has the same number. -/
  sequence : ∀ handle, (kb.addRule rule).outcome = .ok handle → handle.sequence = number

/-! ### What one rule confirms -/

/-- The ends of a rule are not about nodes that were made. -/
theorem created_telling (kb : KnowledgeBase) (rule : Rule) (inner : List BuildEvent) :
    created (kb.telling rule inner) = created inner := by
  have ends : created (kb.closing rule inner) = [] := by
    unfold closing
    split <;> rfl
  unfold telling
  rw [created_append, ends, List.append_nil]
  rfl

/-- A rule is told to be complete if it was accepted. -/
theorem complete_mem_telling (between : ∀ event ∈ inner, event.isInner = true) :
    (∃ name terminal, BuildEvent.ruleComplete name terminal ∈ kb.telling rule inner) ↔
      ∃ handle, (kb.addRule rule).outcome = .ok handle := by
  have outside : ∀ name terminal, BuildEvent.ruleComplete name terminal ∉ inner :=
    fun name terminal member => nomatch between _ member
  unfold telling closing
  cases (kb.addRule rule).outcome with
  | ok handle => simp [outside]
  | error failure => simp [outside]

/-- **A chapter confirms the nodes that its rule made**, if the rule was accepted. -/
theorem confirmed_chapter {records : List TraceRecord} {number : Nat}
    (numbered : ∀ record ∈ records, record.rule = number)
    (between : ∀ event ∈ inner, event.isInner = true)
    (told : records.map TraceRecord.event = kb.telling rule inner) :
    Confirmed records id ↔
      (∃ handle, (kb.addRule rule).outcome = .ok handle) ∧ id ∈ created inner := by
  rw [← complete_mem_telling between, ← created_telling kb rule inner, ← told]
  simp only [created, List.mem_filterMap, List.mem_map]
  constructor
  · rintro ⟨made, member, ended, last, _, creates, name, terminal, complete⟩
    exact ⟨⟨name, terminal, ended, last, complete⟩, made.event, ⟨made, member, rfl⟩, creates⟩
  · rintro ⟨⟨name, terminal, ended, last, complete⟩, _, ⟨made, member, rfl⟩, creates⟩
    have same : made.rule = ended.rule := (numbered made member).trans (numbered ended last).symm
    exact ⟨made, member, ended, last, same, creates, name, terminal, complete⟩

/-- **The nodes that a rule leaves**: those before it, and those it made if it was accepted. -/
theorem Account.contains_iff (account : kb.Account rule inner) :
    (kb.addRule rule).after.network.contains id = true ↔ kb.network.contains id = true ∨
      (∃ handle, (kb.addRule rule).outcome = .ok handle) ∧ id ∈ created inner := by
  have left := account.left
  rw [Network.contains_iff, Network.contains_iff, ← List.mem_map, ← List.mem_map, left]
  cases (kb.addRule rule).outcome with
  | ok handle => simp [or_comm]
  | error failure => simp

/-! ### Between rules -/

/-- **What holds between rules.** The tracer has recorded everything, and the nodes are those that
its records confirm. -/
structure Listening (config : BuildConfig) (count : Nat) (kb : KnowledgeBase) : Prop where
  grown : ∃ attempts, Grown config .standard attempts kb
  logs : kb.builder.tracer.Logs
  capacity : kb.builder.tracer.buffer.capacity = config.tracer.capacity
  rule : kb.builder.tracer.rule = count
  compiled : kb.builder.compiled = count
  numbers : ∀ record ∈ kb.records, record.rule ≤ count
  present : ∀ id, kb.network.contains id = true ↔ Confirmed kb.records id

theorem listening_new (enabled : config.tracer.enabled = true)
    (unfiltered : config.tracer.wanted = []) : Listening config 0 (.new config .standard) where
  grown := ⟨[], .new⟩
  logs := ⟨enabled, unfiltered, rfl⟩
  capacity := rfl
  rule := rfl
  compiled := rfl
  numbers _ member := nomatch member
  present _ := by
    constructor
    · intro known
      cases known
    · rintro ⟨_, member, _⟩
      cases member

/-- **One more rule adds its chapter.** -/
theorem Listening.addRule (listening : Listening config count kb) (rollback : config.rollback = true)
    (rule : Rule) (room : (kb.addRule rule).after.recorded ≤ config.tracer.capacity) :
    Listening config (count + 1) (kb.addRule rule).after ∧
      ∃ mine, (kb.addRule rule).after.records = kb.records ++ mine ∧
        kb.Chapter rule (count + 1) mine := by
  obtain ⟨⟨attempts, grown⟩, logs, capacity, number, compiled, numbers, present⟩ := listening
  obtain ⟨inner, account, tracer, counted, sequence⟩ := grown.addRule_told rollback rule
  have space : (kb.builder.tracer.counting.recordAll (kb.telling rule inner)).buffer.nextId ≤
      kb.builder.tracer.buffer.capacity := by
    rw [← tracer, capacity]
    exact room
  obtain ⟨logging, mine, added, told, own⟩ := logs.counting.recordAll space
  have window := (Tracer.recordAll_counts logs.counting.enabled logs.counting.unfiltered
    (kb.telling rule inner)).2
  have stays := Tracer.rule_recordAll kb.builder.tracer.counting (kb.telling rule inner)
  rw [← tracer] at logging added window stays
  have records : (kb.addRule rule).after.records = kb.records ++ mine := added
  have numbered : ∀ record ∈ mine, record.rule = count + 1 := fun record member =>
    (own record member).trans (congrArg (· + 1) number)
  have apart : ∀ record ∈ kb.records, ∀ other ∈ mine, record.rule ≠ other.rule := by
    intro record early other late same
    have before := numbers record early
    have after := numbered other late
    omega
  refine ⟨⟨⟨_, grown.addRule rule⟩, logging, window.trans capacity, stays.trans ?_, ?_, ?_, ?_⟩,
    mine, records, numbered, ⟨inner, account, told⟩, fun handle answer => ?_⟩
  · exact congrArg (· + 1) number
  · rw [counted, compiled]
  · intro record member
    rw [records] at member
    rcases List.mem_append.mp member with early | late
    · exact Nat.le_succ_of_le (numbers record early)
    · exact Nat.le_of_eq (numbered record late)
  · intro id
    rw [records, confirmed_append apart, ← present id,
      confirmed_chapter numbered account.between told]
    exact account.contains_iff
  · rw [sequence handle answer, compiled]

theorem Grown.offer (grown : Grown config .standard attempts kb) (rules : List Rule) :
    ∃ others, Grown config .standard others (kb.offer rules) := by
  induction rules generalizing attempts kb with
  | nil => exact ⟨attempts, grown⟩
  | cons rule rest hypothesis => exact hypothesis (grown.addRule rule)

/-- Events are only ever added to the number recorded. -/
theorem Grown.recorded_offer (grown : Grown config .standard attempts kb)
    (rollback : config.rollback = true) (rules : List Rule) :
    kb.recorded ≤ (kb.offer rules).recorded := by
  induction rules generalizing attempts kb with
  | nil => exact Nat.le_refl _
  | cons rule rest hypothesis =>
    obtain ⟨inner, _, tracer, _⟩ := grown.addRule_told rollback rule
    have once : kb.recorded ≤ (kb.addRule rule).after.recorded := by
      show kb.builder.tracer.buffer.nextId ≤ (kb.addRule rule).after.builder.tracer.buffer.nextId
      rw [tracer]
      exact Tracer.nextId_le_recordAll kb.builder.tracer.counting _
    exact Nat.le_trans once (hypothesis (grown.addRule rule))

/-- **Several rules keep what holds between rules**, and the records of each are numbered later. -/
theorem Listening.offer (listening : Listening config count kb) (rollback : config.rollback = true)
    (room : (kb.offer rules).recorded ≤ config.tracer.capacity) :
    Listening config (count + rules.length) (kb.offer rules) ∧
      ∃ later, (kb.offer rules).records = kb.records ++ later ∧
        ∀ record ∈ later, count < record.rule := by
  induction rules generalizing count kb with
  | nil => exact ⟨listening, [], (List.append_nil _).symm, fun _ member => nomatch member⟩
  | cons rule rest hypothesis =>
    obtain ⟨attempts, grown⟩ := listening.grown
    have enough : (kb.addRule rule).after.recorded ≤ config.tracer.capacity :=
      Nat.le_trans ((grown.addRule rule).recorded_offer rollback rest) room
    obtain ⟨next, mine, own, chapter⟩ := listening.addRule rollback rule enough
    obtain ⟨last, later, others, numbers⟩ := hypothesis next room
    have total : count + 1 + rest.length = count + (rest.length + 1) := by omega
    refine ⟨total ▸ last, mine ++ later, ?_, fun record member => ?_⟩
    · show (((kb.addRule rule).after).offer rest).records = _
      rw [others, own, List.append_assoc]
    · rcases List.mem_append.mp member with first | second
      · rw [chapter.numbered record first]
        exact Nat.lt_succ_self count
      · exact Nat.lt_trans (Nat.lt_succ_self count) (numbers record second)

/-! ### Whole builds -/

/-- **The trace of a build is faithful.** If a tracer records all events and has room for every one
of them, its records are the chapters of the rules that were offered, one after another, and the
nodes at the end are those that the chapters of accepted rules say were made. -/
theorem trace_faithful (enabled : config.tracer.enabled = true)
    (unfiltered : config.tracer.wanted = []) (rollback : config.rollback = true)
    (room : ((new config .standard).offer rules).recorded ≤ config.tracer.capacity) :
    (∀ before rule later, rules = before ++ rule :: later →
      ∃ mine rest, ((new config .standard).offer rules).records =
          ((new config .standard).offer before).records ++ mine ++ rest ∧
        (∀ record ∈ ((new config .standard).offer before).records,
          record.rule < before.length + 1) ∧
        ((new config .standard).offer before).Chapter rule (before.length + 1) mine ∧
        ∀ record ∈ rest, before.length + 1 < record.rule) ∧
    ∀ id, ((new config .standard).offer rules).network.contains id = true ↔
      Confirmed ((new config .standard).offer rules).records id := by
  have start := listening_new enabled unfiltered
  refine ⟨fun before rule later split => ?_, (start.offer rollback room).1.present⟩
  subst split
  rw [offer_append] at room ⊢
  obtain ⟨others, grown⟩ := Grown.new.offer before
  have early := Nat.le_trans (grown.recorded_offer rollback (rule :: later)) room
  have next := Nat.le_trans ((grown.addRule rule).recorded_offer rollback later) room
  have listening := (start.offer rollback early).1
  rw [Nat.zero_add] at listening
  obtain ⟨going, mine, own, chapter⟩ := listening.addRule rollback rule next
  obtain ⟨_, rest, last, afterwards⟩ := going.offer rollback room
  refine ⟨mine, rest, ?_, fun record member => ?_, chapter, afterwards⟩
  · show ((((new config .standard).offer before).addRule rule).after.offer later).records = _
    rw [last, own]
  · exact Nat.lt_succ_of_le (listening.numbers record member)

/-- A rule that is accepted, and one that fails and leaves its chapter but no node. -/
theorem everyPerson_twoPersonsOr_told :
    let kb := (new .traced .standard).offer [everyPerson, twoPersonsOr]
    let first := (new .traced .standard).offer [everyPerson]
    kb.recorded ≤ BuildConfig.traced.tracer.capacity ∧
      (∃ mine rest, kb.records = first.records ++ mine ++ rest ∧
        first.Chapter twoPersonsOr 2 mine) ∧
      ∀ id, kb.network.contains id = true ↔ Confirmed kb.records id := by
  intro kb first
  have room : kb.recorded ≤ BuildConfig.traced.tracer.capacity := by decide +kernel
  obtain ⟨chapters, confirmed⟩ := trace_faithful rfl rfl rfl room
  obtain ⟨mine, rest, records, _, chapter, _⟩ := chapters [everyPerson] twoPersonsOr [] rfl
  exact ⟨room, ⟨mine, rest, records, chapter⟩, confirmed⟩

end KnowledgeBase

end RuleNet
