/-
**What a tracer holds after several events.**

A tracer that is switched on and wants all events adds one record for each event, under the number
of the rule at hand. As long as there is room in its window it forgets none of them.

* `Tracer.recordAll`: the tracer after several events;
* `Tracer.counting`: the tracer at the start of a rule;
* `Tracer.Logs`: the tracer records all events, and has forgotten none so far;
* `Logs.recordAll`: **then it holds one more record for each event**, in their order.
-/

import RuleNet.Trace.Tracer

namespace RuleNet

namespace Tracer

variable {tracer : Tracer} {event : BuildEvent} {events others : List BuildEvent}

/-- The tracer after several events, the oldest first. -/
def recordAll (tracer : Tracer) (events : List BuildEvent) : Tracer :=
  events.foldl (fun tracer event => (tracer.record event).1) tracer

theorem recordAll_append (tracer : Tracer) (events others : List BuildEvent) :
    tracer.recordAll (events ++ others) = (tracer.recordAll events).recordAll others :=
  List.foldl_append

/-- Recording changes the window and nothing else. -/
theorem record_eq (tracer : Tracer) (event : BuildEvent) :
    (tracer.record event).1 = { tracer with buffer := (tracer.record event).1.buffer } := by
  unfold record
  split <;> rfl

theorem config_record (tracer : Tracer) (event : BuildEvent) :
    (tracer.record event).1.config = tracer.config := by
  rw [record_eq]

theorem rule_record (tracer : Tracer) (event : BuildEvent) :
    (tracer.record event).1.rule = tracer.rule := by
  rw [record_eq]

theorem rule_recordAll (tracer : Tracer) (events : List BuildEvent) :
    (tracer.recordAll events).rule = tracer.rule := by
  induction events generalizing tracer with
  | nil => rfl
  | cons event rest hypothesis =>
    show ((tracer.record event).1.recordAll rest).rule = tracer.rule
    rw [hypothesis, rule_record]

/-- What was recorded stays counted. -/
theorem nextId_le_recordAll (tracer : Tracer) (events : List BuildEvent) :
    tracer.buffer.nextId ≤ (tracer.recordAll events).buffer.nextId := by
  induction events generalizing tracer with
  | nil => exact Nat.le_refl _
  | cons event rest hypothesis =>
    have once : tracer.buffer.nextId ≤ (tracer.record event).1.buffer.nextId := by
      unfold record
      split
      · exact Nat.le_succ _
      · exact Nat.le_refl _
    exact Nat.le_trans once (hypothesis (tracer.record event).1)

/-- **The tracer records all events**, and has forgotten none so far. -/
structure Logs (tracer : Tracer) : Prop where
  enabled : tracer.config.enabled = true
  unfiltered : tracer.config.wanted = []
  kept : tracer.buffer.length = tracer.buffer.nextId

/-- The tracer at the start of a rule, which is counted whether or not it is recorded. -/
def counting (tracer : Tracer) : Tracer :=
  { tracer with rule := tracer.rule + 1 }

theorem Logs.counting (logs : tracer.Logs) : tracer.counting.Logs :=
  ⟨logs.enabled, logs.unfiltered, logs.kept⟩

/-- Every event is pushed into the window. -/
theorem record_of_wanted (enabled : tracer.config.enabled = true)
    (unfiltered : tracer.config.wanted = []) (event : BuildEvent) :
    (tracer.record event).1 =
      { tracer with buffer := tracer.buffer.push tracer.rule tracer.now event } := by
  have wanted : (tracer.config.enabled && tracer.config.wants event.type) = true := by
    simp [enabled, unfiltered, TracerConfig.wants]
  unfold record
  rw [if_pos wanted]

/-- **Events are counted one by one**, and the window is as large as before. -/
theorem recordAll_counts (enabled : tracer.config.enabled = true)
    (unfiltered : tracer.config.wanted = []) (events : List BuildEvent) :
    (tracer.recordAll events).buffer.nextId = tracer.buffer.nextId + events.length ∧
      (tracer.recordAll events).buffer.capacity = tracer.buffer.capacity := by
  induction events generalizing tracer with
  | nil => exact ⟨rfl, rfl⟩
  | cons event rest hypothesis =>
    have pushed := record_of_wanted enabled unfiltered event
    obtain ⟨counted, capacity⟩ := @hypothesis (tracer.record event).1
      ((config_record tracer event).symm ▸ enabled) ((config_record tracer event).symm ▸ unfiltered)
    show ((tracer.record event).1.recordAll rest).buffer.nextId = _ ∧
      ((tracer.record event).1.recordAll rest).buffer.capacity = _
    rw [counted, capacity, pushed]
    refine ⟨?_, rfl⟩
    show tracer.buffer.nextId + 1 + rest.length = tracer.buffer.nextId + (rest.length + 1)
    omega

/-- One more record, if there is room for it. -/
theorem Logs.record (logs : tracer.Logs) (room : tracer.buffer.nextId < tracer.buffer.capacity)
    (event : BuildEvent) :
    (tracer.record event).1.Logs ∧ ∃ record : TraceRecord,
      (tracer.record event).1.buffer.records = tracer.buffer.records ++ [record] ∧
      record.event = event ∧ record.rule = tracer.rule := by
  have free : tracer.buffer.length < tracer.buffer.capacity := logs.kept ▸ room
  have records := tracer.buffer.records_push tracer.rule tracer.now event free
  rw [record_of_wanted logs.enabled logs.unfiltered event]
  refine ⟨⟨logs.enabled, logs.unfiltered, ?_⟩, _, records, rfl, rfl⟩
  have kept := logs.kept
  simp only [TraceBuffer.length] at kept ⊢
  rw [records, List.length_append, kept]
  rfl

/-- **One more record for each event**, in their order, if there is room for all of them. -/
theorem Logs.recordAll (logs : tracer.Logs)
    (room : (tracer.recordAll events).buffer.nextId ≤ tracer.buffer.capacity) :
    (tracer.recordAll events).Logs ∧ ∃ records : List TraceRecord,
      (tracer.recordAll events).buffer.records = tracer.buffer.records ++ records ∧
      records.map TraceRecord.event = events ∧ ∀ record ∈ records, record.rule = tracer.rule := by
  rw [(recordAll_counts logs.enabled logs.unfiltered events).1] at room
  induction events generalizing tracer with
  | nil => exact ⟨logs, [], (List.append_nil _).symm, rfl, fun _ member => nomatch member⟩
  | cons event rest hypothesis =>
    rw [List.length_cons] at room
    have next : tracer.buffer.nextId < tracer.buffer.capacity := by omega
    obtain ⟨going, record, added, same, own⟩ := logs.record next event
    have counted := recordAll_counts logs.enabled logs.unfiltered [event]
    have left : (tracer.record event).1.buffer.nextId + rest.length ≤
        (tracer.record event).1.buffer.capacity := by
      show (tracer.recordAll [event]).buffer.nextId + _ ≤ (tracer.recordAll [event]).buffer.capacity
      rw [counted.1, counted.2, List.length_singleton]
      omega
    obtain ⟨last, records, later, events, rules⟩ := hypothesis going left
    refine ⟨last, record :: records, ?_, ?_, ?_⟩
    · show ((tracer.record event).1.recordAll rest).buffer.records = _
      rw [later, added, List.append_assoc]
      rfl
    · rw [List.map_cons, same, events]
    · intro other member
      rcases List.mem_cons.mp member with rfl | late
      · exact own
      · rw [rules other late, rule_record]

end Tracer

end RuleNet
