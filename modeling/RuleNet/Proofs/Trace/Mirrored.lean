/-
**The lines that a tracer writes to the log.**

A tracer writes the newest record of its window. As long as the window has room for one record that
is the record of the event at hand, whatever was dropped or cleared before. A window without room
has no newest record, and nothing is written.

* `Step`, `lines`: what is done to a tracer, and the lines it writes meanwhile;
* `pushes`: what its buffer is told, whatever becomes of it;
* `recent_push`: the newest record after a push;
* `take_mirrors`, `lines_eq`: **a step writes the lines of its records, if there is room for one**,
  and so does a run;
* `mirrored_iff`: **the log has all records exactly then**, or if there are none.
-/

import RuleNet.Proofs.Trace.Window
import RuleNet.Trace.Tracer

namespace RuleNet

namespace TraceBuffer

theorem lastOf_zero (records : List TraceRecord) : lastOf 0 records = [] :=
  List.drop_length

theorem lastOf_succ_concat (count : Nat) (records : List TraceRecord) (record : TraceRecord) :
    lastOf (count + 1) (records ++ [record]) = lastOf count records ++ [record] := by
  rw [lastOf, List.length_append, List.length_singleton, Nat.add_sub_add_right,
    List.drop_append_of_le_length (Nat.sub_le _ _), lastOf]

/-- **The newest record after a push** is the new one, if there is room for any. -/
theorem recent_push (buffer : TraceBuffer) (rule time : Nat) (event : BuildEvent) :
    (buffer.push rule time event).recent 1 =
      if buffer.capacity = 0 then [] else [⟨buffer.nextId, rule, time, event⟩] := by
  show lastOf 1 (lastOf buffer.capacity (buffer.records ++ [_])) = _
  cases buffer.capacity with
  | zero => rw [lastOf_zero, if_pos rfl, lastOf, List.drop_nil]
  | succ room =>
    rw [lastOf_succ_concat, lastOf_succ_concat, lastOf_zero, if_neg (Nat.succ_ne_zero room),
      List.nil_append]

end TraceBuffer

namespace Tracer

/-! ### Steps -/

/-- **What is done to a tracer**, and when. -/
inductive Step where
  | record (time : Nat) (event : BuildEvent)
  | startRule (time : Nat) (rule : String)
  | clear

namespace Step

/-- The event that is reported. -/
def event? : Step → Option BuildEvent
  | record _ event => some event
  | startRule _ rule => some (.ruleStart rule)
  | clear => none

def isClear : Step → Bool
  | clear => true
  | _ => false

/-- The number of rules started, counted on. -/
def rules (rule : Nat) : Step → Nat
  | startRule _ _ => rule + 1
  | _ => rule

/-- **What the buffer is told**: an event that is wanted, under the number of the rule at hand. -/
def pushed (wants : String → Bool) (rule : Nat) : Step → List TraceBuffer.Step
  | record time event => if wants event.type then [.push rule time event] else []
  | startRule time name =>
    if wants (BuildEvent.ruleStart name).type then [.push rule time (.ruleStart name)] else []
  | clear => [.clear]

end Step

/-- What the buffer is told during several steps. The window and its capacity have no say in it. -/
def pushes (wants : String → Bool) (rule : Nat) : List Step → List TraceBuffer.Step
  | [] => []
  | step :: rest => step.pushed wants (step.rules rule) ++ pushes wants (step.rules rule) rest

/-- **A tracer takes a step**, and writes lines. -/
def take (tracer : Tracer) : Step → Tracer × List LogLine
  | .record time event => record { tracer with now := time } event
  | .startRule time rule => startRule { tracer with now := time } rule
  | .clear => (tracer.clear, [])

/-- **The lines that are written** while a tracer takes several steps. -/
def lines (tracer : Tracer) : List Step → List LogLine
  | [] => []
  | step :: rest => (tracer.take step).2 ++ (tracer.take step).1.lines rest

/-- The line of a record, in the format of the tracer. -/
def line (tracer : Tracer) (record : TraceRecord) : LogLine :=
  ⟨.trace, tracer.format record⟩

/-- The lines that get written for records that are pushed. -/
def mirror (tracer : Tracer) (records : List TraceRecord) : List LogLine :=
  if tracer.buffer.capacity = 0 then [] else records.map tracer.line

/-! ### One step -/

variable {tracer : Tracer}

theorem mirror_append (tracer : Tracer) (records others : List TraceRecord) :
    tracer.mirror (records ++ others) = tracer.mirror records ++ tracer.mirror others := by
  unfold mirror
  split
  · rfl
  · exact List.map_append

/-- Lines depend on the format and the capacity alone. -/
theorem mirror_congr {after : Tracer} (config : after.config = tracer.config)
    (capacity : after.buffer.capacity = tracer.buffer.capacity) (records : List TraceRecord) :
    after.mirror records = tracer.mirror records := by
  have lines : after.line = tracer.line := by
    funext record
    unfold line format
    rw [config]
  rw [mirror, capacity, lines, mirror]

/-- **What a step leaves**: the lines of the records that are pushed, and a tracer that counts them
and the rules. -/
structure Told (tracer : Tracer) (rule : Nat) (records : List TraceRecord)
    (answer : Tracer × List LogLine) : Prop where
  lines : answer.2 = tracer.mirror records
  config : answer.1.config = tracer.config
  capacity : answer.1.buffer.capacity = tracer.buffer.capacity
  rule : answer.1.rule = rule
  next : answer.1.buffer.nextId = tracer.buffer.nextId + records.length

/-- **An event that is wanted is pushed and written**, and any other one is neither. -/
theorem record_tells (on : tracer.config.enabled = true) (event : BuildEvent) :
    tracer.Told tracer.rule
      (TraceBuffer.written tracer.buffer.nextId
        (if tracer.config.wants event.type then [.push tracer.rule tracer.now event] else []))
      (tracer.record event) := by
  unfold record
  rw [on, Bool.true_and]
  cases tracer.config.wants event.type with
  | true =>
    refine ⟨?_, rfl, rfl, rfl, rfl⟩
    simp only [if_true, TraceBuffer.recent_push, mirror]
    split <;> rfl
  | false =>
    refine ⟨?_, rfl, rfl, rfl, rfl⟩
    simp [TraceBuffer.written, mirror]

theorem take_mirrors (on : tracer.config.enabled = true) (step : Step) :
    tracer.Told (step.rules tracer.rule)
      (TraceBuffer.written tracer.buffer.nextId
        (step.pushed tracer.config.wants (step.rules tracer.rule)))
      (tracer.take step) := by
  cases step with
  | record time event =>
    obtain ⟨lines, config, capacity, rule, next⟩ :=
      @record_tells { tracer with now := time } on event
    exact ⟨lines, config, capacity, rule, next⟩
  | startRule time name =>
    obtain ⟨lines, config, capacity, rule, next⟩ :=
      @record_tells { tracer with now := time, rule := tracer.rule + 1 } on (.ruleStart name)
    exact ⟨lines, config, capacity, rule, next⟩
  | clear =>
    refine ⟨?_, rfl, rfl, rfl, rfl⟩
    simp [take, Step.pushed, TraceBuffer.written, mirror]

/-! ### All runs -/

/-- **A run writes the lines of all its records**, if there is room for one. -/
theorem lines_eq (on : tracer.config.enabled = true) (steps : List Step) :
    tracer.lines steps = tracer.mirror
      (TraceBuffer.written tracer.buffer.nextId
        (pushes tracer.config.wants tracer.rule steps)) := by
  induction steps generalizing tracer with
  | nil => simp [lines, pushes, TraceBuffer.written, mirror]
  | cons step rest hypothesis =>
    have told := take_mirrors on step
    have later := @hypothesis (tracer.take step).1 (told.config.symm ▸ on)
    rw [lines, told.lines, later, mirror_congr told.config told.capacity, told.config, told.rule,
      told.next, pushes, TraceBuffer.written_append, mirror_append]

/-- The records are those of the events that are wanted. -/
theorem written_events (wants : String → Bool) (first rule : Nat) (steps : List Step) :
    (TraceBuffer.written first (pushes wants rule steps)).map TraceRecord.event =
      (steps.filterMap Step.event?).filter fun event => wants event.type := by
  induction steps generalizing first rule with
  | nil => rfl
  | cons step rest hypothesis =>
    rw [pushes, TraceBuffer.written_append, List.map_append, hypothesis]
    cases step with
    | record time event =>
      cases wanted : wants event.type <;>
        simp [Step.event?, Step.pushed, wanted, TraceBuffer.written]
    | startRule time name =>
      cases wanted : wants (BuildEvent.ruleStart name).type <;>
        simp [Step.event?, Step.pushed, wanted, TraceBuffer.written]
    | clear => rfl

/-- Clearing the window changes no record. -/
theorem written_clear (wants : String → Bool) (first rule : Nat) (steps : List Step) :
    TraceBuffer.written first (pushes wants rule (steps.filter fun step => !step.isClear)) =
      TraceBuffer.written first (pushes wants rule steps) := by
  induction steps generalizing first rule with
  | nil => rfl
  | cons step rest hypothesis =>
    rw [pushes, TraceBuffer.written_append, ← hypothesis]
    cases step with
    | record time event => exact TraceBuffer.written_append _ _ _
    | startRule time name => exact TraceBuffer.written_append _ _ _
    | clear => exact rfl

/-- **The log has one line for each wanted event exactly if the window has room for a record**, or
if there is no such event. The records are numbered 0, 1, 2, …; a window of any other size that has
room writes the same lines, and clearing it changes none. -/
theorem mirrored_iff (capacity : Nat) (json : Bool) (wanted : List String) (steps : List Step) :
    let tracer := new ⟨true, capacity, json, wanted⟩
    let records := TraceBuffer.written 0 (pushes tracer.config.wants 0 steps)
    (tracer.lines steps = records.map tracer.line ↔ capacity ≠ 0 ∨ records = []) ∧
      records.map TraceRecord.id = List.range records.length ∧
      records.map TraceRecord.event =
        ((steps.filterMap Step.event?).filter fun event => tracer.config.wants event.type) ∧
      (capacity = 0 → tracer.lines steps = []) ∧
      (capacity ≠ 0 → ∀ other, other ≠ 0 →
        (new ⟨true, other, json, wanted⟩).lines steps = tracer.lines steps) ∧
      tracer.lines (steps.filter fun step => !step.isClear) = tracer.lines steps := by
  intro tracer records
  have written : ∀ size, (new ⟨true, size, json, wanted⟩).lines steps =
      if size = 0 then [] else records.map tracer.line := fun size => lines_eq rfl steps
  refine ⟨?_, ?_, written_events _ _ _ _, fun none => ?_, fun room other wide => ?_, ?_⟩
  · rw [written capacity]
    by_cases room : capacity = 0
    · rw [if_pos room, eq_comm, List.map_eq_nil_iff, or_iff_right (not_not_intro room)]
    · rw [if_neg room]
      exact iff_of_true rfl (.inl room)
  · rw [List.range_eq_range']
    exact TraceBuffer.written_numbered 0 _
  · rw [written capacity, if_pos none]
  · rw [written other, written capacity, if_neg wide, if_neg room]
  · rw [lines_eq rfl, lines_eq rfl]
    exact congrArg tracer.mirror (written_clear _ _ _ _)

/-- A window without room: the start of a rule is recorded under number 0, and its line is not
written. -/
theorem roomless_unmirrored :
    let tracer := new ⟨true, 0, false, []⟩
    let steps := [Step.startRule 0 "r"]
    let records := TraceBuffer.written 0 (pushes tracer.config.wants 0 steps)
    tracer.lines steps = [] ∧ records.map tracer.line = [⟨.trace, "R0001 === RULE r ==="⟩] ∧
      tracer.lines steps ≠ records.map tracer.line := by
  decide

end Tracer

end RuleNet
