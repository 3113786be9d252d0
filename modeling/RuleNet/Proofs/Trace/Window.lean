/-
**The trace buffer is a window onto the end of its history.**

Whatever is pushed and cleared, and in whatever order, the records are numbered as if none was ever
dropped. The buffer shows the last of them: those since the last clear, as far as they fit.

* `Step`, `after`, `answers`: what is done to a buffer, the buffer after several steps, and the
  numbers that the pushes answer with;
* `written`, `sinceClear`: the records of all pushes, and the number of those since the last clear;
* `Shows`: the buffer shows the end of a history;
* `Shows.take`, `Shows.after`: **a step moves the window along the history**, and so does a run;
* `Selects`, `Counts`: what the queries and the statistics of a window say;
* `sliding_window`: **all of it, for every capacity and every sequence of steps**.
-/

import Mathlib.Algebra.BigOperators.Group.List.Basic
import Mathlib.Algebra.GroupWithZero.Nat
import Mathlib.Data.List.Induction
import Mathlib.Data.List.Nodup
import RuleNet.Trace.Buffer

namespace RuleNet

namespace TraceBuffer

/-! ### Steps -/

/-- **What is done to a buffer.** -/
inductive Step where
  | push (rule time : Nat) (event : BuildEvent)
  | clear

/-- **A buffer takes a step.** A push answers with a number. -/
def take (buffer : TraceBuffer) : Step → Option Nat × TraceBuffer
  | .push rule time event =>
    let (id, after) := buffer.pushNumbered rule time event
    (some id, after)
  | .clear => (none, buffer.clear)

/-- **The buffer after several steps.** -/
def after (buffer : TraceBuffer) : List Step → TraceBuffer
  | [] => buffer
  | step :: rest => (buffer.take step).2.after rest

/-- The numbers that the pushes among several steps answer with, in their order. -/
def answers (buffer : TraceBuffer) : List Step → List Nat
  | [] => []
  | step :: rest => (buffer.take step).1.toList ++ (buffer.take step).2.answers rest

/-- **The records of all pushes**, whatever became of them. The first has the number `first`. -/
def written (first : Nat) : List Step → List TraceRecord
  | [] => []
  | .push rule time event :: rest => ⟨first, rule, time, event⟩ :: written (first + 1) rest
  | .clear :: rest => written first rest

/-- **The number of pushes since the last clear**, after `count` of them. -/
def sinceClear (count : Nat) : List Step → Nat
  | [] => count
  | .push _ _ _ :: rest => sinceClear (count + 1) rest
  | .clear :: rest => sinceClear 0 rest

theorem written_numbered (first : Nat) (steps : List Step) :
    (written first steps).map TraceRecord.id =
      List.range' first (written first steps).length := by
  induction steps generalizing first with
  | nil => rfl
  | cons step rest hypothesis =>
    cases step with
    | push rule time event =>
      exact congrArg (first :: ·) (hypothesis (first + 1))
    | clear => exact hypothesis first

/-! ### The end of a list -/

theorem length_lastOf (count : Nat) (records : List TraceRecord) :
    (lastOf count records).length = min count records.length := by
  rw [lastOf, List.length_drop]
  omega

theorem lastOf_suffix (count : Nat) (records : List TraceRecord) :
    lastOf count records <:+ records :=
  List.drop_suffix _ _

/-- The end of a longer list, from the end of the list that was lengthened. -/
theorem lastOf_concat {count : Nat} {records : List TraceRecord} (limit : Nat)
    (record : TraceRecord) (within : count ≤ records.length) :
    lastOf limit (lastOf (min limit count) records ++ [record]) =
      lastOf (min limit (count + 1)) (records ++ [record]) := by
  have shown : (lastOf (min limit count) records).length = min limit count := by
    rw [length_lastOf]
    omega
  have longer : (records ++ [record]).length = records.length + 1 := List.length_append
  have window : (lastOf (min limit count) records ++ [record]).length = min limit count + 1 := by
    rw [List.length_append, shown, List.length_singleton]
  rcases Nat.eq_zero_or_pos limit with rfl | room
  · rw [lastOf, List.drop_of_length_le (by omega), Nat.zero_min, lastOf, Nat.sub_zero,
      List.drop_length]
  · rw [lastOf, window, List.drop_append_of_le_length (by omega), lastOf, List.drop_drop]
    rw [lastOf, longer, List.drop_append_of_le_length (by omega)]
    congr 2
    omega

/-! ### The window -/

/-- **The buffer shows the end of a history**: the last `since` records, as far as they fit. The
next record gets the number of records before it. -/
structure Shows (buffer : TraceBuffer) (history : List TraceRecord) (since : Nat) : Prop where
  records : buffer.records = lastOf (min buffer.capacity since) history
  within : since ≤ history.length
  next : buffer.nextId = history.length

variable {buffer : TraceBuffer} {history : List TraceRecord} {since : Nat}

theorem shows_new (capacity : Nat) : (new capacity).Shows [] 0 :=
  ⟨(List.drop_nil).symm, Nat.le_refl 0, rfl⟩

theorem capacity_take (buffer : TraceBuffer) (step : Step) :
    (buffer.take step).2.capacity = buffer.capacity := by
  cases step <;> rfl

theorem capacity_after (buffer : TraceBuffer) (steps : List Step) :
    (buffer.after steps).capacity = buffer.capacity := by
  induction steps generalizing buffer with
  | nil => rfl
  | cons step rest hypothesis => exact (hypothesis _).trans (buffer.capacity_take step)

/-- **A step moves the window along the history.** -/
theorem Shows.take (shows : buffer.Shows history since) (step : Step) :
    (buffer.take step).2.Shows (history ++ written history.length [step])
      (sinceClear since [step]) := by
  cases step with
  | push rule time event =>
    have entered : buffer.nextId = history.length := shows.next
    refine ⟨?_, ?_, ?_⟩
    · show lastOf buffer.capacity (buffer.records ++ [⟨buffer.nextId, rule, time, event⟩]) = _
      rw [shows.records, entered]
      exact lastOf_concat buffer.capacity _ shows.within
    · rw [List.length_append]
      exact Nat.add_le_add_right shows.within 1
    · rw [List.length_append]
      exact congrArg (· + 1) entered
  | clear =>
    have nothing : lastOf (min buffer.capacity 0) history = [] := by
      rw [Nat.min_zero, lastOf, Nat.sub_zero, List.drop_length]
    refine ⟨?_, Nat.zero_le _, ?_⟩
    · show [] = lastOf (min buffer.capacity 0) (history ++ [])
      rw [List.append_nil, nothing]
    · rw [List.length_append]
      exact shows.next

theorem written_append (first : Nat) (steps rest : List Step) :
    written first (steps ++ rest) =
      written first steps ++ written (first + (written first steps).length) rest := by
  induction steps generalizing first with
  | nil => rfl
  | cons step later hypothesis =>
    cases step with
    | push rule time event =>
      show _ :: written (first + 1) (later ++ rest) = _ :: (_ ++ _)
      rw [hypothesis (first + 1), Nat.add_assoc, Nat.add_comm 1]
      rfl
    | clear => exact hypothesis first

theorem sinceClear_append (count : Nat) (steps rest : List Step) :
    sinceClear count (steps ++ rest) = sinceClear (sinceClear count steps) rest := by
  induction steps generalizing count with
  | nil => rfl
  | cons step later hypothesis => cases step <;> exact hypothesis _

/-- **A run moves the window along the history.** -/
theorem Shows.after (shows : buffer.Shows history since) (steps : List Step) :
    (buffer.after steps).Shows (history ++ written history.length steps)
      (sinceClear since steps) := by
  induction steps generalizing buffer history since with
  | nil =>
    show buffer.Shows (history ++ []) since
    rw [List.append_nil]
    exact shows
  | cons step rest hypothesis =>
    have moved := hypothesis (shows.take step)
    rw [List.append_assoc, List.length_append, ← written_append, ← sinceClear_append] at moved
    exact moved

/-- **A push answers with the number of pushes before it.** -/
theorem answers_eq (buffer : TraceBuffer) (steps : List Step) :
    buffer.answers steps =
      List.range' buffer.nextId (written buffer.nextId steps).length := by
  induction steps generalizing buffer with
  | nil => rfl
  | cons step rest hypothesis =>
    cases step with
    | push rule time event =>
      exact congrArg (buffer.nextId :: ·) (hypothesis (buffer.push rule time event))
    | clear => exact hypothesis buffer.clear

namespace Shows

theorem length (shows : buffer.Shows history since) :
    buffer.length = min buffer.capacity since := by
  have within := shows.within
  rw [TraceBuffer.length, shows.records, length_lastOf]
  omega

/-- What is shown is numbered up to the next number. -/
theorem ids (shows : buffer.Shows history since)
    (numbered : history.map TraceRecord.id = List.range' 0 history.length) :
    buffer.records.map TraceRecord.id =
      List.range' (history.length - buffer.length) buffer.length := by
  have within := shows.within
  have shown := shows.length
  have drop : history.length - min buffer.capacity since = history.length - buffer.length := by
    rw [shown]
  have left : history.length - (history.length - buffer.length) = buffer.length := by omega
  rw [shows.records, lastOf, List.map_drop, numbered, drop, List.drop_range', left]
  congr 1
  omega

end Shows

/-! ### Queries and statistics -/

/-- **A choice of records of the window**: those that pass, in the order of the window. -/
structure Selects (buffer : TraceBuffer) (passes : TraceRecord → Prop)
    (chosen : List TraceRecord) : Prop where
  ordered : chosen.Sublist buffer.records
  exact : ∀ record, record ∈ chosen ↔ record ∈ buffer.records ∧ passes record

theorem selects_filter (buffer : TraceBuffer) (passes : TraceRecord → Prop)
    [DecidablePred passes] :
    buffer.Selects passes (buffer.records.filter fun record => passes record) :=
  ⟨List.filter_sublist, fun _ => by rw [List.mem_filter, decide_eq_true_iff]⟩

/-- **The statistics of the window.** Each event type that occurs is listed once with the number of
its records. -/
structure Counts (buffer : TraceBuffer) (stats : TraceStats) : Prop where
  count : stats.count = buffer.length
  capacity : stats.capacity = buffer.capacity
  bounded : stats.count ≤ stats.capacity
  oldest : stats.oldestRule = (buffer.records.map TraceRecord.rule).head?
  newest : stats.newestRule = (buffer.records.map TraceRecord.rule).getLast?
  distinct : (stats.byType.map Prod.fst).Nodup
  each : ∀ type number,
    (type, number) ∈ stats.byType ↔ number = (buffer.ofType type).length ∧ number ≠ 0
  total : (stats.byType.map Prod.snd).sum = stats.count

theorem types_nodup : BuildEvent.types.Nodup := by decide

theorem once_in_types : ∀ own ∈ BuildEvent.types,
    (BuildEvent.types.map fun type => if type = own then 1 else 0).sum = 1 := by decide

/-- Entries that count nothing do not add to the total. -/
theorem sum_filter_nonzero (entries : List (String × Nat)) :
    ((entries.filter fun entry => entry.2 ≠ 0).map Prod.snd).sum =
      (entries.map Prod.snd).sum := by
  induction entries with
  | nil => rfl
  | cons entry rest hypothesis =>
    by_cases zero : entry.2 = 0 <;> simpa [zero] using hypothesis

/-- **Every record has one type**, so the numbers of records of all types add up. -/
theorem sum_types (records : List TraceRecord) :
    (BuildEvent.types.map fun type => (records.filter (·.event.type = type)).length).sum =
      records.length := by
  induction records with
  | nil => rfl
  | cons record rest hypothesis =>
    have split : ∀ type, ((record :: rest).filter (·.event.type = type)).length =
        (if type = record.event.type then 1 else 0) +
          (rest.filter (·.event.type = type)).length := by
      intro type
      by_cases same : type = record.event.type
      · subst same
        rw [List.filter_cons_of_pos (by simp), if_pos rfl, List.length_cons, Nat.add_comm]
      · rw [List.filter_cons_of_neg (by simpa using Ne.symm same), if_neg same, Nat.zero_add]
    rw [funext split, List.sum_map_add, hypothesis,
      once_in_types _ record.event.type_mem_types, List.length_cons, Nat.add_comm]

/-- A type that no record has is not listed, and a listed one is a type of events. -/
theorem mem_types_of_ofType (buffer : TraceBuffer) {type : String}
    (occurs : (buffer.ofType type).length ≠ 0) : type ∈ BuildEvent.types := by
  obtain ⟨record, member⟩ := List.exists_mem_of_length_pos (Nat.pos_of_ne_zero occurs)
  have same : record.event.type = type := by simpa using (List.mem_filter.mp member).2
  rw [← same]
  exact record.event.type_mem_types

theorem Shows.counts (shows : buffer.Shows history since) : buffer.Counts buffer.stats where
  count := rfl
  capacity := rfl
  bounded := by
    show buffer.length ≤ buffer.capacity
    rw [shows.length]
    exact Nat.min_le_left _ _
  oldest := List.head?_map.symm
  newest := List.getLast?_map.symm
  distinct := by
    refine List.Nodup.sublist (List.filter_sublist.map Prod.fst) ?_
    rw [List.map_map]
    exact types_nodup.map fun _ _ same => same
  each := by
    intro type number
    constructor
    · intro listed
      obtain ⟨member, nonzero⟩ := List.mem_filter.mp listed
      obtain ⟨same, _, entry⟩ := List.mem_map.mp member
      cases entry
      exact ⟨rfl, by simpa using nonzero⟩
    · rintro ⟨rfl, nonzero⟩
      refine List.mem_filter.mpr ⟨List.mem_map.mpr ⟨type, ?_, rfl⟩, by simpa using nonzero⟩
      exact buffer.mem_types_of_ofType nonzero
  total := by
    show (List.map Prod.snd (List.filter _ _)).sum = buffer.records.length
    rw [sum_filter_nonzero, List.map_map]
    exact sum_types buffer.records

/-! ### All runs -/

/-- **The trace buffer is a sliding window.** The pushes answer with 0, 1, 2, … whatever is cleared
or dropped. The window is the end of the list of all records, and has as many as were pushed since
the last clear, up to the capacity; their numbers are consecutive. Its latest records, those of a
rule and those of an event type are parts of it, and its statistics count it. -/
theorem sliding_window (capacity : Nat) (steps : List Step) :
    let buffer := (new capacity).after steps
    let history := written 0 steps
    let shown := min capacity (sinceClear 0 steps)
    (new capacity).answers steps = List.range history.length ∧
      buffer.records <:+ history ∧
      buffer.records.length = shown ∧
      buffer.records.map TraceRecord.id = List.range' (history.length - shown) shown ∧
      (∀ count, buffer.recent count <:+ buffer.records ∧
        (buffer.recent count).length = min count buffer.length) ∧
      (∀ rule, buffer.Selects (fun record => record.rule = rule) (buffer.ofRule rule)) ∧
      (∀ type, buffer.Selects (fun record => record.event.type = type) (buffer.ofType type)) ∧
      buffer.Counts buffer.stats := by
  intro buffer history shown
  have shows : buffer.Shows history (sinceClear 0 steps) := (shows_new capacity).after steps
  have size : buffer.length = shown := by
    rw [shows.length, show buffer.capacity = capacity from capacity_after _ _]
  refine ⟨?_, ?_, size, ?_, fun count => ⟨lastOf_suffix _ _, length_lastOf _ _⟩,
    fun rule => selects_filter _ _, fun type => selects_filter _ _, shows.counts⟩
  · rw [answers_eq, List.range_eq_range']
    rfl
  · rw [shows.records]
    exact lastOf_suffix _ _
  · rw [← size]
    exact shows.ids (written_numbered 0 steps)

end TraceBuffer

end RuleNet
