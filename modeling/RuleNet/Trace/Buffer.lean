/-
**The trace buffer: a window onto the latest records.**

Records are numbered in the order they arrive, and the numbers go on whatever is dropped. The
buffer keeps the latest records up to its capacity.

* `push`: adds a record and drops the oldest ones beyond the capacity;
* `pushNumbered`: a push with its answer, the number of the new record;
* `recent`, `ofRule`, `ofType`: parts of the window, oldest first;
* `records_push`: the window after a push, if there is room for one more.
-/

import RuleNet.Trace.Event

namespace RuleNet

/-- The latest records. -/
structure TraceBuffer where
  /-- Oldest first. -/
  records : List TraceRecord
  capacity : Nat
  nextId : Nat
deriving DecidableEq, Repr

/-- What a window holds, in numbers. -/
structure TraceStats where
  count : Nat
  capacity : Nat
  oldestRule : Option Nat
  newestRule : Option Nat
  /-- The number of records of each event type that occurs. -/
  byType : List (String × Nat)
deriving DecidableEq, Repr

namespace TraceBuffer

def defaultCapacity : Nat := 10000

def new (capacity : Nat) : TraceBuffer :=
  ⟨[], capacity, 0⟩

def length (buffer : TraceBuffer) : Nat :=
  buffer.records.length

/-- The last records of a list, at most `count` of them. -/
def lastOf (count : Nat) (records : List TraceRecord) : List TraceRecord :=
  records.drop (records.length - count)

/-- Adds a record of an event. -/
def push (buffer : TraceBuffer) (rule time : Nat) (event : BuildEvent) : TraceBuffer :=
  { buffer with
    records := lastOf buffer.capacity (buffer.records ++ [⟨buffer.nextId, rule, time, event⟩])
    nextId := buffer.nextId + 1 }

/-- **A push with its answer**: the number of the new record. -/
def pushNumbered (buffer : TraceBuffer) (rule time : Nat) (event : BuildEvent) :
    Nat × TraceBuffer :=
  (buffer.nextId, buffer.push rule time event)

/-- Empties the window. The numbering goes on. -/
def clear (buffer : TraceBuffer) : TraceBuffer :=
  { buffer with records := [] }

def recent (buffer : TraceBuffer) (count : Nat) : List TraceRecord :=
  lastOf count buffer.records

def ofRule (buffer : TraceBuffer) (rule : Nat) : List TraceRecord :=
  buffer.records.filter (·.rule = rule)

def ofType (buffer : TraceBuffer) (type : String) : List TraceRecord :=
  buffer.records.filter (·.event.type = type)

def stats (buffer : TraceBuffer) : TraceStats where
  count := buffer.length
  capacity := buffer.capacity
  oldestRule := buffer.records.head?.map TraceRecord.rule
  newestRule := buffer.records.getLast?.map TraceRecord.rule
  byType := (BuildEvent.types.map fun type => (type, (buffer.ofType type).length)).filter
    fun entry => entry.2 ≠ 0

/-- Room for one more record: nothing is dropped. -/
theorem records_push (buffer : TraceBuffer) (rule time : Nat) (event : BuildEvent)
    (room : buffer.length < buffer.capacity) :
    (buffer.push rule time event).records =
      buffer.records ++ [⟨buffer.nextId, rule, time, event⟩] := by
  have none : buffer.records.length + 1 - buffer.capacity = 0 := by
    simp only [length] at room; omega
  simp [push, lastOf, none]

end TraceBuffer

end RuleNet
