/-
**The tracer: which build events are recorded, and the lines it writes.**

A tracer that is switched off records nothing. One that is on records the events of the wanted
types, all of them if none are named, and writes the newest record of its window to the log.

* `record`: records one event;
* `startRule`: counts the rule and records its start;
* `format`, `formatAll`: records in the tracer's own format.
-/

import RuleNet.Trace.Buffer
import RuleNet.Trace.Human
import RuleNet.Trace.Json

namespace RuleNet

/-- The levels of log lines. -/
inductive LogLevel where
  | trace
  | debug
  | warn
deriving DecidableEq, Repr

def LogLevel.text : LogLevel → String
  | trace => "TRACE"
  | debug => "DEBUG"
  | warn => "WARN"

/-- A line written to the log. -/
structure LogLine where
  level : LogLevel
  text : String
deriving DecidableEq, Repr

/-- What a tracer is asked to do. -/
structure TracerConfig where
  enabled : Bool
  capacity : Nat
  /-- Lines are JSON objects. -/
  json : Bool
  /-- The event types to record, or none for all. -/
  wanted : List String
deriving DecidableEq, Repr

namespace TracerConfig

instance : Inhabited TracerConfig := ⟨false, TraceBuffer.defaultCapacity, false, []⟩

/-- Events of a type are recorded. -/
def wants (config : TracerConfig) (type : String) : Bool :=
  config.wanted.isEmpty || config.wanted.contains type

end TracerConfig

/-- The record keeper of a build. -/
structure Tracer where
  config : TracerConfig
  buffer : TraceBuffer
  /-- The number of rules started. -/
  rule : Nat
  /-- The time put on the next records. -/
  now : Nat
deriving DecidableEq, Repr

namespace Tracer

def new (config : TracerConfig) : Tracer :=
  ⟨config, TraceBuffer.new config.capacity, 0, 0⟩

instance : Inhabited Tracer := ⟨new default⟩

/-- The form of lines for people: neither numbers nor times. -/
def style : HumanStyle :=
  ⟨false, false⟩

def format (tracer : Tracer) (record : TraceRecord) : String :=
  if tracer.config.json then jsonObject record else style.line record

def formatAll (tracer : Tracer) (records : List TraceRecord) : String :=
  if tracer.config.json then jsonArray false records else style.lines records

/-- **Records one event**, if it is wanted, and writes the newest record of the window. -/
def record (tracer : Tracer) (event : BuildEvent) : Tracer × List LogLine :=
  if tracer.config.enabled && tracer.config.wants event.type then
    let after := { tracer with buffer := tracer.buffer.push tracer.rule tracer.now event }
    (after, (after.buffer.recent 1).map fun newest => ⟨.trace, after.format newest⟩)
  else (tracer, [])

/-- Counts a rule, recorded or not, and records its start. -/
def startRule (tracer : Tracer) (rule : String) : Tracer × List LogLine :=
  record { tracer with rule := tracer.rule + 1 } (.ruleStart rule)

def enable (tracer : Tracer) (enabled : Bool) : Tracer :=
  { tracer with config := { tracer.config with enabled := enabled } }

def useJson (tracer : Tracer) (json : Bool) : Tracer :=
  { tracer with config := { tracer.config with json := json } }

def clear (tracer : Tracer) : Tracer :=
  { tracer with buffer := tracer.buffer.clear }

end Tracer

end RuleNet
