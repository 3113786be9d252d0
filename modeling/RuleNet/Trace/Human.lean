/-
**Trace lines for people.**

One line for each record: optionally its number, then the number of its rule, optionally its time
in a column, and a description of the event.

* `HumanStyle`: which columns are shown;
* `durationText`: microseconds up to a millisecond, then three decimal places of milliseconds, and
  from a second on of seconds.
-/

import RuleNet.Number.Places
import RuleNet.Trace.Event

namespace RuleNet

/-- The columns of a line. -/
structure HumanStyle where
  showTimes : Bool
  showIds : Bool
deriving DecidableEq, Repr

/-- A duration in nanoseconds, cut to microseconds. -/
def durationText (nanoseconds : Nat) : String :=
  let microseconds := nanoseconds / 1000
  let inUnits (unit : Int) := (Double.ofInt microseconds).div (Double.ofInt unit)
  if 1000000 ≤ microseconds then (inUnits 1000000).threePlaces ++ "s"
  else if 1000 ≤ microseconds then (inUnits 1000).threePlaces ++ "ms"
  else toString microseconds ++ "us"

/-- A text in a column, with blanks on its left. -/
def alignRight (width : Nat) (text : String) : String :=
  String.ofList (List.replicate (width - text.length) ' ') ++ text

namespace BuildEvent

/-- The description of an event. -/
def describe : BuildEvent → String
  | ruleStart rule => "=== RULE " ++ rule ++ " ==="
  | nodeCreated node kind => "  + " ++ kind ++ " " ++ node.text
  | nodeShared node kind => "  = " ++ kind ++ " " ++ node.text
  | adapterInserted node root => "  ADAPTER " ++ node.text ++ " over " ++ root.text
  | initialFactInserted node => "  INITIAL-FACT " ++ node.text
  | constraintSkipped key => "  SKIP " ++ key
  | ruleComplete rule terminal =>
    "=== RULE " ++ rule ++ " OK (terminal " ++ terminal.text ++ ") ==="
  | ruleFailed rule message => "=== RULE " ++ rule ++ " FAILED: " ++ message ++ " ==="
  | rolledBack rule removed =>
    "  ROLLBACK " ++ rule ++ ": " ++ toString removed ++ " node(s) removed"

end BuildEvent

namespace HumanStyle

/-- The line of a record. -/
def line (style : HumanStyle) (record : TraceRecord) : String :=
  let id := if style.showIds then "[" ++ padZeros 6 record.id ++ "] " else ""
  let rule := "R" ++ padZeros 4 record.rule ++ " "
  let time := if style.showTimes then alignRight 10 (durationText record.time) ++ " " else ""
  id ++ rule ++ time ++ record.event.describe

/-- The lines of several records. -/
def lines (style : HumanStyle) (records : List TraceRecord) : String :=
  "\n".intercalate (records.map style.line)

end HumanStyle

example : durationText 999999 = "999us" := by decide +kernel
example : durationText 1234567 = "1.234ms" := by decide +kernel
example : durationText 7068746723 = "7.069s" := by decide +kernel

end RuleNet
