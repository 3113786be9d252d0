/-
**Trace records as JSON objects.**

Each record is one object with its number, the number of its rule, its time, the type of its event
and the parts of the event. Several records are an array, on one line or with one record a line.

* `escapes`, `escapeText`: five characters are replaced by their escapes, one after the other;
* `escapeText_eq`: **they can be replaced at once**, since none is a character that an earlier
  replacement has put in;
* `jsonObject`, `jsonArray`: the two forms.
-/

import RuleNet.Trace.Event

namespace RuleNet

/-! ### Escapes -/

/-- The text with every occurrence of a character replaced. -/
def replaceChar (replaced : Char × List Char) (text : List Char) : List Char :=
  text.flatMap fun c => if c = replaced.1 then replaced.2 else [c]

/-- The characters that have an escape, in the order in which they are replaced. The backslash is
the first of them, so that those of the other escapes stay. -/
def escapes : List (Char × List Char) :=
  [('\\', ['\\', '\\']), ('"', ['\\', '"']), ('\n', ['\\', 'n']), ('\r', ['\\', 'r']),
    ('\t', ['\\', 't'])]

/-- The text with its escapes. -/
def escapeText (text : List Char) : List Char :=
  escapes.foldl (fun escaped replaced => replaceChar replaced escaped) text

/-- The escaped form of one character. -/
def escapeJson (c : Char) : List Char :=
  match c with
  | '\\' => ['\\', '\\']
  | '"' => ['\\', '"']
  | '\n' => ['\\', 'n']
  | '\r' => ['\\', 'r']
  | '\t' => ['\\', 't']
  | c => [c]

theorem replaceChar_other {c : Char} {replaced : Char × List Char} (other : c ≠ replaced.1) :
    replaceChar replaced [c] = [c] := by
  rw [replaceChar, List.flatMap_singleton, if_neg other]

/-- Replacements in a row can be made character by character. -/
theorem foldl_replaceChar (replaced : List (Char × List Char)) (form : Char → List Char)
    (text : List Char) :
    replaced.foldl (fun escaped one => replaceChar one escaped) (text.flatMap form) =
      text.flatMap fun c => replaced.foldl (fun escaped one => replaceChar one escaped) (form c) := by
  induction replaced generalizing form with
  | nil => rfl
  | cons one rest hypothesis =>
    simp only [List.foldl_cons]
    rw [replaceChar, List.flatMap_assoc]
    exact hypothesis fun c => replaceChar one (form c)

/-- A character by itself. -/
theorem escapeText_singleton (c : Char) : escapeText [c] = escapeJson c := by
  unfold escapeJson
  split
  · rfl
  · rfl
  · rfl
  · rfl
  · rfl
  · rename_i backslash quote feed carriage tab
    simp only [escapeText, escapes, List.foldl_cons, List.foldl_nil]
    rw [replaceChar_other backslash, replaceChar_other quote, replaceChar_other feed,
      replaceChar_other carriage, replaceChar_other tab]

/-- **The five replacements are one.** -/
theorem escapeText_eq (text : List Char) : escapeText text = text.flatMap escapeJson := by
  calc escapeText text = escapeText (text.flatMap fun c => [c]) := by rw [List.flatMap_singleton']
    _ = text.flatMap fun c => escapeText [c] := foldl_replaceChar escapes _ text
    _ = text.flatMap escapeJson := by simp only [escapeText_singleton]

/-! ### Records -/

/-- A JSON string whose text is escaped. -/
def jsonString (text : String) : String :=
  "\"" ++ String.ofList (escapeText text.toList) ++ "\""

/-- A field of a JSON object, with the written form of its value. -/
def jsonField (name value : String) : String :=
  "\"" ++ name ++ "\":" ++ value

namespace BuildEvent

/-- The parts of an event. The name of a node's kind is written without escapes. -/
def jsonFields : BuildEvent → List String
  | ruleStart rule => [jsonField "rule" (jsonString rule)]
  | nodeCreated node kind | nodeShared node kind =>
    [jsonField "node" (toString node.index), jsonField "kind" ("\"" ++ kind ++ "\"")]
  | adapterInserted node root =>
    [jsonField "node" (toString node.index), jsonField "root" (toString root.index)]
  | initialFactInserted node => [jsonField "node" (toString node.index)]
  | constraintSkipped key => [jsonField "key" (jsonString key)]
  | ruleComplete rule terminal =>
    [jsonField "rule" (jsonString rule), jsonField "terminal" (toString terminal.index)]
  | ruleFailed rule message =>
    [jsonField "rule" (jsonString rule), jsonField "message" (jsonString message)]
  | rolledBack rule removed =>
    [jsonField "rule" (jsonString rule), jsonField "removed" (toString removed)]

end BuildEvent

/-- The object of a record. -/
def jsonObject (record : TraceRecord) : String :=
  "\x7b" ++ ",".intercalate
    ([jsonField "id" (toString record.id), jsonField "rule_seq" (toString record.rule),
      jsonField "timestamp_ns" (toString record.time),
      jsonField "type" ("\"" ++ record.event.type ++ "\"")] ++ record.event.jsonFields) ++ "\x7d"

/-- The array of several records. -/
def jsonArray (pretty : Bool) (records : List TraceRecord) : String :=
  let objects := records.map jsonObject
  if pretty then "[\n  " ++ ",\n  ".intercalate objects ++ "\n]"
  else "[" ++ ",".intercalate objects ++ "]"

end RuleNet
