/-
**Traces as JSON texts.**

The written form of a trace is put together by hand, and only some characters of its strings are
escaped. It is a JSON text whose value has all data of the records exactly if its strings are
legible: no name, key or message has a control character besides line feeds, carriage returns and
tabs, and no name of a kind has a character that would need an escape.

* `EventPart`, `BuildEvent.parts`: the parts of an event, each with the form it is written in;
* `TraceRecord.json`: **the value of a record**, from which the record can be told;
* `record_spelled`: records that are legible are spelled;
* `record_demands`: records that are read are legible;
* `jsonArray_spells_iff`: **the trace is a JSON text with the values of its records, and with no
  other, exactly if it is legible.**
-/

import Mathlib.Data.List.Basic
import RuleNet.Proofs.Json.Reader
import RuleNet.Trace.Json

namespace RuleNet

open Json

/-! ### Records as values -/

/-- A part of an event, by the form in which it is written. -/
inductive EventPart where
  | number (number : Nat)
  /-- Written with escapes. -/
  | text (text : String)
  /-- Written as it is. -/
  | word (word : String)

namespace EventPart

def written : EventPart → String
  | number n => toString n
  | text s => jsonString s
  | word w => "\"" ++ w ++ "\""

def json : EventPart → Json
  | number n => .number n
  | text s => .string s
  | word w => .string w

/-- Characters that are escaped, or need not be. -/
def LegibleChar (c : Char) : Prop :=
  0x20 ≤ c.toNat ∨ c = '\n' ∨ c = '\r' ∨ c = '\t'

/-- **What is written can be read.** -/
def Legible : EventPart → Prop
  | number _ => True
  | text s => ∀ c ∈ s.toList, LegibleChar c
  | word w => ∀ c ∈ w.toList, isUnescaped c = true

end EventPart

namespace BuildEvent

/-- **The parts of an event**, with their names. -/
def parts : BuildEvent → List (String × EventPart)
  | ruleStart rule => [("rule", .text rule)]
  | nodeCreated node kind | nodeShared node kind =>
    [("node", .number node.index), ("kind", .word kind)]
  | adapterInserted node root => [("node", .number node.index), ("root", .number root.index)]
  | initialFactInserted node => [("node", .number node.index)]
  | constraintSkipped key => [("key", .text key)]
  | ruleComplete rule terminal => [("rule", .text rule), ("terminal", .number terminal.index)]
  | ruleFailed rule message => [("rule", .text rule), ("message", .text message)]
  | rolledBack rule removed => [("rule", .text rule), ("removed", .number removed)]

/-- **The strings of the event are legible.** -/
def Legible (event : BuildEvent) : Prop :=
  ∀ part ∈ event.parts, part.2.Legible

theorem jsonFields_eq (event : BuildEvent) :
    event.jsonFields = event.parts.map fun part => jsonField part.1 part.2.written := by
  cases event <;> rfl

end BuildEvent

/-- **An event can be told from its type and the values of its parts.** -/
theorem BuildEvent.eq_of_parts {event other : BuildEvent} (type : event.type = other.type)
    (parts : event.parts.map (fun part => part.2.json) =
      other.parts.map fun part => part.2.json) : event = other := by
  have index {node same : NodeId} (equal : node.index = same.index) : node = same := by
    cases node
    cases same
    exact congrArg NodeId.mk equal
  cases event <;> cases other <;> first
    | (simp only [BuildEvent.type, String.reduceEq] at type; done)
    | simp only [BuildEvent.parts, List.map_cons, List.map_nil, EventPart.json, List.cons.injEq,
        Json.string.injEq, Json.number.injEq, Rat.natCast_inj, and_true] at parts
      grind

namespace TraceRecord

/-- All parts of a record. -/
def parts (record : TraceRecord) : List (String × EventPart) :=
  [("id", .number record.id), ("rule_seq", .number record.rule),
    ("timestamp_ns", .number record.time), ("type", .word record.event.type)] ++ record.event.parts

/-- **The value of a record**: an object with its number, the number of its rule, its time, the type
of its event and the parts of the event. -/
def json (record : TraceRecord) : Json :=
  .object (record.parts.map fun part => (part.1, part.2.json))

/-- **A record can be told from its value.** -/
theorem json_injective {record other : TraceRecord} (same : record.json = other.json) :
    record = other := by
  have parts := congrArg (List.map Prod.snd) (Json.object.inj same)
  simp only [TraceRecord.parts, List.map_map, List.map_cons, List.cons_append, List.nil_append,
    List.cons.injEq, EventPart.json, Json.number.injEq, Json.string.injEq,
    Rat.natCast_inj] at parts
  obtain ⟨id, rule, time, type, rest⟩ := parts
  have event : record.event = other.event := BuildEvent.eq_of_parts type rest
  cases record
  cases other
  subst id rule time event
  rfl

end TraceRecord

/-! ### Layout -/

/-- A member of an object, with its name. -/
def memberChars (part : String × EventPart) : List Char :=
  '"' :: (part.1.toList ++ '"' :: ([':'] ++ part.2.written.toList))

theorem jsonField_toList (part : String × EventPart) :
    (jsonField part.1 part.2.written).toList = memberChars part := by
  simp [jsonField, memberChars]

theorem jsonObject_toList (record : TraceRecord) :
    (jsonObject record).toList =
      ['\x7b'] ++ ([','].intercalate (record.parts.map memberChars) ++ ['\x7d']) := by
  have fields : [jsonField "id" (toString record.id), jsonField "rule_seq" (toString record.rule),
        jsonField "timestamp_ns" (toString record.time),
        jsonField "type" ("\"" ++ record.event.type ++ "\"")] ++ record.event.jsonFields =
      record.parts.map fun part => jsonField part.1 part.2.written := by
    rw [BuildEvent.jsonFields_eq]
    rfl
  rw [jsonObject, fields]
  simp [String.toList_intercalate, Function.comp_def, jsonField_toList]

/-- What stands before, between and after the records. -/
def arrayOpening (pretty : Bool) : List Char :=
  if pretty then ['[', '\n', ' ', ' '] else ['[']

def arraySeparator (pretty : Bool) : List Char :=
  if pretty then [',', '\n', ' ', ' '] else [',']

def arrayClosing (pretty : Bool) : List Char :=
  if pretty then ['\n', ']'] else [']']

theorem jsonArray_toList (pretty : Bool) (records : List TraceRecord) :
    (jsonArray pretty records).toList =
      arrayOpening pretty ++ ((arraySeparator pretty).intercalate
        (records.map fun record => (jsonObject record).toList) ++ arrayClosing pretty) := by
  cases pretty <;>
    simp [jsonArray, arrayOpening, arraySeparator, arrayClosing, String.toList_intercalate,
      Function.comp_def]

theorem arrayOpening_mark (pretty : Bool) : Mark '[' (arrayOpening pretty) := by
  cases pretty with
  | false => exact Mark.alone '['
  | true => exact ⟨[], ['\n', ' ', ' '], blank_nil, blank_of_all rfl, rfl⟩

theorem arraySeparator_mark (pretty : Bool) : Mark ',' (arraySeparator pretty) := by
  cases pretty with
  | false => exact Mark.alone ','
  | true => exact ⟨[], ['\n', ' ', ' '], blank_nil, blank_of_all rfl, rfl⟩

theorem arrayClosing_mark (pretty : Bool) : Mark ']' (arrayClosing pretty) := by
  cases pretty with
  | false => exact Mark.alone ']'
  | true => exact ⟨['\n'], [], blank_of_all rfl, blank_nil, rfl⟩

/-! ### Legible records are spelled -/

theorem toDigits_positive {n : Nat} (positive : 0 < n) :
    ∃ first rest, Nat.toDigits 10 n = first :: rest ∧ first ≠ '0' := by
  induction n using Nat.strongRecOn with
  | ind n hypothesis =>
    by_cases small : n < 10
    · refine ⟨n.digitChar, [], Nat.toDigits_of_lt_base small, ?_⟩
      rw [ne_eq, Nat.digitChar_eq_zero]
      omega
    · obtain ⟨first, rest, digits, nonzero⟩ := hypothesis (n / 10) (by omega) (by omega)
      refine ⟨first, rest ++ [(n % 10).digitChar], ?_, nonzero⟩
      rw [Nat.toDigits_of_base_le (by omega) (by omega), digits, List.cons_append]

theorem toDigits_whole (n : Nat) : Whole (Nat.toDigits 10 n) := by
  have all : AllDigits (Nat.toDigits 10 n) := fun _ member =>
    Nat.isDigit_of_mem_toDigits (by omega) (by omega) member
  rcases Nat.eq_zero_or_pos n with rfl | positive
  · rw [Nat.toDigits_zero]
    exact .zero
  · obtain ⟨first, rest, digits, nonzero⟩ := toDigits_positive positive
    rw [digits] at all ⊢
    exact .more (all first List.mem_cons_self) nonzero fun c member =>
      all c (List.mem_cons_of_mem _ member)

/-- **Natural numbers are spelled by their digits.** -/
theorem number_spelled (n : Nat) : Number (toString n).toList n := by
  have magnitude := Magnitude.mk (toDigits_whole n) Fraction.none Exponent.none
  simp only [List.append_nil, natural, Nat.ofDigitChars_ten_toDigits, List.length_nil] at magnitude
  have value : decimal n 0 (0 + 0) = n := by
    rw [decimal, Int.pow_zero, Int.mul_one]
    exact Rat.mkRat_self n
  rw [Nat.toString_eq_repr, Nat.toList_repr, ← value]
  exact .positive magnitude

theorem escapeJson_chars {c : Char} (legible : EventPart.LegibleChar c) {rest text : List Char}
    (chars : Chars rest text) : Chars (escapeJson c ++ rest) (c :: text) := by
  unfold escapeJson
  split
  · exact .escaped (.short rfl) chars
  · exact .escaped (.short rfl) chars
  · exact .escaped (.short rfl) chars
  · exact .escaped (.short rfl) chars
  · exact .escaped (.short rfl) chars
  · rename_i backslash quote feed carriage tab
    refine .plain (isUnescaped_iff.mpr ⟨?_, quote, backslash⟩) chars
    rcases legible with visible | same | same | same
    · exact visible
    · exact absurd same feed
    · exact absurd same carriage
    · exact absurd same tab

theorem text_spelled {text : List Char} (legible : ∀ c ∈ text, EventPart.LegibleChar c) :
    Chars (text.flatMap escapeJson) text := by
  induction text with
  | nil => exact .nil
  | cons c rest hypothesis =>
    rw [List.flatMap_cons]
    exact escapeJson_chars (legible c List.mem_cons_self)
      (hypothesis fun d member => legible d (List.mem_cons_of_mem _ member))

theorem word_spelled {word : List Char} (plain : ∀ c ∈ word, isUnescaped c = true) :
    Chars word word := by
  induction word with
  | nil => exact .nil
  | cons c rest hypothesis =>
    exact .plain (plain c List.mem_cons_self)
      (hypothesis fun d member => plain d (List.mem_cons_of_mem _ member))

theorem jsonString_toList (text : String) :
    (jsonString text).toList = '"' :: (text.toList.flatMap escapeJson ++ ['"']) := by
  simp [jsonString, escapeText_eq]

theorem word_toList (word : String) :
    ("\"" ++ word ++ "\"").toList = '"' :: (word.toList ++ ['"']) := by
  simp

/-- **A part that is legible is spelled.** -/
theorem part_spelled {part : EventPart} (legible : part.Legible) :
    Value part.written.toList part.json := by
  cases part with
  | number n => exact .number (number_spelled n)
  | text s =>
    have spelled := Value.string (text_spelled legible)
    rw [String.ofList_toList] at spelled
    rw [EventPart.written, jsonString_toList]
    exact spelled
  | word w =>
    have spelled := Value.string (word_spelled legible)
    rw [String.ofList_toList] at spelled
    rw [EventPart.written, word_toList]
    exact spelled

/-- The names of parts need no escapes. -/
theorem TraceRecord.names_plain (record : TraceRecord) {part : String × EventPart}
    (member : part ∈ record.parts) : ∀ c ∈ part.1.toList, isUnescaped c = true := by
  have plain : (record.parts.map Prod.fst).all (fun name => name.toList.all isUnescaped) = true := by
    obtain ⟨id, rule, time, event⟩ := record
    cases event <;>
      simp only [TraceRecord.parts, BuildEvent.parts, List.cons_append, List.nil_append,
        List.map_cons, List.map_nil] <;>
      decide
  exact List.all_eq_true.mp (List.all_eq_true.mp plain part.1 (List.mem_map_of_mem member))

theorem TraceRecord.parts_legible (record : TraceRecord) :
    (∀ part ∈ record.parts, part.2.Legible) ↔ record.event.Legible := by
  have plain : BuildEvent.types.all (fun name => name.toList.all isUnescaped) = true := by decide
  have type : ∀ c ∈ record.event.type.toList, isUnescaped c = true :=
    List.all_eq_true.mp (List.all_eq_true.mp plain _ record.event.type_mem_types)
  constructor
  · exact fun all part member => all part (List.mem_append_right _ member)
  · intro legible part member
    rcases List.mem_append.mp member with own | others
    · simp only [List.mem_cons, List.not_mem_nil, or_false] at own
      rcases own with rfl | rfl | rfl | rfl
      · trivial
      · trivial
      · trivial
      · exact type
    · exact legible part others

/-- **Several elements, with the same separator between them.** -/
theorem separated_intercalate {α β : Type} {element : List Char → β → Prop} {form : α → List Char}
    {value : α → β} {comma : List Char} (mark : Mark ',' comma) {items : List α}
    (some : items ≠ []) (each : ∀ item ∈ items, element (form item) (value item)) :
    Separated element (comma.intercalate (items.map form)) (items.map value) := by
  induction items with
  | nil => exact absurd rfl some
  | cons item rest hypothesis =>
    have first := each item List.mem_cons_self
    cases rest with
    | nil =>
      rw [List.map_cons, List.map_nil, List.intercalate_singleton]
      exact .last first
    | cons next others =>
      have later := hypothesis (List.cons_ne_nil _ _)
        fun other member => each other (List.mem_cons_of_mem _ member)
      simp only [List.map_cons, List.intercalate_cons_cons, List.append_assoc] at later ⊢
      exact .more first mark later

theorem member_spelled {part : String × EventPart}
    (plain : ∀ c ∈ part.1.toList, isUnescaped c = true) (legible : part.2.Legible) :
    Member (memberChars part) (part.1, part.2.json) := by
  have spelled := Member.mk (word_spelled plain) (Mark.alone ':') (part_spelled legible)
  rwa [String.ofList_toList] at spelled

/-- **A record that is legible is spelled.** -/
theorem record_spelled {record : TraceRecord} (legible : record.event.Legible) :
    Value (jsonObject record).toList record.json := by
  have all := record.parts_legible.mpr legible
  rw [jsonObject_toList]
  exact .object (Mark.alone _) (separated_intercalate (Mark.alone ',') (List.cons_ne_nil _ _)
    fun part member => member_spelled (record.names_plain member) (all part member))
    (Mark.alone _)

theorem array_spelled (pretty : Bool) {records : List TraceRecord}
    (legible : ∀ record ∈ records, record.event.Legible) :
    Spells (jsonArray pretty records).toList (.array (records.map TraceRecord.json)) := by
  refine ⟨[], (jsonArray pretty records).toList, [], blank_nil, ?_, blank_nil, ?_⟩
  · rw [jsonArray_toList]
    cases records with
    | nil => exact .emptyArray (arrayOpening_mark pretty) (arrayClosing_mark pretty)
    | cons record rest =>
      exact .array (arrayOpening_mark pretty) (separated_intercalate (arraySeparator_mark pretty)
        (List.cons_ne_nil _ _) fun other member => record_spelled (legible other member))
        (arrayClosing_mark pretty)
  · rw [List.append_nil, List.nil_append]

/-! ### Strings that are read are legible -/

theorem readChars_escapeJson {c : Char} {rest : List Char} {fuel : Nat}
    {found : List Char × List Char} (reads : readChars fuel (escapeJson c ++ rest) = some found) :
    EventPart.LegibleChar c ∧ ∃ less others, readChars less rest = some others := by
  cases fuel with
  | zero => cases reads
  | succ fuel =>
    -- a character that is escaped is legible, and is read as its escape
    have escaped {letter d : Char} (named : shortEscape letter = some d)
        (reads : readChars (fuel + 1) ('\\' :: letter :: rest) = some found) :
        ∃ less others, readChars less rest = some others := by
      have escape : readEscape (letter :: rest) = some (d, rest) :=
        readEscape_iff.mpr ⟨[letter], .short named, rfl⟩
      rw [readChars, if_neg (by decide), if_pos rfl, escape] at reads
      obtain ⟨_, same, reads⟩ := Option.bind_eq_some_iff.mp reads
      cases same
      obtain ⟨others, later, _⟩ := Option.bind_eq_some_iff.mp reads
      exact ⟨fuel, others, later⟩
    unfold escapeJson at reads
    split at reads
    · exact ⟨Or.inl (by decide), escaped rfl reads⟩
    · exact ⟨Or.inl (by decide), escaped rfl reads⟩
    · exact ⟨Or.inr (Or.inl rfl), escaped rfl reads⟩
    · exact ⟨Or.inr (Or.inr (Or.inl rfl)), escaped rfl reads⟩
    · exact ⟨Or.inr (Or.inr (Or.inr rfl)), escaped rfl reads⟩
    · rename_i backslash quote _ _ _
      rw [List.singleton_append, readChars, if_neg quote, if_neg backslash] at reads
      split at reads
      · rename_i unescaped
        obtain ⟨others, later, _⟩ := Option.bind_eq_some_iff.mp reads
        exact ⟨Or.inl (isUnescaped_iff.mp unescaped).1, fuel, others, later⟩
      · cases reads

/-- **An escaped text that can be read is legible.** -/
theorem readChars_text {text rest : List Char} {fuel : Nat} {found : List Char × List Char}
    (reads : readChars fuel (text.flatMap escapeJson ++ rest) = some found) :
    ∀ c ∈ text, EventPart.LegibleChar c := by
  induction text generalizing fuel found with
  | nil => exact fun _ member => nomatch member
  | cons c others hypothesis =>
    rw [List.flatMap_cons, List.append_assoc] at reads
    obtain ⟨legible, less, found, later⟩ := readChars_escapeJson reads
    exact List.forall_mem_cons.mpr ⟨legible, hypothesis later⟩

/-! ### Records that are read are legible -/

/-- **A part that is read is legible.** -/
theorem part_demands (depth : Nat) (part : EventPart) :
    Demands (readValue depth) part.written.toList part.json part.Legible := by
  cases depth with
  | zero => exact fun _ _ _ _ _ found => by cases found
  | succ depth =>
    cases part with
    | number n =>
      exact .of_reads (fun _ => number_reads depth (number_spelled n)) fun _ _ _ _ _ => trivial
    | text s =>
      rw [EventPart.written, jsonString_toList]
      refine .of_reads (fun legible => ?_) fun before rest left blank found => ?_
      · have reads := string_reads depth (text_spelled legible)
        rwa [String.ofList_toList] at reads
      · rw [readValue_quoted depth blank] at found
        obtain ⟨_, string, _⟩ := Option.map_eq_some_iff.mp found
        obtain ⟨_, chars, _⟩ := Option.map_eq_some_iff.mp string
        exact readChars_text chars
    | word w =>
      rw [EventPart.written, word_toList]
      refine .of_reads (fun legible => ?_) fun before rest left blank found => ?_
      · have reads := string_reads depth (word_spelled legible)
        rwa [String.ofList_toList] at reads
      · rw [readValue_quoted depth blank] at found
        obtain ⟨⟨read, _⟩, string, same⟩ := Option.map_eq_some_iff.mp found
        cases same
        obtain ⟨inside, chars, same⟩ := readString_iff.mp string
        exact word_plain chars same.symm

theorem member_demands (depth : Nat) {part : String × EventPart}
    (plain : ∀ c ∈ part.1.toList, isUnescaped c = true) :
    Demands (readMember (readValue depth)) (memberChars part) (part.1, part.2.json)
      part.2.Legible := by
  intro before rest left blank ends found
  simp only [memberChars, List.cons_append, List.append_assoc, List.nil_append] at found
  rw [readMember_name _ blank (word_spelled plain) (skip_cons rfl _), String.ofList_toList] at found
  obtain ⟨⟨member, last⟩, value, same⟩ := Option.map_eq_some_iff.mp found
  cases same
  exact part_demands depth part.2 [] rest left blank_nil ends value

/-- **A record that is read is legible.** -/
theorem record_demands (depth : Nat) (record : TraceRecord) :
    Demands (readValue depth) (jsonObject record).toList record.json record.event.Legible := by
  intro before rest left blank ends found
  cases depth with
  | zero => cases found
  | succ depth =>
    have starts : skip (before ++ ((jsonObject record).toList ++ rest)) = '\x7b' ::
        ([','].intercalate (record.parts.map memberChars) ++ (['\x7d'] ++ rest)) := by
      rw [skip_append blank, jsonObject_toList, List.append_assoc, List.append_assoc]
      exact skip_cons rfl _
    rw [readValue_skip starts rfl, readValue_object] at found
    obtain ⟨⟨members, last⟩, list, same⟩ := Option.map_eq_some_iff.mp found
    cases same
    rw [← record.parts_legible]
    exact demands_list (Or.inr rfl) (Mark.alone ',') (Mark.alone '\x7d') (List.cons_ne_nil _ _)
      (fun part member => member_demands depth (record.names_plain member))
      blank_nil list

/-- **Traces as JSON texts.** For all records, on one line or on several, the text is a JSON text
with the values of the records in order, and with no other value, exactly if the strings of all
records are legible. No other records have these values. -/
theorem jsonArray_spells_iff (pretty : Bool) (records : List TraceRecord) :
    ((∀ value, Spells (jsonArray pretty records).toList value ↔
        value = .array (records.map TraceRecord.json)) ↔
      ∀ record ∈ records, record.event.Legible) ∧
      ∀ others : List TraceRecord,
        others.map TraceRecord.json = records.map TraceRecord.json → others = records := by
  refine ⟨⟨fun spells => ?_, fun legible value => ?_⟩, fun others same => ?_⟩
  · have reads := read_of_spells ((spells _).mpr rfl)
    obtain ⟨⟨_, left⟩, found, same⟩ := Option.map_eq_some_iff.mp reads
    cases same
    cases records with
    | nil => exact fun _ member => nomatch member
    | cons record rest =>
      obtain ⟨after, blank, marked⟩ := (arrayOpening_mark pretty).skips rfl
      rw [jsonArray_toList, readValue_skip (marked _) rfl, readValue_array] at found
      obtain ⟨⟨items, last⟩, list, same⟩ := Option.map_eq_some_iff.mp found
      cases same
      rw [← List.append_nil (arrayClosing pretty)] at list
      exact (demands_list (Or.inl rfl) (arraySeparator_mark pretty) (arrayClosing_mark pretty)
        (List.cons_ne_nil _ _) (fun other _ => record_demands _ other) blank list).1
  · have spelled := array_spelled pretty legible
    exact ⟨fun other => other.unique spelled, fun same => same ▸ spelled⟩
  · exact List.map_injective_iff.mpr (fun _ _ same => TraceRecord.json_injective same) same

/-- A trace of one record, in which the name of a rule has a control character. -/
def controlTrace : List TraceRecord :=
  [⟨0, 1, 0, .ruleStart "a\x01b"⟩]

/-- The control character has no escape and is written as it is, so the text is no JSON text. -/
theorem controlTrace_unspelled :
    ¬ ∃ value, Spells (jsonArray false controlTrace).toList value := by
  rintro ⟨value, spells⟩
  have unread : (read (jsonArray false controlTrace).toList).isSome = false := by decide
  rw [read_of_spells spells] at unread
  cases unread

end RuleNet
