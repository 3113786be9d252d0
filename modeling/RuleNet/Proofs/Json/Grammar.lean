/-
**The grammar of JSON texts** (RFC 8259).

The rules of the grammar, one by one, over texts as lists of characters. Beside what a text looks
like, each rule says what the text means.

* `Json`: values. A number is what its digits say, and an object keeps its members in order;
* `Number`, `Escape`, `Chars`: numbers, and what stands between the quotes of a string;
* `Value`, `Member`: values and the members of objects, over `Separated` elements;
* `Spells`: **the text is a JSON text with this value**.
-/

import Mathlib.Algebra.Group.Int.Defs
import Mathlib.Algebra.Group.Nat.Defs

namespace RuleNet

/-- **A JSON value.** -/
inductive Json where
  | null
  | bool (value : Bool)
  | number (value : Rat)
  | string (text : String)
  | array (items : List Json)
  | object (members : List (String × Json))

namespace Json

/-! ### Blanks -/

def isBlank (c : Char) : Bool :=
  c == ' ' || c == '\t' || c == '\n' || c == '\r'

def Blank (text : List Char) : Prop :=
  ∀ c ∈ text, isBlank c = true

theorem blank_of_all {text : List Char} (all : text.all isBlank = true) : Blank text :=
  List.all_eq_true.mp all

theorem blank_nil : Blank [] :=
  fun _ member => nomatch member

/-- A structural character, with the blanks around it. -/
def Mark (mark : Char) (text : List Char) : Prop :=
  ∃ before after, Blank before ∧ Blank after ∧ text = before ++ mark :: after

theorem Mark.alone (mark : Char) : Mark mark [mark] :=
  ⟨[], [], blank_nil, blank_nil, rfl⟩

/-! ### Numbers -/

def AllDigits (text : List Char) : Prop :=
  ∀ c ∈ text, c.isDigit = true

/-- The number that some digits denote. -/
def natural (digits : List Char) : Nat :=
  Nat.ofDigitChars 10 digits 0

/-- A whole number has no superfluous zero in front. -/
inductive Whole : List Char → Prop
  | zero : Whole ['0']
  | more {first : Char} {rest : List Char} (digit : first.isDigit = true) (nonzero : first ≠ '0')
      (others : AllDigits rest) : Whole (first :: rest)

/-- The digits after the point, if there is one. -/
inductive Fraction : List Char → List Char → Prop
  | none : Fraction [] []
  | some {digits : List Char} (exist : digits ≠ []) (all : AllDigits digits) :
      Fraction ('.' :: digits) digits

/-- The powers of ten by which a number is multiplied and divided. -/
inductive Exponent : List Char → Nat → Nat → Prop
  | none : Exponent [] 0 0
  | plain {e : Char} {digits : List Char} (letter : e = 'e' ∨ e = 'E') (exist : digits ≠ [])
      (all : AllDigits digits) : Exponent (e :: digits) (natural digits) 0
  | plus {e : Char} {digits : List Char} (letter : e = 'e' ∨ e = 'E') (exist : digits ≠ [])
      (all : AllDigits digits) : Exponent (e :: '+' :: digits) (natural digits) 0
  | minus {e : Char} {digits : List Char} (letter : e = 'e' ∨ e = 'E') (exist : digits ≠ [])
      (all : AllDigits digits) : Exponent (e :: '-' :: digits) 0 (natural digits)

/-- A number without its sign: its digits, and the powers of ten by which they are multiplied and
divided. -/
inductive Magnitude : List Char → Nat → Nat → Nat → Prop
  | mk {whole fraction digits exponent : List Char} {up down : Nat} (first : Whole whole)
      (second : Fraction fraction digits) (third : Exponent exponent up down) :
      Magnitude (whole ++ (fraction ++ exponent)) (natural (whole ++ digits)) up
        (digits.length + down)

def decimal (mantissa : Int) (up down : Nat) : Rat :=
  mkRat (mantissa * 10 ^ up) (10 ^ down)

/-- **A number.** -/
inductive Number : List Char → Rat → Prop
  | positive {text : List Char} {digits up down : Nat} (magnitude : Magnitude text digits up down) :
      Number text (decimal digits up down)
  | negative {text : List Char} {digits up down : Nat} (magnitude : Magnitude text digits up down) :
      Number ('-' :: text) (decimal (-digits) up down)

/-! ### Strings -/

/-- The characters with an escape of one letter. -/
def shortEscape (letter : Char) : Option Char :=
  match letter with
  | '"' => some '"'
  | '\\' => some '\\'
  | '/' => some '/'
  | 'b' => some '\x08'
  | 'f' => some '\x0c'
  | 'n' => some '\n'
  | 'r' => some '\r'
  | 't' => some '\t'
  | _ => none

def hexDigit (c : Char) : Option Nat :=
  if c.isDigit then some (c.toNat - '0'.toNat)
  else if 'a' ≤ c ∧ c ≤ 'f' then some (c.toNat - 'a'.toNat + 10)
  else if 'A' ≤ c ∧ c ≤ 'F' then some (c.toNat - 'A'.toNat + 10)
  else none

/-- The number that four hexadecimal digits denote. -/
def codeUnit (a b c d : Char) : Option Nat := do
  let a ← hexDigit a
  let b ← hexDigit b
  let c ← hexDigit c
  let d ← hexDigit d
  return ((a * 16 + b) * 16 + c) * 16 + d

def isHighSurrogate (code : Nat) : Bool :=
  0xd800 ≤ code && code < 0xdc00

def isLowSurrogate (code : Nat) : Bool :=
  0xdc00 ≤ code && code < 0xe000

/-- The character of two surrogates. -/
def paired (high low : Nat) : Char :=
  Char.ofNat (0x10000 + (high - 0xd800) * 0x400 + (low - 0xdc00))

/-- **What follows the backslash of an escape.** A surrogate that stands alone is no character. -/
inductive Escape : List Char → Char → Prop
  | short {letter c : Char} (named : shortEscape letter = some c) : Escape [letter] c
  | unit {a b c d : Char} {code : Nat} (read : codeUnit a b c d = some code)
      (notHigh : isHighSurrogate code = false) (notLow : isLowSurrogate code = false) :
      Escape ['u', a, b, c, d] (Char.ofNat code)
  | pair {a b c d e f g h : Char} {high low : Nat} (first : codeUnit a b c d = some high)
      (isHigh : isHighSurrogate high = true) (second : codeUnit e f g h = some low)
      (isLow : isLowSurrogate low = true) :
      Escape ['u', a, b, c, d, '\\', 'u', e, f, g, h] (paired high low)

/-- A character that stands for itself in a string: no control character, quote or backslash. -/
def isUnescaped (c : Char) : Bool :=
  0x20 ≤ c.toNat && c != '"' && c != '\\'

theorem isUnescaped_iff {c : Char} :
    isUnescaped c = true ↔ 0x20 ≤ c.toNat ∧ c ≠ '"' ∧ c ≠ '\\' := by
  simp only [isUnescaped, Bool.and_eq_true, decide_eq_true_eq, bne_iff_ne, and_assoc]

/-- **What stands between the quotes of a string.** -/
inductive Chars : List Char → List Char → Prop
  | nil : Chars [] []
  | plain {c : Char} {rest text : List Char} (unescaped : isUnescaped c = true)
      (others : Chars rest text) : Chars (c :: rest) (c :: text)
  | escaped {escape : List Char} {c : Char} {rest text : List Char} (escapes : Escape escape c)
      (others : Chars rest text) : Chars ('\\' :: (escape ++ rest)) (c :: text)

/-! ### Values -/

/-- One element or more, with commas between them. -/
inductive Separated {α : Type} (element : List Char → α → Prop) : List Char → List α → Prop
  | last {text : List Char} {item : α} (one : element text item) : Separated element text [item]
  | more {text comma others : List Char} {item : α} {items : List α} (one : element text item)
      (mark : Mark ',' comma) (rest : Separated element others items) :
      Separated element (text ++ (comma ++ others)) (item :: items)

mutual

/-- **A value.** -/
inductive Value : List Char → Json → Prop
  | null : Value ['n', 'u', 'l', 'l'] .null
  | true : Value ['t', 'r', 'u', 'e'] (.bool true)
  | false : Value ['f', 'a', 'l', 's', 'e'] (.bool false)
  | number {text : List Char} {value : Rat} (reads : Number text value) :
      Value text (.number value)
  | string {inside text : List Char} (chars : Chars inside text) :
      Value ('"' :: (inside ++ ['"'])) (.string (String.ofList text))
  | emptyArray {opening closing : List Char} (opens : Mark '[' opening)
      (closes : Mark ']' closing) : Value (opening ++ closing) (.array [])
  | array {opening inside closing : List Char} {items : List Json} (opens : Mark '[' opening)
      (elements : Separated Value inside items) (closes : Mark ']' closing) :
      Value (opening ++ (inside ++ closing)) (.array items)
  | emptyObject {opening closing : List Char} (opens : Mark '\x7b' opening)
      (closes : Mark '\x7d' closing) : Value (opening ++ closing) (.object [])
  | object {opening inside closing : List Char} {members : List (String × Json)}
      (opens : Mark '\x7b' opening) (elements : Separated Member inside members)
      (closes : Mark '\x7d' closing) : Value (opening ++ (inside ++ closing)) (.object members)

/-- A member of an object. -/
inductive Member : List Char → String × Json → Prop
  | mk {inside name colon text : List Char} {value : Json} (chars : Chars inside name)
      (mark : Mark ':' colon) (spelled : Value text value) :
      Member ('"' :: (inside ++ '"' :: (colon ++ text))) (String.ofList name, value)

end

/-- **The text is a JSON text with this value**: the value, with blanks around it. -/
def Spells (text : List Char) (value : Json) : Prop :=
  ∃ before inside after, Blank before ∧ Value inside value ∧ Blank after ∧
    text = before ++ (inside ++ after)

/-! ### Strings that stand for themselves -/

theorem codeUnit_hex {a b c d : Char} {code : Nat} (read : codeUnit a b c d = some code) :
    ∀ digit ∈ [a, b, c, d], (hexDigit digit).isSome = true := by
  unfold codeUnit at read
  cases first : hexDigit a with
  | none => simp [first] at read
  | some _ =>
    cases second : hexDigit b with
    | none => simp [first, second] at read
    | some _ =>
      cases third : hexDigit c with
      | none => simp [first, second, third] at read
      | some _ =>
        cases fourth : hexDigit d with
        | none => simp [first, second, third, fourth] at read
        | some _ => simp [first, second, third, fourth]

theorem hexDigit_quote : hexDigit '"' = none := by decide

/-- Only the escape of the quote has a quote in it. -/
theorem Escape.quote {escape : List Char} {c : Char} (escapes : Escape escape c)
    (member : '"' ∈ escape) : escape = ['"'] ∧ c = '"' := by
  have noQuote {a b c d : Char} {code : Nat} (read : codeUnit a b c d = some code) :
      '"' ∉ [a, b, c, d] := by
    intro listed
    have digit := codeUnit_hex read '"' listed
    rw [hexDigit_quote] at digit
    cases digit
  cases escapes with
  | @short letter c named =>
    cases List.mem_singleton.mp member
    exact ⟨rfl, (Option.some.inj named).symm⟩
  | unit read _ _ =>
    refine absurd ?_ (noQuote read)
    simpa using member
  | pair first _ second _ =>
    have both := And.intro (noQuote first) (noQuote second)
    simp only [List.mem_cons, List.not_mem_nil, or_false, not_or] at both member
    grind

theorem Escape.ne_nil {escape : List Char} {c : Char} (escapes : Escape escape c) :
    escape ≠ [] := by
  cases escapes <;> exact List.cons_ne_nil _ _

theorem append_eq_quote {used rest before after : List Char}
    (same : used ++ rest = before ++ '"' :: after) :
    (∃ more, before = used ++ more ∧ rest = more ++ '"' :: after) ∨ '"' ∈ used := by
  rcases List.append_eq_append_iff.mp same with inside | ⟨more, rfl, ended⟩
  · exact Or.inl inside
  · cases more with
    | nil => exact Or.inl ⟨[], by rw [List.append_nil, List.append_nil], ended.symm⟩
    | cons c others =>
      cases (List.cons.inj ended).1
      exact Or.inr (List.mem_append_right _ List.mem_cons_self)

/-- **A string up to the first quote of its text.** It is what stands there, or shorter, since
escapes are longer than what they say, or it says a quote itself before it is as long. -/
theorem Chars.upToQuote {inside text before left rest : List Char} (chars : Chars inside text)
    (noQuote : '"' ∉ before) (same : inside ++ '"' :: left = before ++ '"' :: rest) :
    (text = before ∧ ∀ c ∈ before, isUnescaped c = true) ∨ text.length < before.length ∨
      '"' ∈ text.take before.length := by
  induction chars generalizing before with
  | nil =>
    cases before with
    | nil => exact Or.inl ⟨rfl, fun _ member => nomatch member⟩
    | cons c others =>
      cases (List.cons.inj same).1
      exact absurd List.mem_cons_self noQuote
  | @plain c rest' text unescaped _ hypothesis =>
    cases before with
    | nil => exact absurd (List.cons.inj same).1 (isUnescaped_iff.mp unescaped).2.1
    | cons b others =>
      obtain ⟨rfl, later⟩ := List.cons.inj same
      rcases hypothesis (fun member => noQuote (List.mem_cons_of_mem _ member)) later with
        ⟨rfl, all⟩ | shorter | quoted
      · exact Or.inl ⟨rfl, List.forall_mem_cons.mpr ⟨unescaped, all⟩⟩
      · exact Or.inr (Or.inl (Nat.succ_lt_succ shorter))
      · exact Or.inr (Or.inr (List.mem_cons_of_mem _ quoted))
  | @escaped escape c rest' text escapes _ hypothesis =>
    cases before with
    | nil => exact absurd (List.cons.inj same).1 (by decide)
    | cons b others =>
      have noQuote : '"' ∉ others := fun member => noQuote (List.mem_cons_of_mem _ member)
      have later : escape ++ (rest' ++ '"' :: left) = others ++ '"' :: rest := by
        rw [← List.append_assoc]
        exact (List.cons.inj same).2
      rcases append_eq_quote later with ⟨more, rfl, ended⟩ | quoted
      · -- the escape ends before the quote, so that the string falls behind its text
        have longer : 0 < escape.length := List.length_pos_iff.mpr escapes.ne_nil
        rcases hypothesis (fun member => noQuote (List.mem_append_right _ member)) ended with
          ⟨rfl, _⟩ | shorter | quoted
        · refine Or.inr (Or.inl ?_)
          simp only [List.length_cons, List.length_append]
          omega
        · refine Or.inr (Or.inl ?_)
          simp only [List.length_cons, List.length_append]
          omega
        · refine Or.inr (Or.inr ?_)
          rw [List.length_cons, List.take_succ_cons]
          refine List.mem_cons_of_mem _ (List.take_subset_take_left text ?_ quoted)
          rw [List.length_append]
          omega
      · obtain ⟨_, rfl⟩ := escapes.quote quoted
        exact Or.inr (Or.inr List.mem_cons_self)

/-- The part of a word before its first quote, or before the quote that follows it. -/
theorem exists_upToQuote (word rest : List Char) :
    ∃ before more tail, '"' ∉ before ∧ word = before ++ more ∧
      word ++ '"' :: rest = before ++ '"' :: tail := by
  induction word with
  | nil => exact ⟨[], [], rest, List.not_mem_nil, rfl, rfl⟩
  | cons c others hypothesis =>
    by_cases quote : c = '"'
    · exact ⟨[], c :: others, others ++ '"' :: rest, List.not_mem_nil, rfl, by rw [quote]; rfl⟩
    · obtain ⟨before, more, tail, noQuote, rfl, same⟩ := hypothesis
      refine ⟨c :: before, more, tail, ?_, rfl, congrArg (c :: ·) same⟩
      exact fun member => (List.mem_cons.mp member).elim (fun own => quote own.symm) noQuote

/-- **A word that is read as itself needs no escapes.** -/
theorem word_plain {word inside left rest : List Char} (chars : Chars inside word)
    (same : inside ++ '"' :: left = word ++ '"' :: rest) :
    ∀ c ∈ word, isUnescaped c = true := by
  obtain ⟨before, more, tail, noQuote, whole, upTo⟩ := exists_upToQuote word rest
  rcases chars.upToQuote noQuote (same.trans upTo) with ⟨rfl, plain⟩ | shorter | quoted
  · exact plain
  · rw [whole, List.length_append] at shorter
    omega
  · rw [whole, List.take_left] at quoted
    exact absurd quoted noQuote

end Json

end RuleNet
