/-
**JSON texts have one value.**

A reader goes over a text from left to right and finds the value of every text of the grammar. So
no text has two. The reader is only there for texts of the grammar, and does not refuse all others;
of strings it takes exactly those of the grammar.

* `readString`, `readNumber`, `readList`, `readValue`: the reader;
* `readString_iff`: **strings are read as the grammar says**;
* `Reads`: a reader finds a value, whatever stands before and after it;
* `Demands`: a reader that finds the value of a text has found a condition met;
* `readValue_reads`, `read_of_spells`: **every text of the grammar is read**;
* `Spells.unique`: **a text has at most one value**.
-/

import RuleNet.Proofs.Json.Grammar

namespace RuleNet

namespace Json

/-! ### The reader -/

/-- The text after its leading blanks. -/
def skip (text : List Char) : List Char :=
  text.dropWhile isBlank

/-- The text after a structural character. -/
def expect (mark : Char) (text : List Char) : Option (List Char) :=
  match skip text with
  | [] => none
  | c :: rest => if c = mark then some rest else none

/-- The second of two surrogates. -/
def readLow (high : Nat) (text : List Char) : Option (Char × List Char) :=
  match text with
  | s :: u :: e :: f :: g :: h :: rest => do
    let low ← codeUnit e f g h
    if s = '\\' ∧ u = 'u' ∧ isLowSurrogate low then some (paired high low, rest) else none
  | _ => none

def readUnit (text : List Char) : Option (Char × List Char) :=
  match text with
  | a :: b :: c :: d :: rest => do
    let code ← codeUnit a b c d
    if isHighSurrogate code then readLow code rest
    else if isLowSurrogate code then none
    else some (Char.ofNat code, rest)
  | _ => none

/-- What follows a backslash. -/
def readEscape (text : List Char) : Option (Char × List Char) :=
  match text with
  | [] => none
  | letter :: rest =>
    if letter = 'u' then readUnit rest else (shortEscape letter).map fun c => (c, rest)

/-- The inside of a string, with the quote that ends it. -/
def readChars : Nat → List Char → Option (List Char × List Char)
  | 0, _ => none
  | _ + 1, [] => none
  | fuel + 1, c :: rest =>
    if c = '"' then some ([], rest)
    else if c = '\\' then do
      let (d, rest) ← readEscape rest
      let (text, left) ← readChars fuel rest
      return (d :: text, left)
    else if isUnescaped c then do
      let (text, left) ← readChars fuel rest
      return (c :: text, left)
    else none

/-- A string, after its first quote. -/
def readString (text : List Char) : Option (String × List Char) :=
  (readChars (text.length + 1) text).map fun (inside, left) => (String.ofList inside, left)

def readFraction (text : List Char) : List Char × List Char :=
  match text with
  | [] => ([], [])
  | c :: rest =>
    if c = '.' then (rest.takeWhile Char.isDigit, rest.dropWhile Char.isDigit) else ([], c :: rest)

/-- The digits of an exponent, with its sign. -/
def readPower (text : List Char) : (Nat × Nat) × List Char :=
  match text with
  | [] => ((0, 0), [])
  | c :: rest =>
    if c = '+' then ((natural (rest.takeWhile Char.isDigit), 0), rest.dropWhile Char.isDigit)
    else if c = '-' then ((0, natural (rest.takeWhile Char.isDigit)), rest.dropWhile Char.isDigit)
    else ((natural (text.takeWhile Char.isDigit), 0), text.dropWhile Char.isDigit)

def readExponent (text : List Char) : (Nat × Nat) × List Char :=
  match text with
  | [] => ((0, 0), [])
  | c :: rest => if c = 'e' ∨ c = 'E' then readPower rest else ((0, 0), c :: rest)

def readMagnitude (text : List Char) : (Nat × Nat × Nat) × List Char :=
  let whole := text.takeWhile Char.isDigit
  let (digits, rest) := readFraction (text.dropWhile Char.isDigit)
  let ((up, down), left) := readExponent rest
  ((natural (whole ++ digits), up, digits.length + down), left)

def readNumber (text : List Char) : Rat × List Char :=
  match text with
  | [] => (0, [])
  | c :: rest =>
    if c = '-' then
      let ((digits, up, down), left) := readMagnitude rest
      (decimal (-digits) up down, left)
    else
      let ((digits, up, down), left) := readMagnitude text
      (decimal digits up down, left)

section

variable {α : Type}

/-- Elements with commas between them, and the character that closes them. -/
def readSeparated (element : List Char → Option (α × List Char)) (close : Char) :
    Nat → List Char → Option (List α × List Char)
  | 0, _ => none
  | fuel + 1, text => do
    let (item, rest) ← element text
    match expect ',' rest with
    | some more => do
      let (items, left) ← readSeparated element close fuel more
      return (item :: items, left)
    | none => do
      let left ← expect close rest
      return ([item], left)

/-- No element, or several. -/
def readList (element : List Char → Option (α × List Char)) (close : Char) (text : List Char) :
    Option (List α × List Char) :=
  match readSeparated element close text.length text with
  | some found => some found
  | none => (expect close text).map fun left => ([], left)

end

def readMember (value : List Char → Option (Json × List Char)) (text : List Char) :
    Option ((String × Json) × List Char) := do
  let rest ← expect '"' text
  let (name, rest) ← readString rest
  let rest ← expect ':' rest
  let (member, left) ← value rest
  return ((name, member), left)

/-- The rest of a literal whose first letter was read. -/
def readLiteral (word : List Char) (value : Json) (text : List Char) : Option (Json × List Char) :=
  if word.isPrefixOf text then some (value, text.drop word.length) else none

/-- **A value**, of which as much is read as the depth allows. -/
def readValue : Nat → List Char → Option (Json × List Char)
  | 0, _ => none
  | depth + 1, text =>
    match skip text with
    | [] => none
    | c :: rest =>
      if c = '-' ∨ c.isDigit then some ((readNumber (c :: rest)).map Json.number id)
      else if c = '"' then (readString rest).map fun (inside, left) => (.string inside, left)
      else if c = '[' then
        (readList (readValue depth) ']' rest).map fun (items, left) => (.array items, left)
      else if c = '\x7b' then
        (readList (readMember (readValue depth)) '\x7d' rest).map fun (members, left) =>
          (.object members, left)
      else if c = 'n' then readLiteral ['u', 'l', 'l'] .null rest
      else if c = 't' then readLiteral ['r', 'u', 'e'] (.bool true) rest
      else if c = 'f' then readLiteral ['a', 'l', 's', 'e'] (.bool false) rest
      else none

/-- **The reader**, for whole texts. -/
def read (text : List Char) : Option Json :=
  (readValue (text.length + 1) text).map Prod.fst

/-! ### Blanks and structural characters -/

theorem skip_append {before : List Char} (blank : Blank before) (text : List Char) :
    skip (before ++ text) = skip text :=
  List.dropWhile_append_of_pos blank

theorem skip_cons {c : Char} (solid : isBlank c = false) (text : List Char) :
    skip (c :: text) = c :: text :=
  List.dropWhile_cons_of_neg (by rw [solid]; exact Bool.false_ne_true)

theorem expect_found {text rest : List Char} {mark : Char} (starts : skip text = mark :: rest) :
    expect mark text = some rest := by
  rw [expect, starts]
  exact if_pos rfl

theorem expect_other {text rest : List Char} {c mark : Char} (starts : skip text = c :: rest)
    (other : c ≠ mark) : expect mark text = none := by
  rw [expect, starts]
  exact if_neg other

/-- What is left of a structural character is blank. -/
theorem Mark.skips {mark : Char} {text : List Char} (is : Mark mark text)
    (solid : isBlank mark = false) :
    ∃ after, Blank after ∧ ∀ rest, skip (text ++ rest) = mark :: (after ++ rest) := by
  obtain ⟨before, after, blank, blankAfter, rfl⟩ := is
  refine ⟨after, blankAfter, fun rest => ?_⟩
  rw [List.append_assoc, skip_append blank, List.cons_append, skip_cons solid]

/-- A value ends here: a blank follows, or a comma or a closing bracket, or nothing. -/
def Ends (rest : List Char) : Prop :=
  ∀ c ∈ rest.head?, isBlank c = true ∨ c = ',' ∨ c = ']' ∨ c = '\x7d'

theorem Mark.ends {mark : Char} {text : List Char} (is : Mark mark text)
    (separates : mark = ',' ∨ mark = ']' ∨ mark = '\x7d') (rest : List Char) :
    Ends (text ++ rest) := by
  obtain ⟨before, after, blank, _, rfl⟩ := is
  intro c first
  cases before with
  | nil =>
    cases Option.mem_some.mp first
    exact Or.inr separates
  | cons b others =>
    cases Option.mem_some.mp first
    exact Or.inl (blank c List.mem_cons_self)

/-! ### Strings -/

theorem readLow_sound {high : Nat} {text left : List Char} {c : Char}
    (reads : readLow high text = some (c, left)) :
    ∃ e f g h low, text = '\\' :: 'u' :: e :: f :: g :: h :: left ∧
      codeUnit e f g h = some low ∧ isLowSurrogate low = true ∧ c = paired high low := by
  unfold readLow at reads
  split at reads
  · obtain ⟨low, second, checks⟩ := Option.bind_eq_some_iff.mp reads
    split at checks
    · rename_i both
      obtain ⟨same, rfl⟩ := Prod.mk.inj (Option.some.inj checks)
      exact ⟨_, _, _, _, low, by rw [both.1, both.2.1], second, both.2.2, same.symm⟩
    · cases checks
  · cases reads

theorem readUnit_sound {text left : List Char} {c : Char}
    (reads : readUnit text = some (c, left)) :
    ∃ used, Escape ('u' :: used) c ∧ text = used ++ left := by
  unfold readUnit at reads
  split at reads
  · obtain ⟨code, first, checks⟩ := Option.bind_eq_some_iff.mp reads
    split at checks
    · rename_i isHigh
      obtain ⟨e, f, g, h, low, rfl, second, isLow, same⟩ := readLow_sound checks
      rw [same]
      exact ⟨_, .pair first isHigh second isLow, rfl⟩
    · rename_i notHigh
      split at checks
      · cases checks
      · rename_i notLow
        cases checks
        exact ⟨_, .unit first (Bool.eq_false_iff.mpr notHigh) (Bool.eq_false_iff.mpr notLow), rfl⟩
  · cases reads

/-- **Escapes are read as the grammar says.** -/
theorem readEscape_iff {text left : List Char} {c : Char} :
    readEscape text = some (c, left) ↔ ∃ used, Escape used c ∧ text = used ++ left := by
  constructor
  · intro reads
    unfold readEscape at reads
    split at reads
    · cases reads
    · split at reads
      · rename_i isUnit
        obtain ⟨used, escape, rfl⟩ := readUnit_sound reads
        exact ⟨_, escape, by rw [isUnit]; rfl⟩
      · obtain ⟨d, named, same⟩ := Option.map_eq_some_iff.mp reads
        cases same
        exact ⟨_, .short named, rfl⟩
  · rintro ⟨used, escape, rfl⟩
    cases escape with
    | @short letter c named =>
      have other : letter ≠ 'u' := by
        rintro rfl
        cases named
      simp [readEscape, other, named]
    | unit read notHigh notLow => simp [readEscape, readUnit, read, notHigh, notLow]
    | pair first isHigh second isLow =>
      simp [readEscape, readUnit, readLow, first, isHigh, second, isLow]

theorem readChars_sound {fuel : Nat} {input text left : List Char}
    (reads : readChars fuel input = some (text, left)) :
    ∃ inside, Chars inside text ∧ input = inside ++ '"' :: left := by
  induction fuel generalizing input text with
  | zero => cases reads
  | succ fuel hypothesis =>
    cases input with
    | nil => cases reads
    | cons c rest =>
      rw [readChars] at reads
      split at reads
      · rename_i quote
        cases reads
        exact ⟨[], .nil, by rw [quote]; rfl⟩
      · split at reads
        · rename_i backslash
          obtain ⟨⟨d, others⟩, escape, reads⟩ := Option.bind_eq_some_iff.mp reads
          obtain ⟨⟨more, last⟩, later, same⟩ := Option.bind_eq_some_iff.mp reads
          cases same
          obtain ⟨inside, chars, rfl⟩ := hypothesis later
          obtain ⟨used, escapes, rfl⟩ := readEscape_iff.mp escape
          refine ⟨'\\' :: (used ++ inside), .escaped escapes chars, ?_⟩
          rw [backslash, List.cons_append, List.append_assoc]
        · split at reads
          · rename_i unescaped
            obtain ⟨⟨more, last⟩, later, same⟩ := Option.bind_eq_some_iff.mp reads
            cases same
            obtain ⟨inside, chars, rfl⟩ := hypothesis later
            exact ⟨c :: inside, .plain unescaped chars, rfl⟩
          · cases reads

theorem readChars_complete {inside text : List Char} (chars : Chars inside text) {fuel : Nat}
    (enough : inside.length < fuel) (left : List Char) :
    readChars fuel (inside ++ '"' :: left) = some (text, left) := by
  induction chars generalizing fuel with
  | nil =>
    obtain ⟨fuel, rfl⟩ := Nat.exists_eq_succ_of_ne_zero (Nat.ne_zero_of_lt enough)
    rfl
  | @plain c rest text unescaped _ hypothesis =>
    obtain ⟨fuel, rfl⟩ := Nat.exists_eq_succ_of_ne_zero (Nat.ne_zero_of_lt enough)
    obtain ⟨_, quote, backslash⟩ := isUnescaped_iff.mp unescaped
    rw [List.cons_append, readChars, if_neg quote, if_neg backslash, if_pos unescaped,
      hypothesis (Nat.lt_of_succ_lt_succ enough)]
    rfl
  | @escaped escape c rest text escapes _ hypothesis =>
    obtain ⟨fuel, rfl⟩ := Nat.exists_eq_succ_of_ne_zero (Nat.ne_zero_of_lt enough)
    have found : readEscape (escape ++ (rest ++ '"' :: left)) = some (c, rest ++ '"' :: left) :=
      readEscape_iff.mpr ⟨escape, escapes, rfl⟩
    have shorter : rest.length < fuel := by
      simp only [List.length_cons, List.length_append] at enough
      omega
    rw [List.cons_append, readChars, if_neg (by decide), if_pos rfl, List.append_assoc, found]
    simp only [Option.bind_eq_bind, Option.bind_some, hypothesis shorter, Option.pure_def]

/-- **Strings are read as the grammar says.** -/
theorem readString_iff {input left : List Char} {text : String} :
    readString input = some (text, left) ↔
      ∃ inside, Chars inside text.toList ∧ input = inside ++ '"' :: left := by
  unfold readString
  constructor
  · intro reads
    obtain ⟨⟨found, rest⟩, reads, same⟩ := Option.map_eq_some_iff.mp reads
    cases same
    rw [String.toList_ofList]
    exact readChars_sound reads
  · rintro ⟨inside, chars, rfl⟩
    have enough : inside.length < (inside ++ '"' :: left).length + 1 := by
      rw [List.length_append]
      omega
    rw [readChars_complete chars enough]
    exact congrArg (fun found => some (found, left)) String.ofList_toList

/-! ### Numbers -/

/-- What follows some digits is no digit. -/
def Stops (rest : List Char) : Prop :=
  ∀ c ∈ rest.head?, c.isDigit = false

theorem takeWhile_digits {digits rest : List Char} (all : AllDigits digits) (stops : Stops rest) :
    (digits ++ rest).takeWhile Char.isDigit = digits := by
  rw [List.takeWhile_append_of_pos all]
  cases rest with
  | nil => exact List.append_nil _
  | cons c others =>
    rw [List.takeWhile_cons_of_neg (by rw [stops c rfl]; exact Bool.false_ne_true),
      List.append_nil]

theorem dropWhile_digits {digits rest : List Char} (all : AllDigits digits) (stops : Stops rest) :
    (digits ++ rest).dropWhile Char.isDigit = rest := by
  rw [List.dropWhile_append_of_pos all]
  cases rest with
  | nil => rfl
  | cons c others =>
    rw [List.dropWhile_cons_of_neg (by rw [stops c rfl]; exact Bool.false_ne_true)]

/-- What follows a value does not go on with a number. -/
theorem Ends.first {rest : List Char} (ends : Ends rest) {c : Char} (first : c ∈ rest.head?) :
    c.isDigit = false ∧ c ≠ '.' ∧ c ≠ 'e' ∧ c ≠ 'E' := by
  have one : c = ' ' ∨ c = '\t' ∨ c = '\n' ∨ c = '\r' ∨ c = ',' ∨ c = ']' ∨ c = '\x7d' := by
    simpa only [isBlank, Bool.or_eq_true, beq_iff_eq, or_assoc] using ends c first
  rcases one with rfl | rfl | rfl | rfl | rfl | rfl | rfl <;> decide

theorem Ends.stops {rest : List Char} (ends : Ends rest) : Stops rest :=
  fun _ first => (ends.first first).1

section

variable {text fraction digits rest : List Char} {up down : Nat}

theorem Exponent.first (exponent : Exponent text up down) (ends : Ends rest) :
    ∀ c ∈ (text ++ rest).head?, c.isDigit = false ∧ c ≠ '.' := by
  intro c first
  cases exponent with
  | none => exact ⟨(ends.first first).1, (ends.first first).2.1⟩
  | plain letter _ _ | plus letter _ _ | minus letter _ _ =>
    cases Option.mem_some.mp first
    rcases letter with rfl | rfl <;> decide

theorem readPower_digits (exist : digits ≠ []) (all : AllDigits digits) (ends : Ends rest) :
    readPower (digits ++ rest) = ((natural digits, 0), rest) := by
  cases digits with
  | nil => exact absurd rfl exist
  | cons c others =>
    have digit : c.isDigit = true := all c List.mem_cons_self
    have plus : c ≠ '+' := by
      rintro rfl
      cases digit
    have minus : c ≠ '-' := by
      rintro rfl
      cases digit
    show readPower (c :: (others ++ rest)) = _
    rw [readPower, if_neg plus, if_neg minus, ← List.cons_append,
      takeWhile_digits all ends.stops, dropWhile_digits all ends.stops]

theorem readExponent_complete (exponent : Exponent text up down) (ends : Ends rest) :
    readExponent (text ++ rest) = ((up, down), rest) := by
  cases exponent with
  | none =>
    cases rest with
    | nil => rfl
    | cons c others =>
      obtain ⟨_, _, small, large⟩ := ends.first (c := c) rfl
      rw [List.nil_append, readExponent, if_neg (not_or.mpr ⟨small, large⟩)]
  | plain letter exist all =>
    rw [List.cons_append, readExponent, if_pos letter, readPower_digits exist all ends]
  | plus letter exist all =>
    rw [List.cons_append, readExponent, if_pos letter, List.cons_append, readPower, if_pos rfl,
      takeWhile_digits all ends.stops, dropWhile_digits all ends.stops]
  | minus letter exist all =>
    rw [List.cons_append, readExponent, if_pos letter, List.cons_append, readPower,
      if_neg (by decide), if_pos rfl, takeWhile_digits all ends.stops,
      dropWhile_digits all ends.stops]

theorem Fraction.stops (is : Fraction fraction digits) (exponent : Exponent text up down)
    (ends : Ends rest) : Stops (fraction ++ (text ++ rest)) := by
  intro c first
  cases is with
  | none => exact (exponent.first ends c first).1
  | some _ _ =>
    cases Option.mem_some.mp first
    rfl

theorem readFraction_complete (is : Fraction fraction digits) (exponent : Exponent text up down)
    (ends : Ends rest) : readFraction (fraction ++ (text ++ rest)) = (digits, text ++ rest) := by
  cases is with
  | none =>
    rw [List.nil_append]
    cases follows : text ++ rest with
    | nil => rfl
    | cons c others =>
      have first := exponent.first ends c
      rw [follows] at first
      rw [readFraction, if_neg (first rfl).2]
  | some exist all =>
    have stops : Stops (text ++ rest) := fun c first => (exponent.first ends c first).1
    rw [List.cons_append, readFraction, if_pos rfl, takeWhile_digits all stops,
      dropWhile_digits all stops]

theorem Whole.allDigits {whole : List Char} (is : Whole whole) : AllDigits whole ∧ whole ≠ [] := by
  cases is with
  | zero => exact ⟨fun c member => by cases List.mem_singleton.mp member; rfl, by decide⟩
  | more digit _ others =>
    exact ⟨List.forall_mem_cons.mpr ⟨digit, others⟩, List.cons_ne_nil _ _⟩

theorem readMagnitude_complete {mantissa : Nat} (magnitude : Magnitude text mantissa up down)
    (ends : Ends rest) : readMagnitude (text ++ rest) = ((mantissa, up, down), rest) := by
  cases magnitude with
  | mk whole fraction exponent =>
    have stops := fraction.stops exponent ends
    simp only [readMagnitude, List.append_assoc, takeWhile_digits whole.allDigits.1 stops,
      dropWhile_digits whole.allDigits.1 stops, readFraction_complete fraction exponent ends,
      readExponent_complete exponent ends]

theorem Magnitude.first {mantissa : Nat} (magnitude : Magnitude text mantissa up down) :
    ∃ c others, text = c :: others ∧ c.isDigit = true := by
  cases magnitude with
  | @mk whole _ _ _ _ _ first _ _ =>
    obtain ⟨all, exist⟩ := first.allDigits
    cases whole with
    | nil => exact absurd rfl exist
    | cons c others => exact ⟨c, _, rfl, all c List.mem_cons_self⟩

/-- **Numbers are read as the grammar says.** -/
theorem readNumber_complete {value : Rat} (number : Number text value) (ends : Ends rest) :
    readNumber (text ++ rest) = (value, rest) := by
  cases number with
  | positive magnitude =>
    obtain ⟨c, others, rfl, digit⟩ := magnitude.first
    have minus : c ≠ '-' := by
      rintro rfl
      cases digit
    have reads := readMagnitude_complete magnitude ends
    rw [List.cons_append] at reads
    rw [List.cons_append, readNumber, if_neg minus, reads]
  | negative magnitude =>
    rw [List.cons_append, readNumber, if_pos rfl, readMagnitude_complete magnitude ends]

theorem Number.first {value : Rat} (number : Number text value) :
    ∃ c others, text = c :: others ∧ (c = '-' ∨ c.isDigit = true) := by
  cases number with
  | positive magnitude =>
    obtain ⟨c, others, same, digit⟩ := magnitude.first
    exact ⟨c, others, same, Or.inr digit⟩
  | negative _ => exact ⟨_, _, rfl, Or.inl rfl⟩

end

/-! ### Elements -/

section

variable {α β : Type}

/-- **The reader finds the value of the text**, whatever stands around it. Blanks that follow may
be taken along. -/
def Reads (reader : List Char → Option (α × List Char)) (text : List Char) (value : α) : Prop :=
  ∀ before rest, Blank before → Ends rest →
    ∃ left, reader (before ++ (text ++ rest)) = some (value, left) ∧ skip left = skip rest

variable {element : List Char → α → Prop} {reader : List Char → Option (α × List Char)}
  {text : List Char} {items : List α} {close : Char}

theorem Separated.mono {other : List Char → α → Prop} (elements : Separated element text items)
    (weaker : ∀ part item, part.length ≤ text.length → element part item → other part item) :
    Separated other text items := by
  induction elements with
  | last one => exact .last (weaker _ _ (Nat.le_refl _) one)
  | more one mark _ hypothesis =>
    simp only [List.length_append] at weaker
    exact .more (weaker _ _ (by omega) one) mark
      (hypothesis fun part item shorter => weaker part item (by omega))

theorem Separated.length_le (elements : Separated element text items) :
    items.length ≤ text.length + 1 := by
  induction elements with
  | last _ => exact Nat.le_add_left _ _
  | more _ mark _ hypothesis =>
    obtain ⟨before, after, _, _, rfl⟩ := mark
    simp only [List.length_cons, List.length_append]
    omega

/-- A closing bracket. -/
def Closes (close : Char) : Prop :=
  close = ']' ∨ close = '\x7d'

theorem Closes.solid (closes : Closes close) : isBlank close = false := by
  rcases closes with rfl | rfl <;> rfl

theorem Closes.ne_comma (closes : Closes close) : close ≠ ',' := by
  rcases closes with rfl | rfl <;> decide

/-- **Separated elements are read**, one after the other. -/
theorem readSeparated_complete (closes : Closes close)
    (elements : Separated (Reads reader) text items) {closing : List Char}
    (mark : Mark close closing) {fuel : Nat} (enough : items.length ≤ fuel)
    {before : List Char} (blank : Blank before) (rest : List Char) :
    ∃ left, readSeparated reader close fuel (before ++ (text ++ (closing ++ rest))) =
        some (items, left) ∧ skip left = skip rest := by
  induction elements generalizing fuel before with
  | last one =>
    obtain ⟨fuel, rfl⟩ := Nat.exists_eq_succ_of_ne_zero (Nat.ne_zero_of_lt enough)
    obtain ⟨left, reads, same⟩ := one before (closing ++ rest) blank
      (mark.ends (Or.inr closes) rest)
    obtain ⟨after, blankAfter, marked⟩ := mark.skips closes.solid
    have ends : skip left = close :: (after ++ rest) :=
      same.trans (marked rest)
    refine ⟨after ++ rest, ?_, skip_append blankAfter rest⟩
    simp only [readSeparated, reads, Option.bind_eq_bind, Option.bind_some,
      expect_other ends closes.ne_comma, expect_found ends, Option.pure_def]
  | @more part comma others item items one separator _ hypothesis =>
    obtain ⟨fuel, rfl⟩ := Nat.exists_eq_succ_of_ne_zero (Nat.ne_zero_of_lt enough)
    obtain ⟨left, reads, same⟩ := one before (comma ++ (others ++ (closing ++ rest))) blank
      (separator.ends (Or.inl rfl) _)
    obtain ⟨after, blankAfter, marked⟩ := separator.skips rfl
    have goes : skip left = ',' :: (after ++ (others ++ (closing ++ rest))) :=
      same.trans (marked _)
    obtain ⟨last, later, ended⟩ := hypothesis (Nat.le_of_succ_le_succ enough) blankAfter
    refine ⟨last, ?_, ended⟩
    simp only [List.append_assoc, readSeparated, reads, Option.bind_eq_bind, Option.bind_some,
      expect_found goes, later, Option.pure_def]

/-- **A list with elements is read.** -/
theorem readList_complete (closes : Closes close)
    (elements : Separated (Reads reader) text items) {closing : List Char}
    (mark : Mark close closing) {before : List Char} (blank : Blank before) (rest : List Char) :
    ∃ left, readList reader close (before ++ (text ++ (closing ++ rest))) = some (items, left) ∧
      skip left = skip rest := by
  have enough : items.length ≤ (before ++ (text ++ (closing ++ rest))).length := by
    have bound := elements.length_le
    obtain ⟨front, after, _, _, rfl⟩ := mark
    simp only [List.length_append, List.length_cons]
    omega
  obtain ⟨left, reads, same⟩ := readSeparated_complete closes elements mark enough blank rest
  exact ⟨left, by rw [readList, reads], same⟩

/-- **A list without elements is read**, by a reader that does not take the bracket for one. -/
theorem readList_empty (closes : Closes close)
    (refuses : ∀ input more, skip input = close :: more → reader input = none)
    {closing : List Char} (mark : Mark close closing) {before : List Char} (blank : Blank before)
    (rest : List Char) :
    ∃ left, readList reader close (before ++ (closing ++ rest)) = some ([], left) ∧
      skip left = skip rest := by
  obtain ⟨after, blankAfter, marked⟩ := mark.skips closes.solid
  have here := (skip_append blank _).trans (marked rest)
  have none : ∀ fuel, readSeparated reader close fuel (before ++ (closing ++ rest)) = none := by
    intro fuel
    cases fuel with
    | zero => rfl
    | succ fuel =>
      rw [readSeparated, refuses _ _ here]
      rfl
  refine ⟨after ++ rest, ?_, skip_append blankAfter rest⟩
  rw [readList, none, expect_found here, Option.map_some]

end

/-! ### Elements that were read -/

section

variable {α β : Type} {reader : List Char → Option (α × List Char)} {text : List Char} {value : α}
  {condition : Prop}

/-- **A reader that finds the value of the text** has met a condition, and has gone to its end. -/
def Demands (reader : List Char → Option (α × List Char)) (text : List Char) (value : α)
    (condition : Prop) : Prop :=
  ∀ before rest left, Blank before → Ends rest →
    reader (before ++ (text ++ rest)) = some (value, left) → condition ∧ skip left = skip rest

/-- Where a text that meets the condition is read, only the condition is to be shown. -/
theorem Demands.of_reads (reads : condition → Reads reader text value)
    (forced : ∀ before rest left, Blank before →
      reader (before ++ (text ++ rest)) = some (value, left) → condition) :
    Demands reader text value condition := by
  intro before rest left blank ends found
  have met := forced before rest left blank found
  obtain ⟨other, again, same⟩ := reads met before rest blank ends
  obtain ⟨_, rfl⟩ := Prod.mk.inj (Option.some.inj (again.symm.trans found))
  exact ⟨met, same⟩

/-- A list of elements that was read, by its first. -/
theorem readSeparated_cons {close : Char} {fuel : Nat} {input left : List Char} {item : α}
    {items : List α}
    (found : readSeparated reader close (fuel + 1) input = some (item :: items, left)) :
    ∃ middle, reader input = some (item, middle) ∧
      ((∃ more, expect ',' middle = some more ∧
          readSeparated reader close fuel more = some (items, left)) ∨
        expect ',' middle = none ∧ expect close middle = some left ∧ items = []) := by
  obtain ⟨⟨first, middle⟩, one, found⟩ := Option.bind_eq_some_iff.mp found
  dsimp only at found
  split at found
  · rename_i more comma
    obtain ⟨⟨others, last⟩, later, same⟩ := Option.bind_eq_some_iff.mp found
    cases same
    exact ⟨middle, one, Or.inl ⟨more, comma, later⟩⟩
  · rename_i comma
    obtain ⟨last, closed, same⟩ := Option.bind_eq_some_iff.mp found
    cases same
    exact ⟨middle, one, Or.inr ⟨comma, closed, rfl⟩⟩

/-- **Several elements that are read** have met their conditions. -/
theorem demands_separated {close : Char} (closes : Closes close) {form : β → List Char}
    {value : β → α} {condition : β → Prop} {comma closing : List Char} (mark : Mark ',' comma)
    (ending : Mark close closing) {items : List β} (nonempty : items ≠ [])
    (each : ∀ item ∈ items, Demands reader (form item) (value item) (condition item)) {fuel : Nat}
    {before : List Char} (blank : Blank before) {rest left : List Char}
    (found : readSeparated reader close fuel
      (before ++ (comma.intercalate (items.map form) ++ (closing ++ rest))) =
        some (items.map value, left)) :
    (∀ item ∈ items, condition item) ∧ skip left = skip rest := by
  induction items generalizing fuel before with
  | nil => exact absurd rfl nonempty
  | cons item others hypothesis =>
    cases fuel with
    | zero => cases found
    | succ fuel =>
      have demands := each item List.mem_cons_self
      obtain ⟨middle, one, continues⟩ := readSeparated_cons found
      cases others with
      | nil =>
        rw [List.map_cons, List.map_nil, List.intercalate_singleton] at one
        obtain ⟨after, blankAfter, marked⟩ := ending.skips closes.solid
        obtain ⟨met, same⟩ := demands before _ middle blank (ending.ends (Or.inr closes) rest) one
        rw [marked] at same
        rcases continues with ⟨more, goes, _⟩ | ⟨_, closed, _⟩
        · rw [expect_other same closes.ne_comma] at goes
          cases goes
        · rw [expect_found same] at closed
          cases closed
          exact ⟨List.forall_mem_singleton.mpr met, skip_append blankAfter rest⟩
      | cons next more =>
        rw [List.map_cons, List.map_cons, List.intercalate_cons_cons, ← List.map_cons] at one
        simp only [List.append_assoc] at one
        obtain ⟨after, blankAfter, marked⟩ := mark.skips rfl
        obtain ⟨met, same⟩ := demands before _ middle blank (mark.ends (Or.inl rfl) _) one
        rw [marked] at same
        rcases continues with ⟨tail, goes, later⟩ | ⟨ended, _⟩
        · rw [expect_found same] at goes
          cases goes
          obtain ⟨all, ended⟩ := hypothesis (List.cons_ne_nil _ _)
            (fun other member => each other (List.mem_cons_of_mem _ member)) blankAfter later
          exact ⟨List.forall_mem_cons.mpr ⟨met, all⟩, ended⟩
        · rw [expect_found same] at ended
          cases ended

theorem demands_list {close : Char} (closes : Closes close) {form : β → List Char}
    {value : β → α} {condition : β → Prop} {comma closing : List Char} (mark : Mark ',' comma)
    (ending : Mark close closing) {items : List β} (nonempty : items ≠ [])
    (each : ∀ item ∈ items, Demands reader (form item) (value item) (condition item))
    {before : List Char} (blank : Blank before) {rest left : List Char}
    (found : readList reader close
      (before ++ (comma.intercalate (items.map form) ++ (closing ++ rest))) =
        some (items.map value, left)) :
    (∀ item ∈ items, condition item) ∧ skip left = skip rest := by
  unfold readList at found
  split at found
  · rename_i pair several
    cases found
    exact demands_separated closes mark ending nonempty each blank several
  · obtain ⟨_, _, same⟩ := Option.map_eq_some_iff.mp found
    exact absurd (List.map_eq_nil_iff.mp (Prod.mk.inj same).1.symm) nonempty

end

/-! ### Values -/

theorem string_read {inside text : List Char} (chars : Chars inside text) (left : List Char) :
    readString (inside ++ '"' :: left) = some (String.ofList text, left) :=
  readString_iff.mpr ⟨inside, by rwa [String.toList_ofList], rfl⟩

/-- A member is read up to its value. -/
theorem readMember_name (value : List Char → Option (Json × List Char))
    {before inside name colon rest : List Char} (blank : Blank before) (chars : Chars inside name)
    (goes : skip colon = ':' :: rest) :
    readMember value (before ++ '"' :: (inside ++ '"' :: colon)) =
      (value rest).map fun (member, left) => ((String.ofList name, member), left) := by
  have starts : skip (before ++ '"' :: (inside ++ '"' :: colon)) =
      '"' :: (inside ++ '"' :: colon) :=
    (skip_append blank _).trans (skip_cons rfl _)
  simp only [readMember, expect_found starts, Option.bind_eq_bind, Option.bind_some,
    string_read chars, expect_found goes]
  cases value rest <;> rfl

/-- **A member is read** if its value is. -/
theorem readMember_complete {value : List Char → Option (Json × List Char)}
    {inside name colon text : List Char} {member : Json} (chars : Chars inside name)
    (mark : Mark ':' colon) (reads : Reads value text member) :
    Reads (readMember value) ('"' :: (inside ++ '"' :: (colon ++ text)))
      (String.ofList name, member) := by
  intro before rest blank ends
  obtain ⟨after, blankAfter, marked⟩ := mark.skips rfl
  obtain ⟨left, found, same⟩ := reads after rest blankAfter ends
  refine ⟨left, ?_, same⟩
  simp only [List.cons_append, List.append_assoc]
  rw [readMember_name value blank chars (marked (text ++ rest)), found]
  rfl

theorem digit_solid {c : Char} (digit : c.isDigit = true) : isBlank c = false := by
  refine Bool.eq_false_iff.mpr fun blank => ?_
  have one : c = ' ' ∨ c = '\t' ∨ c = '\n' ∨ c = '\r' := by
    simpa only [isBlank, Bool.or_eq_true, beq_iff_eq, or_assoc] using blank
  rcases one with rfl | rfl | rfl | rfl <;> cases digit

/-- The reader goes by the first character that is no blank. -/
theorem readValue_skip {depth : Nat} {input rest : List Char} {c : Char}
    (starts : skip input = c :: rest) (solid : isBlank c = false) :
    readValue (depth + 1) input = readValue (depth + 1) (c :: rest) := by
  simp only [readValue, starts, skip_cons solid]

theorem readValue_refuses {depth : Nat} {close : Char} (closes : Closes close)
    (input more : List Char) (starts : skip input = close :: more) :
    readValue depth input = none := by
  cases depth with
  | zero => rfl
  | succ depth =>
    rw [readValue, starts]
    rcases closes with rfl | rfl <;> rfl

theorem readMember_refuses {value : List Char → Option (Json × List Char)} {close : Char}
    (closes : Closes close) (input more : List Char) (starts : skip input = close :: more) :
    readMember value input = none := by
  unfold readMember expect
  rw [starts]
  rcases closes with rfl | rfl <;> rfl

theorem readValue_array (depth : Nat) (rest : List Char) :
    readValue (depth + 1) ('[' :: rest) =
      (readList (readValue depth) ']' rest).map fun (items, left) => (.array items, left) := by
  simp [readValue, skip_cons, isBlank]

theorem readValue_object (depth : Nat) (rest : List Char) :
    readValue (depth + 1) ('\x7b' :: rest) =
      (readList (readMember (readValue depth)) '\x7d' rest).map fun (members, left) =>
        (.object members, left) := by
  simp [readValue, skip_cons, isBlank]

theorem readValue_string (depth : Nat) (rest : List Char) :
    readValue (depth + 1) ('"' :: rest) =
      (readString rest).map fun (inside, left) => (.string inside, left) := by
  simp [readValue, skip_cons, isBlank]

theorem number_reads (depth : Nat) {text : List Char} {value : Rat} (number : Number text value) :
    Reads (readValue (depth + 1)) text (.number value) := by
  intro before rest blank ends
  obtain ⟨c, others, rfl, first⟩ := number.first
  have solid : isBlank c = false := by
    rcases first with rfl | digit
    · rfl
    · exact digit_solid digit
  have reads := readNumber_complete number ends
  rw [List.cons_append] at reads ⊢
  refine ⟨rest, ?_, rfl⟩
  rw [readValue, skip_append blank, skip_cons solid]
  simp only [if_pos first, reads, Prod.map, id]

theorem readValue_quoted (depth : Nat) {before : List Char} (blank : Blank before)
    (inside rest : List Char) :
    readValue (depth + 1) (before ++ ('"' :: (inside ++ ['"']) ++ rest)) =
      (readString (inside ++ '"' :: rest)).map fun (inside, left) => (.string inside, left) := by
  have starts : skip (before ++ ('"' :: (inside ++ ['"']) ++ rest)) =
      '"' :: (inside ++ '"' :: rest) := by
    rw [skip_append blank, List.cons_append, List.append_assoc, skip_cons rfl]
    rfl
  rw [readValue_skip starts rfl, readValue_string]

theorem string_reads (depth : Nat) {inside text : List Char} (chars : Chars inside text) :
    Reads (readValue (depth + 1)) ('"' :: (inside ++ ['"'])) (.string (String.ofList text)) := by
  intro before rest blank _
  exact ⟨rest, by rw [readValue_quoted depth blank, string_read chars]; rfl, rfl⟩

/-- A list in its brackets. -/
theorem bracketed_reads {α : Type} {bracket : Char} {depth : Nat} {opening tail : List Char}
    {list : List Char → Option (α × List Char)} {items : α} {make : α → Json}
    (solid : isBlank bracket = false)
    (dispatch : ∀ rest, readValue (depth + 1) (bracket :: rest) =
      (list rest).map fun (items, left) => (make items, left))
    (opens : Mark bracket opening)
    (inside : ∀ before rest, Blank before →
      ∃ left, list (before ++ (tail ++ rest)) = some (items, left) ∧ skip left = skip rest) :
    Reads (readValue (depth + 1)) (opening ++ tail) (make items) := by
  intro before rest blank _
  obtain ⟨after, blankAfter, marked⟩ := opens.skips solid
  have starts : skip (before ++ (opening ++ (tail ++ rest))) =
      bracket :: (after ++ (tail ++ rest)) :=
    (skip_append blank _).trans (marked _)
  obtain ⟨left, reads, same⟩ := inside after rest blankAfter
  refine ⟨left, ?_, same⟩
  rw [List.append_assoc, readValue_skip starts solid, dispatch, reads]
  rfl

/-- **Every value is read.** -/
theorem readValue_reads {depth : Nat} {text : List Char} {value : Json}
    (deep : text.length < depth) (spelled : Value text value) :
    Reads (readValue depth) text value := by
  induction depth generalizing text value with
  | zero => exact absurd deep (Nat.not_lt_zero _)
  | succ depth hypothesis =>
    cases spelled with
    | null | true | false =>
      intro before rest blank _
      refine ⟨rest, ?_, rfl⟩
      rw [readValue, skip_append blank]
      simp [skip_cons, isBlank, readLiteral]
    | number number => exact number_reads depth number
    | string chars => exact string_reads depth chars
    | emptyArray opens closing =>
      have closes : Closes ']' := Or.inl rfl
      exact bracketed_reads rfl (readValue_array depth) opens fun before rest blank =>
        readList_empty closes (readValue_refuses closes) closing blank rest
    | emptyObject opens closing =>
      have closes : Closes '\x7d' := Or.inr rfl
      exact bracketed_reads rfl (readValue_object depth) opens fun before rest blank =>
        readList_empty closes (readMember_refuses closes) closing blank rest
    | @array opening inside closing items opens elements closing =>
      have readable : Separated (Reads (readValue depth)) inside items :=
        elements.mono fun part item shorter one => hypothesis (by
          obtain ⟨front, after, _, _, rfl⟩ := opens
          simp only [List.length_append, List.length_cons] at deep
          omega) one
      refine bracketed_reads rfl (readValue_array depth) opens fun before rest blank => ?_
      rw [List.append_assoc]
      exact readList_complete (Or.inl rfl) readable closing blank rest
    | @object opening inside closing members opens elements closing =>
      have readable : Separated (Reads (readMember (readValue depth))) inside members :=
        elements.mono fun part item shorter one => by
          cases one with
          | mk chars mark spelled =>
            refine readMember_complete chars mark (hypothesis ?_ spelled)
            obtain ⟨front, after, _, _, rfl⟩ := opens
            simp only [List.length_append, List.length_cons] at deep shorter
            omega
      refine bracketed_reads rfl (readValue_object depth) opens fun before rest blank => ?_
      rw [List.append_assoc]
      exact readList_complete (Or.inr rfl) readable closing blank rest

/-- **The reader finds the value of every text of the grammar.** -/
theorem read_of_spells {text : List Char} {value : Json} (spells : Spells text value) :
    read text = some value := by
  obtain ⟨before, inside, after, blank, spelled, blankAfter, rfl⟩ := spells
  have ends : Ends after := by
    intro c first
    exact Or.inl (blankAfter c (List.mem_of_mem_head? first))
  have deep : inside.length < (before ++ (inside ++ after)).length + 1 := by
    simp only [List.length_append]
    omega
  obtain ⟨left, reads, _⟩ := readValue_reads deep spelled before after blank ends
  rw [read, reads, Option.map_some]

/-- **A text has at most one value.** -/
theorem Spells.unique {text : List Char} {value other : Json} (spells : Spells text value)
    (again : Spells text other) : value = other :=
  Option.some.inj ((read_of_spells spells).symm.trans (read_of_spells again))

end Json

end RuleNet
