/-
**Quoted text.**

A text inside a larger rendering stands between double quotes. Tab, line ends, the null
character, the quote and the backslash have short escapes; any other hidden character is written
by its number in hexadecimal; every other character, the apostrophe too, stands for itself.

* `escape`: the form of one character;
* `quoted`: the form of a text.
-/

import RuleNet.Text.Hidden

namespace RuleNet.Text

/-- The form of one character inside quotes. -/
def escape (c : Char) : List Char :=
  match c with
  | '\x00' => ['\\', '0']
  | '\t' => ['\\', 't']
  | '\n' => ['\\', 'n']
  | '\r' => ['\\', 'r']
  | '"' => ['\\', '"']
  | '\\' => ['\\', '\\']
  | c =>
    if isHidden c then ['\\', 'u', '\x7b'] ++ Nat.toDigits 16 c.toNat ++ ['\x7d']
    else [c]

/-- **A text between double quotes**, with its special characters escaped. -/
def quoted (text : String) : String :=
  String.ofList ('"' :: text.toList.flatMap escape ++ ['"'])

/-- Items between square brackets, after commas. -/
def bracketed (items : List String) : String :=
  "[" ++ ", ".intercalate items ++ "]"

/-- Items between braces, after commas, with nothing inside when there are none. -/
def braced (items : List String) : String :=
  "\x7b" ++ ", ".intercalate items ++ "\x7d"

/-- The rendering of a named record: its fields in order, between spaced braces. -/
def record (name : String) (fields : List (String × String)) : String :=
  name ++ " \x7b " ++ ", ".intercalate (fields.map fun field => field.1 ++ ": " ++ field.2)
    ++ " \x7d"

example : quoted "a'\t\x1bé" = "\"a'\\t\\u\x7b1b\x7dé\"" := by decide +kernel

end RuleNet.Text
