/-
**The two texts of a value.**

`text` is for messages: a string is written as it is and the items of a vector stand after blanks.
`quotedText` is for listings: a string is quoted and the items stand after commas. A fact has one
text, with its fields in name order and their values as in messages.

* `text`, `quotedText`: the two forms;
* the examples show where they differ.
-/

import RuleNet.Value
import RuleNet.Number.Shortest
import RuleNet.Text.Quoted

namespace RuleNet

namespace Value

mutual

/-- The text of a value in a message. -/
def text : Value → String
  | nil => "nil"
  | bool b => if b then "true" else "false"
  | int n => toString n.toInt
  | float x => x.text
  | string s => s
  | vec items => "[" ++ " ".intercalate (textItems items) ++ "]"
  | fact tag fields =>
    tag.objectType.text ++ "\x7b" ++ ", ".intercalate (textFields fields) ++ "\x7d"
termination_by structural value => value

def textItems : List Value → List String
  | [] => []
  | item :: rest => text item :: textItems rest
termination_by structural items => items

def textFields : List (String × Value) → List String
  | [] => []
  | field :: rest => textField field :: textFields rest
termination_by structural fields => fields

def textField : String × Value → String
  | (name, value) => name ++ ": " ++ text value
termination_by structural field => field

end

mutual

/-- The text of a value in a listing. -/
def quotedText : Value → String
  | string s => Text.quoted s
  | vec items => Text.bracketed (quotedItems items)
  | value => value.text
termination_by structural value => value

def quotedItems : List Value → List String
  | [] => []
  | item :: rest => quotedText item :: quotedItems rest
termination_by structural items => items

end

end Value

/-- The text of a fact. -/
def Fact.text (fact : Fact) : String :=
  fact.toValue.text

/-- The listing of a name map: quoted names with the texts of their entries. -/
def NameMap.text {α : Type} (entryText : α → String) (map : NameMap α) : String :=
  Text.braced (map.map fun entry => Text.quoted entry.1 ++ ": " ++ entryText entry.2)

example : Value.text (.vec [.string "a", .float ⟨0x8000000000000000⟩]) = "[a -0]" := by
  decide +kernel

example : Value.quotedText (.vec [.string "a", .nil]) = "[\"a\", nil]" := by
  decide +kernel

end RuleNet
