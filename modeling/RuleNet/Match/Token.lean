/-
**Tokens: partial matches.**

A token holds the values that the conditions so far contributed, one each, and the handles of the
objects among them. Values without a handle come from existential, accumulate and invoke patterns.

* `Token.extend`: a token with one more value;
* `Activation`: a complete match of a rule, ready to fire;
* `Activation.signature_eq`: different signatures tell matches apart without a look at the tokens.
-/

import RuleNet.Memory
import RuleNet.Network.Identity

namespace RuleNet

/-- A partial match. -/
structure Token where
  values : List Value
  handles : List Handle
deriving DecidableEq, Repr

namespace Token

/-- The token of one object. -/
def ofHeld (held : Held) : Token :=
  ⟨[held.value], [held.handle]⟩

/-- The token with one more value, and its handle if it has one. -/
def extend (token : Token) (value : Value) (handle : Option Handle) : Token :=
  ⟨token.values ++ [value], token.handles ++ handle.toList⟩

/-- The number of values. -/
def width (token : Token) : Nat :=
  token.values.length

@[simp] theorem width_extend (token : Token) (value : Value) (handle : Option Handle) :
    (token.extend value handle).width = token.width + 1 := by
  simp [width, extend]

end Token

/-- A complete match of a rule. -/
structure Activation where
  rule : String
  salience : Int
  terminal : NodeId
  /-- The arguments of the rule's consequence. -/
  bindings : List Value
  token : Token
deriving DecidableEq, Repr

/-- **The two are the same match**: the same token at the same terminal. A match fires once, so a key
that is kept of it has to be injective on the two. -/
def Activation.sameMatch (a b : Activation) : Bool :=
  a.terminal = b.terminal && a.token = b.token

/-- A number that a match shares with the same match, and seldom with another: its terminal and its
handles as digits. -/
def Activation.signature (activation : Activation) : Nat :=
  activation.token.handles.foldl (fun number handle => number * 0x100000 + handle.index)
    activation.terminal.index

theorem Activation.signature_eq {a b : Activation} (same : a.sameMatch b = true) :
    a.signature = b.signature := by
  obtain ⟨terminals, tokens⟩ : a.terminal = b.terminal ∧ a.token = b.token := by
    simpa [sameMatch] using same
  rw [signature, signature, terminals, tokens]

end RuleNet
