/-
**Doubles: IEEE 754 binary64 numbers, held as their 64 bits.**

A value of the network is compared by its bits, so two not-a-numbers with different payloads
differ and `0` differs from `-0`, while the numeric order takes them as numbers. Holding the bits
makes the first a plain equality and the second an order on integers (`rank`).

* `compare?`: the numeric order, which no not-a-number takes part in;
* `ofInt`: an integer rounded to the nearest double;
* `add`, `sub`, `div`: the exact result, rounded once to nearest.
-/

namespace RuleNet

/-- A binary64 number, as its sign, exponent and fraction bits. -/
structure Double where
  bits : UInt64
deriving DecidableEq, Repr, Inhabited

namespace Double

/-- The bits below the sign bit. They grow with the distance from zero. -/
def magnitude (x : Double) : Nat :=
  x.bits.toNat % 0x8000000000000000

def isNegative (x : Double) : Bool :=
  0x8000000000000000 ≤ x.bits.toNat

/-- The magnitude of the two infinities. -/
def infiniteMagnitude : Nat :=
  0x7ff0000000000000

def isNaN (x : Double) : Bool :=
  infiniteMagnitude < x.magnitude

def isInfinite (x : Double) : Bool :=
  x.magnitude = infiniteMagnitude

/-! ### Order -/

/-- The place of a number among all numbers. Both zeros have place zero. -/
def rank (x : Double) : Int :=
  if x.isNegative then -(x.magnitude : Int) else x.magnitude

/-- **The numeric order.** A not-a-number stands in no relation, not even to itself. -/
def compare? (x y : Double) : Option Ordering :=
  if x.isNaN || y.isNaN then none else some (compare x.rank y.rank)

/-! ### Arithmetic -/

def ofFloat (x : Float) : Double :=
  ⟨x.toBits⟩

def toFloat (x : Double) : Float :=
  Float.ofBits x.bits

/-- The double nearest to an integer, of two the one with an even fraction. -/
def ofInt (n : Int) : Double :=
  ofFloat (Float.ofInt n)

/-- The quiet not-a-number with the same sign and payload. -/
def quiet (x : Double) : Double :=
  ⟨x.bits ||| 0x0008000000000000⟩

/-- The not-a-number of an operation that has no result, such as `inf - inf`. -/
def undefinedResult : Double :=
  ⟨0xfff8000000000000⟩

/-- Applies an operation of numbers to two doubles. A not-a-number operand is the result, the
left one before the right one. -/
def lift (operation : Float → Float → Float) (x y : Double) : Double :=
  if x.isNaN then x.quiet
  else if y.isNaN then y.quiet
  else
    let result := operation x.toFloat y.toFloat
    if result.isNaN then undefinedResult else ofFloat result

def add (x y : Double) : Double :=
  lift (· + ·) x y

def sub (x y : Double) : Double :=
  lift (· - ·) x y

def div (x y : Double) : Double :=
  lift (· / ·) x y

/-! ### Exact value of a finite double -/

/-- A finite distance from zero: `significand * 2 ^ exponent`. -/
structure Binary where
  significand : Nat
  exponent : Int
  /-- The next smaller double is only half as far away as the next larger one. -/
  nearBelow : Bool
deriving DecidableEq, Repr

/-- The exact distance from zero of a finite double. -/
def toBinary (x : Double) : Binary :=
  let field : Nat := x.magnitude / 0x10000000000000
  let fraction : Nat := x.magnitude % 0x10000000000000
  if field = 0 then ⟨fraction, -1074, false⟩
  else ⟨0x10000000000000 + fraction, (field : Int) - 1075, decide (fraction = 0 ∧ 1 < field)⟩

namespace Binary

/-- The numerator of `significand * 2 ^ exponent` over `denominator`. -/
def numerator (x : Binary) : Nat :=
  x.significand * Nat.pow 2 x.exponent.toNat

def denominator (x : Binary) : Nat :=
  Nat.pow 2 (-x.exponent).toNat

end Binary

example : compare? ⟨0⟩ ⟨0x8000000000000000⟩ = some .eq := by decide
example : (⟨0⟩ : Double) ≠ ⟨0x8000000000000000⟩ := by decide
example : compare? ⟨0xfff0000000000000⟩ ⟨0x8000000000000001⟩ = some .lt := by decide
example : ofInt 9223372036854775807 = ⟨0x43e0000000000000⟩ := by decide +kernel

end Double

end RuleNet
