/-
**Shortest decimal text of a double.**

A double stands for every real number that rounds to it. Its text is the decimal with the fewest
digits among those numbers, of two such decimals the one nearer to the double, and of two equally
near the larger one. It is written positionally whatever its size, without a trailing `.0`.

* `readsBack`: membership of a decimal in the interval of numbers that round to a double;
* `shortest`: the first grid `10 ^ (scale - count)`, for `count = 1, 2, …`, on which a neighbour of
  the double reads back;
* `Double.text`: sign, special values and positional layout.
-/

import RuleNet.Number.Double

namespace RuleNet

/-- The number `digits * 10 ^ exponent`. -/
structure Decimal where
  digits : Nat
  exponent : Int
deriving DecidableEq, Repr

namespace Decimal

/-- Compares `digits * 10 ^ exponent` with `m * 2 ^ q` by cross-multiplication. -/
def compareBinary (x : Decimal) (m : Nat) (q : Int) : Ordering :=
  compare (x.digits * Nat.pow 10 x.exponent.toNat * Nat.pow 2 (-q).toNat)
    (m * Nat.pow 2 q.toNat * Nat.pow 10 (-x.exponent).toNat)

/-- **The decimal rounds to the double.** The interval reaches half way to each neighbour; its ends
belong to it when the significand is even. -/
def readsBack (x : Decimal) (target : Double.Binary) : Bool :=
  let low := 4 * target.significand - if target.nearBelow then 1 else 2
  let high := 4 * target.significand + 2
  let closed := target.significand % 2 = 0
  let fromLow := x.compareBinary low (target.exponent - 2)
  let fromHigh := x.compareBinary high (target.exponent - 2)
  (fromLow = .gt || (closed && fromLow = .eq)) && (fromHigh = .lt || (closed && fromHigh = .eq))

/-- The number of decimal digits of a natural number. -/
def digitCount (n : Nat) : Nat :=
  (Nat.toDigits 10 n).length

/-- The least `k` with `x < 10 ^ k`, for `x` not zero. -/
def scale (x : Double.Binary) : Int :=
  if x.denominator ≤ x.numerator then digitCount (x.numerator / x.denominator)
  else 1 - (digitCount ((x.denominator - 1) / x.numerator) : Int)

/-- The largest multiple of `10 ^ grid` that is not above the double. -/
def below (x : Double.Binary) (grid : Int) : Decimal :=
  ⟨x.numerator * Nat.pow 10 (-grid).toNat / (x.denominator * Nat.pow 10 grid.toNat), grid⟩

/-- The double is at least as near to the next multiple of `10 ^ grid` as to the one below it. -/
def nearerAbove (x : Double.Binary) (floor : Decimal) : Bool :=
  (⟨2 * floor.digits + 1, floor.exponent⟩ : Decimal).compareBinary x.significand (x.exponent + 1)
    ≠ .gt

/-- The decimal that a grid offers: a neighbour of the double on it that reads back, the nearer
one if both do. -/
def onGrid? (x : Double.Binary) (grid : Int) : Option Decimal :=
  let floor := below x grid
  let ceiling : Decimal := ⟨floor.digits + 1, grid⟩
  match floor.readsBack x, ceiling.readsBack x with
  | true, true => some (if nearerAbove x floor then ceiling else floor)
  | true, false => some floor
  | false, true => some ceiling
  | false, false => none

/-- The double itself as a decimal, with all its digits. -/
def exact (x : Double.Binary) : Decimal :=
  ⟨x.significand * Nat.pow 2 x.exponent.toNat * Nat.pow 5 (-x.exponent).toNat, min x.exponent 0⟩

/-- **The shortest decimal that reads back**: seventeen digits are always enough. -/
def shortest (x : Double.Binary) : Decimal :=
  ((List.range 17).findSome? fun index => onGrid? x (scale x - (index + 1 : Nat))).getD (exact x)

/-- Positional layout of `digits * 10 ^ exponent`, without an exponent and without trailing zeros
after the point. -/
def positional (x : Decimal) : String :=
  let digits := Nat.toDigits 10 x.digits
  let places := (-x.exponent).toNat
  if places = 0 then String.ofList (digits ++ List.replicate x.exponent.toNat '0')
  else
    let padded := List.replicate (places + 1 - digits.length) '0' ++ digits
    let whole := padded.take (padded.length - places)
    let fraction := (padded.drop (padded.length - places)).reverse.dropWhile (· = '0')
    if fraction.isEmpty then String.ofList whole
    else String.ofList (whole ++ '.' :: fraction.reverse)

end Decimal
/-- The text of a double. -/
def Double.text (x : Double) : String :=
  if x.isNaN then "NaN"
  else
    let sign := if x.isNegative then "-" else ""
    if x.isInfinite then sign ++ "inf"
    else if x.magnitude = 0 then sign ++ "0"
    else sign ++ (Decimal.shortest x.toBinary).positional

example : Double.text ⟨0x3fb999999999999a⟩ = "0.1" := by decide +kernel
example : Double.text ⟨0x4004000000000000⟩ = "2.5" := by decide +kernel
example : Double.text ⟨0x4059000000000000⟩ = "100" := by decide +kernel
example : Double.text ⟨0x8000000000000000⟩ = "-0" := by decide +kernel
example : Double.text ⟨0x44b52d02c7e14af6⟩ = "100000000000000000000000" := by decide +kernel
example : Double.text ⟨0x3e60000000000000⟩ = "0.000000029802322387695313" := by decide +kernel

end RuleNet
