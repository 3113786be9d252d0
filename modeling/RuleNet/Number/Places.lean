/-
**A fixed number of decimal places.**

Durations are shown with three places. The exact value of the double is rounded once, to the
nearest multiple of a thousandth, and a tie goes to the even one.

* `roundQuotient`: a quotient of naturals rounded to nearest, ties to even;
* `Double.threePlaces`: the text of a non-negative finite double.
-/

import RuleNet.Number.Double

namespace RuleNet

/-- The natural number nearest to `n / d`, of two the even one. -/
def roundQuotient (n d : Nat) : Nat :=
  let floor := n / d
  match compare (2 * (n % d)) d with
  | .lt => floor
  | .eq => floor + floor % 2
  | .gt => floor + 1

/-- Digits padded with zeros on the left up to a width. -/
def padZeros (width : Nat) (n : Nat) : String :=
  let digits := Nat.toDigits 10 n
  String.ofList (List.replicate (width - digits.length) '0' ++ digits)

/-- A finite double that is not negative, with exactly three decimal places. -/
def Double.threePlaces (x : Double) : String :=
  let thousandths := roundQuotient (x.toBinary.numerator * 1000) x.toBinary.denominator
  toString (thousandths / 1000) ++ "." ++ padZeros 3 (thousandths % 1000)

example : Double.threePlaces ⟨0x3ff1000000000000⟩ = "1.062" := by decide +kernel
example : Double.threePlaces ⟨0x3ff3000000000000⟩ = "1.188" := by decide +kernel
example : Double.threePlaces ⟨0x4018000000000000⟩ = "6.000" := by decide +kernel

end RuleNet
