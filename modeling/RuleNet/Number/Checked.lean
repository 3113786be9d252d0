/-
**Checked arithmetic of 64-bit integers.**

A sum or difference that does not fit is no integer. `checked?` keeps exactly the integers that
fit, so the two operations are exact wherever they answer.

* `checked?_eq_some`: which integers fit, and as what;
* `checked?_eq_none`: which do not fit.
-/

namespace RuleNet

namespace Checked

def least : Int := -0x8000000000000000

def greatest : Int := 0x7fffffffffffffff

/-- The 64-bit integer with a given value, if there is one. -/
def checked? (n : Int) : Option Int64 :=
  if least ≤ n ∧ n ≤ greatest then some (Int64.ofInt n) else none

def add? (a b : Int64) : Option Int64 :=
  checked? (a.toInt + b.toInt)

def sub? (a b : Int64) : Option Int64 :=
  checked? (a.toInt - b.toInt)

/-- **Exactly the integers in range fit**, each as itself. -/
theorem checked?_eq_some (n : Int) (result : Int64) :
    checked? n = some result ↔ result.toInt = n := by
  unfold checked? least greatest
  constructor
  · intro fits
    split at fits
    · rename_i range
      cases fits
      exact Int64.toInt_ofInt_of_le (by omega) (by omega)
    · cases fits
  · intro exact
    have low := Int64.le_toInt result
    have high := Int64.toInt_lt result
    rw [if_pos (by omega)]
    congr 1
    exact Int64.toInt_inj.mp ((Int64.toInt_ofInt_of_le (by omega) (by omega)).trans exact.symm)

theorem checked?_eq_none (n : Int) : checked? n = none ↔ n < least ∨ greatest < n := by
  unfold checked?
  split <;> simp <;> omega

end Checked

end RuleNet
