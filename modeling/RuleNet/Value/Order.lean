/-
**The partial order of values.**

Values of one scalar type are ordered, and integers with doubles; nil equals itself. Vectors,
facts and values of different kinds are not comparable. An integer is compared with a double as
the double nearest to it.

* `compare?`: the order.
-/

import RuleNet.Value

namespace RuleNet

namespace Value

/-- The order of two values, if they are comparable. -/
def compare? : Value → Value → Option Ordering
  | nil, nil => some .eq
  | bool a, bool b => some (compare a b)
  | int a, int b => some (compare a.toInt b.toInt)
  | float a, float b => Double.compare? a b
  | int a, float b => Double.compare? (Double.ofInt a.toInt) b
  | float a, int b => Double.compare? a (Double.ofInt b.toInt)
  | string a, string b => some (compareOfLessAndEq a b)
  | _, _ => none

end Value

end RuleNet
