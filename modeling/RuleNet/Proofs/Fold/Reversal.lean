/-
**Sums, averages and counts of integers are exact, and can be taken back.**

Over objects that are read as integers, the state of a sum, an average or a count is told by two
integers of any size: the exact total of what was taken in less what was taken back, and how many
more objects were taken in than taken back. A turn fails exactly if the one that the function keeps
would leave the range of 64 bits, and then it is as if the turn was not made.

* `Turn`, `Aggregate.after`, `Aggregate.made`: turns in both directions, of which those that fail
  are skipped;
* `Tally.Holds`: the state that stands for a total and a number of objects;
* `Tally.turn_ends`: **what one turn does**;
* `Tally.after_holds`: what any number of turns do;
* `Tally.after_exact`: **the state is exact, a turn fails only if it must, what was just taken in
  can be taken back, and the order of the turns does not matter**.
-/

import Mathlib.Algebra.BigOperators.Group.List.Basic
import Mathlib.Algebra.Ring.Int.Defs
import RuleNet.Fold.Standard
import RuleNet.Proofs.Callback.Loops

namespace RuleNet

/-! ### Integers in range -/

namespace Checked

/-- The integer is a 64-bit one. -/
def InRange (n : Int) : Prop :=
  least ≤ n ∧ n ≤ greatest

theorem inRange_toInt (n : Int64) : InRange n.toInt := by
  have fits := (checked?_eq_some n.toInt n).mpr rfl
  unfold checked? at fits
  split at fits
  · assumption
  · cases fits

/-- An integer in range fits, and one that is not does not. -/
theorem checked?_ends (n : Int) :
    (∃ m, checked? n = some m ∧ m.toInt = n) ∨ checked? n = none ∧ ¬ InRange n := by
  cases fits : checked? n with
  | some m => exact Or.inl ⟨m, rfl, (checked?_eq_some n m).mp fits⟩
  | none =>
    refine Or.inr ⟨rfl, fun range => ?_⟩
    have outside := (checked?_eq_none n).mp fits
    unfold InRange at range
    omega

end Checked

/-! ### Turns -/

/-- One object that is taken in, or taken back. -/
structure Turn where
  direction : Aggregate.Direction
  input : Value
deriving DecidableEq, Repr

/-- How the number of objects changes. -/
def Aggregate.Direction.sign : Aggregate.Direction → Int
  | take => 1
  | giveBack => -1

namespace Turn

/-- The objects that were taken in, or those that were taken back. -/
def inputs (direction : Aggregate.Direction) (turns : List Turn) : List Value :=
  (turns.filter (·.direction = direction)).map Turn.input

/-- **The exact total** of what was taken in, less what was taken back. -/
def total (number : Value → Int64) (turns : List Turn) : Int :=
  (turns.map fun turn => turn.direction.sign * (number turn.input).toInt).sum

/-- How many more objects were taken in than taken back. -/
def net (turns : List Turn) : Int :=
  (turns.map fun turn => turn.direction.sign).sum

/-- **The same numbers are left** when those taken back are removed from those taken in. Numbers may
be taken back that were never taken in, so they are counted on the other side. -/
def SameLeft (number : Value → Int64) (turns others : List Turn) : Prop :=
  ((inputs .take turns ++ inputs .giveBack others).map number).Perm
    ((inputs .take others ++ inputs .giveBack turns).map number)

end Turn

namespace Aggregate

def turn (function : Aggregate) (state : Value) (turn : Turn) : Outcome Value :=
  match turn.direction with
  | .take => (function.accumulate state turn.input).outcome
  | .giveBack => (function.reverse state turn.input).outcome

/-- **The state after some turns.** A turn that fails is skipped. -/
def after (function : Aggregate) (state : Value) : List Turn → Value
  | [] => state
  | turn :: rest =>
    match function.turn state turn with
    | .ok next => after function next rest
    | .error _ => after function state rest

/-- The turns that succeed. -/
def made (function : Aggregate) (state : Value) : List Turn → List Turn
  | [] => []
  | turn :: rest =>
    match function.turn state turn with
    | .ok next => turn :: made function next rest
    | .error _ => made function state rest

end Aggregate

/-! ### Tallies -/

/-- The functions that can take objects back. -/
inductive Tally where
  | sum (extractor : Extractor)
  | average (extractor : Extractor)
  | count

namespace Tally

def function : Tally → Aggregate
  | sum extractor => .sum extractor
  | average extractor => .average extractor
  | count => .count

/-- The object is read as an integer. A count does not read it. -/
def Reads (number : Value → Int64) (input : Value) : Tally → Prop
  | sum extractor | average extractor => extractor.extract input = .ok (.int (number input))
  | count => True

/-- **The state stands for a total and a number of objects**, as far as the function keeps them. -/
def Holds (total net : Int) (state : Value) : Tally → Prop
  | sum _ => ∃ n : Int64, n.toInt = total ∧ state = .int n
  | average _ => ∃ n m : Int64, n.toInt = total ∧ m.toInt = net ∧ state = .vec [.int n, .int m]
  | count => ∃ m : Int64, m.toInt = net ∧ state = .int m

/-- What the function keeps of the two is in range. -/
def Fits (total net : Int) : Tally → Prop
  | sum _ => Checked.InRange total
  | average _ => Checked.InRange total ∧ Checked.InRange net
  | count => Checked.InRange net

variable {tally : Tally} {number : Value → Int64} {total net : Int} {state : Value}

theorem Holds.fits (holds : tally.Holds total net state) : tally.Fits total net := by
  cases tally with
  | sum extractor =>
    obtain ⟨n, rfl, _⟩ := holds
    exact Checked.inRange_toInt n
  | average extractor =>
    obtain ⟨n, m, rfl, rfl, _⟩ := holds
    exact ⟨Checked.inRange_toInt n, Checked.inRange_toInt m⟩
  | count =>
    obtain ⟨m, rfl, _⟩ := holds
    exact Checked.inRange_toInt m

/-- **One state stands for each total and number.** -/
theorem Holds.unique {other : Value} (holds : tally.Holds total net state)
    (again : tally.Holds total net other) : state = other := by
  cases tally with
  | sum extractor =>
    obtain ⟨n, rfl, rfl⟩ := holds
    obtain ⟨_, same, rfl⟩ := again
    rw [Int64.toInt_inj.mp same]
  | average extractor =>
    obtain ⟨n, m, rfl, rfl, rfl⟩ := holds
    obtain ⟨_, _, same, equal, rfl⟩ := again
    rw [Int64.toInt_inj.mp same, Int64.toInt_inj.mp equal]
  | count =>
    obtain ⟨m, rfl, rfl⟩ := holds
    obtain ⟨_, same, rfl⟩ := again
    rw [Int64.toInt_inj.mp same]

theorem holds_init (tally : Tally) : tally.Holds 0 0 tally.function.init := by
  cases tally with
  | sum extractor => exact ⟨0, rfl, rfl⟩
  | average extractor => exact ⟨0, 0, rfl, rfl, rfl⟩
  | count => exact ⟨0, rfl, rfl⟩

/-! ### One turn -/

/-- Adds or subtracts, if the result fits. -/
def move? (direction : Aggregate.Direction) (a b : Int64) : Option Int64 :=
  match direction with
  | .take => Checked.add? a b
  | .giveBack => Checked.sub? a b

/-- **An addition or a subtraction is exact**, and has no result exactly if it would be out of
range. -/
theorem move?_ends (direction : Aggregate.Direction) (a b : Int64) :
    (∃ n, move? direction a b = some n ∧ n.toInt = a.toInt + direction.sign * b.toInt) ∨
      move? direction a b = none ∧ ¬ Checked.InRange (a.toInt + direction.sign * b.toInt) := by
  cases direction with
  | take =>
    rw [Aggregate.Direction.sign, Int.one_mul]
    exact Checked.checked?_ends _
  | giveBack =>
    rw [Aggregate.Direction.sign, Int.neg_one_mul, ← Int.sub_eq_add_neg]
    exact Checked.checked?_ends _

/-- Adds or subtracts, and fails if the result does not fit. -/
def moveOr (fault : Fault) (direction : Aggregate.Direction) (a b : Int64) : Outcome Int64 :=
  (move? direction a b).elim fault.fail .ok

theorem moveOr_ends (fault : Fault) (direction : Aggregate.Direction) (a b : Int64) :
    (∃ n, moveOr fault direction a b = .ok n ∧ n.toInt = a.toInt + direction.sign * b.toInt) ∨
      moveOr fault direction a b = fault.fail ∧
        ¬ Checked.InRange (a.toInt + direction.sign * b.toInt) := by
  unfold moveOr
  rcases move?_ends direction a b with ⟨n, fits, same⟩ | ⟨fails, outside⟩
  · exact Or.inl ⟨n, by rw [fits, Option.elim_some], same⟩
  · exact Or.inr ⟨by rw [fails, Option.elim_none], outside⟩

/-- The number of objects moves by one. -/
theorem moveOr_one (fault : Fault) (direction : Aggregate.Direction) (m : Int64) :
    (∃ n, moveOr fault direction m 1 = .ok n ∧ n.toInt = m.toInt + direction.sign) ∨
      moveOr fault direction m 1 = fault.fail ∧
        ¬ Checked.InRange (m.toInt + direction.sign) := by
  have ends := moveOr_ends fault direction m 1
  rwa [show direction.sign * Int64.toInt 1 = direction.sign from Int.mul_one _] at ends

theorem combine_eq (key : String) (direction : Aggregate.Direction) (a b : Int64) :
    Aggregate.combine key direction (.int a) (.int b) =
      (moveOr (.evaluator key "integer overflow") direction a b).map .int := by
  cases direction <;> simp only [Aggregate.combine, moveOr, move?]
  · cases Checked.add? a b <;> rfl
  · cases Checked.sub? a b <;> rfl

theorem averageCount_eq (key : String) (direction : Aggregate.Direction) (m : Int64) :
    Aggregate.averageCount key direction m =
      moveOr (.evaluator key "count overflow") direction m 1 := by
  cases direction <;> simp only [Aggregate.averageCount, moveOr, move?]
  · cases Checked.add? m 1 <;> rfl
  · cases Checked.sub? m 1 <;> rfl

/-- A number of objects is taken back by adding minus one. -/
theorem countStep_eq (direction : Aggregate.Direction) (m : Int64) (input : Value) :
    Aggregate.countStep direction (.int m) input =
      (moveOr (.evaluator "count" "integer overflow") direction m 1).map .int := by
  have minus : Checked.add? m (-1) = Checked.sub? m 1 := rfl
  cases direction <;> simp only [Aggregate.countStep, Value.asInt?, moveOr, move?, minus]
  · cases Checked.add? m 1 <;> rfl
  · cases Checked.sub? m 1 <;> rfl

section

variable {turn : Turn} {extractor : Extractor} {n m k : Int64}

/-- A turn of a sum moves its total. -/
theorem sum_turn (read : extractor.extract turn.input = .ok (.int k)) :
    (sum extractor).function.turn (.int n) turn =
      (moveOr (.evaluator (sum extractor).function.key "integer overflow") turn.direction n k).map
        .int := by
  rw [← combine_eq]
  unfold Aggregate.turn
  cases turn.direction <;> exact congrArg (· >>= Aggregate.combine _ _ (.int n)) read

/-- A turn of an average moves its total, and then its number. -/
theorem average_turn (read : extractor.extract turn.input = .ok (.int k)) :
    (average extractor).function.turn (.vec [.int n, .int m]) turn = (do
      let total ← moveOr (.evaluator (average extractor).function.key "integer overflow")
        turn.direction n k
      let count ← moveOr (.evaluator (average extractor).function.key "count overflow")
        turn.direction m 1
      .ok (.vec [.int total, .int count])) := by
  have next (direction : Aggregate.Direction) := congrArg (· >>= fun value => do
    let total ← Aggregate.combine (average extractor).function.key direction (.int n) value
    let count ← Aggregate.averageCount (average extractor).function.key direction m
    Except.ok (Value.vec [total, .int count])) read
  have stepped : (average extractor).function.turn (.vec [.int n, .int m]) turn = (do
      let total ← Aggregate.combine (average extractor).function.key turn.direction (.int n) (.int k)
      let count ← Aggregate.averageCount (average extractor).function.key turn.direction m
      Except.ok (Value.vec [total, .int count])) := by
    unfold Aggregate.turn
    cases turn.direction <;> exact next _
  rw [stepped, combine_eq, averageCount_eq]
  cases moveOr _ turn.direction n k <;> rfl

/-- A turn of a count moves its number. -/
theorem count_turn : count.function.turn (.int m) turn =
    (moveOr (.evaluator "count" "integer overflow") turn.direction m 1).map .int := by
  rw [← countStep_eq turn.direction m turn.input]
  unfold Aggregate.turn
  cases turn.direction <;> rfl

end

/-- **A turn succeeds exactly if what the function keeps fits**, with the state that stands for it,
and fails as an evaluation otherwise. -/
def Ends (total net : Int) (outcome : Outcome Value) (tally : Tally) : Prop :=
  match outcome with
  | .ok next => tally.Fits total net ∧ tally.Holds total net next
  | .error failure => ¬ tally.Fits total net ∧ failure.kind = .evaluator

/-- **What one turn does.** -/
theorem turn_ends {turn : Turn} (holds : tally.Holds total net state)
    (reads : tally.Reads number turn.input) :
    tally.Ends (total + turn.direction.sign * (number turn.input).toInt)
      (net + turn.direction.sign) (tally.function.turn state turn) := by
  cases tally with
  | sum extractor =>
    obtain ⟨n, rfl, rfl⟩ := holds
    rw [sum_turn reads]
    rcases moveOr_ends _ turn.direction n (number turn.input) with
      ⟨next, fits, same⟩ | ⟨fails, outside⟩
    · rw [fits]
      exact ⟨same ▸ Checked.inRange_toInt next, next, same, rfl⟩
    · rw [fails]
      exact ⟨outside, rfl⟩
  | average extractor =>
    obtain ⟨n, m, rfl, rfl, rfl⟩ := holds
    rw [average_turn reads]
    rcases moveOr_ends _ turn.direction n (number turn.input) with
      ⟨next, fits, same⟩ | ⟨fails, outside⟩
    · rw [fits]
      rcases moveOr_one _ turn.direction m with ⟨count, held, equal⟩ | ⟨fails, outside⟩
      · rw [held]
        exact ⟨⟨same ▸ Checked.inRange_toInt next, equal ▸ Checked.inRange_toInt count⟩,
          next, count, same, equal, rfl⟩
      · rw [fails]
        exact ⟨fun both => outside both.2, rfl⟩
    · rw [fails]
      exact ⟨fun both => outside both.1, rfl⟩
  | count =>
    obtain ⟨m, rfl, rfl⟩ := holds
    rw [count_turn]
    rcases moveOr_one _ turn.direction m with ⟨next, fits, same⟩ | ⟨fails, outside⟩
    · rw [fits]
      exact ⟨same ▸ Checked.inRange_toInt next, next, same, rfl⟩
    · rw [fails]
      exact ⟨outside, rfl⟩

/-- **What was just taken in can be taken back**, which restores the state. -/
theorem turn_back {input next : Value} (holds : tally.Holds total net state)
    (reads : tally.Reads number input)
    (taken : tally.function.turn state ⟨.take, input⟩ = .ok next) :
    tally.function.turn next ⟨.giveBack, input⟩ = .ok state := by
  have forth : tally.Ends (total + 1 * (number input).toInt) (net + 1)
      (tally.function.turn state ⟨.take, input⟩) := turn_ends holds reads
  rw [taken] at forth
  have back : tally.Ends (total + 1 * (number input).toInt + -1 * (number input).toInt)
      (net + 1 + -1) (tally.function.turn next ⟨.giveBack, input⟩) := turn_ends forth.2 reads
  rw [show total + 1 * (number input).toInt + -1 * (number input).toInt = total by omega,
    show net + 1 + -1 = net by omega] at back
  cases ended : tally.function.turn next ⟨.giveBack, input⟩ with
  | ok last =>
    rw [ended] at back
    rw [back.2.unique holds]
  | error failure =>
    rw [ended] at back
    exact absurd holds.fits back.1

/-! ### Any number of turns -/

/-- **The state stands for the turns that succeeded.** -/
theorem after_holds {turns : List Turn} (holds : tally.Holds total net state)
    (reads : ∀ turn ∈ turns, tally.Reads number turn.input) :
    tally.Holds (total + Turn.total number (tally.function.made state turns))
      (net + Turn.net (tally.function.made state turns)) (tally.function.after state turns) := by
  induction turns generalizing total net state with
  | nil => simpa [Aggregate.made, Aggregate.after, Turn.total, Turn.net] using holds
  | cons turn rest hypothesis =>
    have ends := turn_ends holds (reads turn List.mem_cons_self)
    have later := fun other member => reads other (List.mem_cons_of_mem turn member)
    unfold Aggregate.made Aggregate.after
    cases ended : tally.function.turn state turn with
    | ok next =>
      rw [ended] at ends
      have goes := hypothesis ends.2 later
      simpa [Turn.total, Turn.net, Int.add_assoc] using goes
    | error failure => exact hypothesis holds later

end Tally

namespace Aggregate

/-- One more turn after some. -/
theorem after_concat (function : Aggregate) (state : Value) (turns : List Turn) (last : Turn) :
    function.after state (turns ++ [last]) =
      match function.turn (function.after state turns) last with
      | .ok next => next
      | .error _ => function.after state turns := by
  induction turns generalizing state with
  | nil => rfl
  | cons turn rest hypothesis =>
    rw [List.cons_append, after, after]
    cases function.turn state turn <;> exact hypothesis _

end Aggregate

namespace Turn

variable {number : Value → Int64} {turns others : List Turn}

/-- The sum of what was taken in, or of what was taken back. -/
def sum (number : Value → Int64) (direction : Aggregate.Direction) (turns : List Turn) : Int :=
  (((inputs direction turns).map number).map Int64.toInt).sum

theorem total_eq (number : Value → Int64) (turns : List Turn) :
    total number turns = sum number .take turns - sum number .giveBack turns := by
  induction turns with
  | nil => rfl
  | cons turn rest hypothesis =>
    obtain ⟨direction, input⟩ := turn
    cases direction with
    | take =>
      show 1 * (number input).toInt + total number rest =
        (number input).toInt + sum number .take rest - sum number .giveBack rest
      omega
    | giveBack =>
      show -1 * (number input).toInt + total number rest =
        sum number .take rest - ((number input).toInt + sum number .giveBack rest)
      omega

theorem net_eq (turns : List Turn) :
    net turns = (inputs .take turns).length - (inputs .giveBack turns).length := by
  induction turns with
  | nil => rfl
  | cons turn rest hypothesis =>
    obtain ⟨direction, input⟩ := turn
    cases direction with
    | take =>
      show 1 + net rest =
        ((inputs .take rest).length + 1 : Nat) - ((inputs .giveBack rest).length : Int)
      omega
    | giveBack =>
      show -1 + net rest =
        ((inputs .take rest).length : Int) - ((inputs .giveBack rest).length + 1 : Nat)
      omega

/-- **Where the same numbers are left, total and net number are the same.** -/
theorem SameLeft.totals (same : SameLeft number turns others) :
    total number turns = total number others ∧ net turns = net others := by
  have sums := (same.map Int64.toInt).sum_eq
  have lengths := same.length_eq
  simp only [List.map_append, List.sum_append, List.length_map, List.length_append] at sums lengths
  rw [total_eq, total_eq, net_eq, net_eq]
  unfold sum
  omega

end Turn

namespace Tally

/-- **Integer tallies are exact, and can be taken back.** Over objects that are read as integers,
the state after any turns from the start stands for the exact total and number of those that
succeeded. A turn succeeds exactly if what the function keeps of the next total and number fits, and
otherwise fails as an evaluation and leaves the state. What was just taken in can be taken back,
which restores the state; and turns that leave the same numbers end in the same state, in whatever
order they were made. -/
theorem after_exact (tally : Tally) (number : Value → Int64) {turns : List Turn}
    (reads : ∀ turn ∈ turns, tally.Reads number turn.input) :
    let made := tally.function.made tally.function.init turns
    let state := tally.function.after tally.function.init turns
    tally.Holds (Turn.total number made) (Turn.net made) state ∧
      (∀ turn, tally.Reads number turn.input →
        let total := Turn.total number made + turn.direction.sign * (number turn.input).toInt
        let net := Turn.net made + turn.direction.sign
        let next := tally.function.after tally.function.init (turns ++ [turn])
        (tally.Fits total net → tally.function.turn state turn = .ok next) ∧
          (¬ tally.Fits total net → next = state ∧ ∃ failure,
            tally.function.turn state turn = .error failure ∧ failure.kind = .evaluator)) ∧
      (∀ input next, tally.Reads number input →
        tally.function.turn state ⟨.take, input⟩ = .ok next →
          tally.function.turn next ⟨.giveBack, input⟩ = .ok state) ∧
      ∀ others : List Turn, (∀ turn ∈ others, tally.Reads number turn.input) →
        Turn.SameLeft number made (tally.function.made tally.function.init others) →
          tally.function.after tally.function.init others = state := by
  intro made state
  have holds : tally.Holds (Turn.total number made) (Turn.net made) state := by
    have held := after_holds tally.holds_init reads
    rwa [Int.zero_add, Int.zero_add] at held
  refine ⟨holds, fun turn read => ?_, fun input next read taken => turn_back holds read taken,
    fun others read same => ?_⟩
  · intro total net next
    have ends : tally.Ends total net (tally.function.turn state turn) := turn_ends holds read
    have last : next = _ := Aggregate.after_concat ..
    cases ended : tally.function.turn state turn with
    | ok value =>
      rw [ended] at ends last
      exact ⟨fun _ => congrArg Except.ok last.symm, fun outside => absurd ends.1 outside⟩
    | error failure =>
      rw [ended] at ends last
      exact ⟨fun fits => absurd fits ends.1, fun _ => ⟨last, failure, rfl, ends.2⟩⟩
  · have again := after_holds tally.holds_init read
    rw [Int.zero_add, Int.zero_add, ← same.totals.1, ← same.totals.2] at again
    exact again.unique holds

/-- The second of these objects does not fit on top of the first, and is not counted. The third was
never taken in, and is taken back all the same. -/
theorem average_overflow :
    let turns : List Turn :=
      [⟨.take, .int 9223372036854775807⟩, ⟨.take, .int 1⟩, ⟨.giveBack, .int 2⟩]
    (∀ turn ∈ turns, (average .identity).Reads (fun input => input.asInt?.getD 0) turn.input) ∧
      (average .identity).Holds 9223372036854775805 0
        ((average .identity).function.after (average .identity).function.init turns) := by
  intro turns
  have reads : ∀ turn ∈ turns,
      (average .identity).Reads (fun input => input.asInt?.getD 0) turn.input := by
    simp [turns, Reads, Value.asInt?]
  have made : (average .identity).function.made (average .identity).function.init turns =
      [⟨.take, .int 9223372036854775807⟩, ⟨.giveBack, .int 2⟩] := by decide +kernel
  have holds := (after_exact (average .identity) _ reads).1
  rw [made] at holds
  exact ⟨reads, holds⟩

end Tally

end RuleNet
