/-
**The keys of the standard aggregate functions.**

Nodes are shared by keys, so two aggregate functions with one key have to be interchangeable. The key
of a standard function is made of the name of the fold and the key of the extractor. The key of the
identity is a word that may also be the name of a field.

* `Folding`, `Reading`, `StandardAggregate`: the standard functions, as data;
* `Folding.key_injective`: the key of a function tells its fold and the key of its extractor;
* `Reading.key_eq_iff`: the key of an extractor tells all extractors apart, save two;
* `interchangeable_iff`: **equal keys mean equal results, except where the identity meets the field
  of that name**.
-/

import RuleNet.Fold.Standard
import RuleNet.Network.Node

namespace RuleNet

/-! ### The standard functions -/

/-- The folds that read each object through an extractor. -/
inductive Folding where
  | sum
  | average
  | least
  | greatest
deriving DecidableEq, Repr

/-- What a standard extractor reads. -/
inductive Reading where
  | identity
  | field (name : String)
deriving DecidableEq, Repr

/-- A standard aggregate function. -/
inductive StandardAggregate where
  | count
  | fold (folding : Folding) (reading : Reading)
deriving DecidableEq, Repr

def Reading.extractor : Reading → Extractor
  | identity => .identity
  | field name => .field name

def Folding.function : Folding → Extractor → Aggregate
  | sum => .sum
  | average => .average
  | least => .least
  | greatest => .greatest

def StandardAggregate.function : StandardAggregate → Aggregate
  | count => .count
  | fold folding reading => folding.function reading.extractor

/-- **The functions give the same result over every list of objects**, or fail with the same kind of
failure. -/
def Aggregate.Interchangeable (a b : Aggregate) : Prop :=
  ∀ inputs, (a.run inputs).outcome.mapError Failure.kind =
    (b.run inputs).outcome.mapError Failure.kind

/-! ### What keys tell -/

/-- **A key tells the fold and the key of the extractor.** -/
theorem Folding.key_injective {a b : Folding} {first second : Extractor}
    (same : (a.function first).key = (b.function second).key) : a = b ∧ first.key = second.key := by
  cases a <;> cases b <;>
    simp_all [Folding.function, Aggregate.sum, Aggregate.average, Aggregate.least,
      Aggregate.greatest, ← String.toList_inj]

/-- No fold has the key of the count. -/
theorem Folding.key_ne_count (folding : Folding) (extractor : Extractor) :
    (folding.function extractor).key ≠ Aggregate.count.key := by
  cases folding <;>
    simp [Folding.function, Aggregate.sum, Aggregate.average, Aggregate.least, Aggregate.greatest,
      Aggregate.count, ← String.toList_inj]

/-- One of the readings is the identity, and the other the field that is called like its key. -/
def Reading.Confused (a b : Reading) : Prop :=
  (a = .identity ∧ b = .field Extractor.identity.key) ∨
    (a = .field Extractor.identity.key ∧ b = .identity)

/-- **The key of an extractor tells all extractors apart, save two.** -/
theorem Reading.key_eq_iff (a b : Reading) :
    a.extractor.key = b.extractor.key ↔ a = b ∨ a.Confused b := by
  cases a <;> cases b <;>
    simp [Reading.extractor, Extractor.field, Reading.Confused, eq_comm]

/-- The functions fold alike, and their readings are confused. -/
def StandardAggregate.Confused (a b : StandardAggregate) : Prop :=
  ∃ folding first second, a = .fold folding first ∧ b = .fold folding second ∧
    first.Confused second

/-- **What the key of a standard function tells.** -/
theorem StandardAggregate.same_iff (a b : StandardAggregate) :
    a.function.same b.function = true ↔ a = b ∨ a.Confused b := by
  rw [Aggregate.same, decide_eq_true_eq]
  constructor
  · intro same
    cases a with
    | count =>
      cases b with
      | count => exact Or.inl rfl
      | fold folding reading => exact absurd same.symm (folding.key_ne_count _)
    | fold folding first =>
      cases b with
      | count => exact absurd same (folding.key_ne_count _)
      | fold other second =>
        obtain ⟨rfl, keys⟩ := Folding.key_injective same
        rcases (first.key_eq_iff second).mp keys with rfl | confused
        · exact Or.inl rfl
        · exact Or.inr ⟨folding, first, second, rfl, rfl, confused⟩
  · rintro (rfl | ⟨folding, first, second, rfl, rfl, confused⟩)
    · rfl
    · have keys := (first.key_eq_iff second).mpr (Or.inr confused)
      cases folding <;> exact congrArg (fun key => _ ++ key ++ _) keys

/-! ### Results -/

/-- A fold fails at the first object that cannot be read, with the failure of the extractor. -/
theorem Folding.run_of_error (folding : Folding) {extractor : Extractor} {input : Value}
    {failure : Failure} (fails : extractor.extract input = .error failure) (rest : List Value) :
    ((folding.function extractor).run (input :: rest)).outcome = .error failure := by
  have step : ∀ state, (folding.function extractor).step state input = .error failure := by
    intro state
    cases folding <;>
      simp only [function, Aggregate.sum, Aggregate.average, Aggregate.least, Aggregate.greatest,
        Aggregate.sumStep, Aggregate.averageStep, Aggregate.extremeStep, fails] <;> rfl
  simp only [Aggregate.run, Traced.fold_cons, Traced.outcome_bind, Aggregate.accumulate,
    Traced.outcome_ofCall, step]
  rfl

/-- A single number can be folded. -/
theorem Folding.run_number (folding : Folding) :
    ((folding.function .identity).run [.int 1]).outcome.isOk = true := by
  cases folding <;> decide +kernel

theorem Aggregate.Interchangeable.symm {a b : Aggregate} (alike : a.Interchangeable b) :
    b.Interchangeable a :=
  fun inputs => (alike inputs).symm

/-- A number can be folded as it is, and has no fields. -/
theorem Folding.identity_field (folding : Folding) (name : String) :
    ¬ (folding.function .identity).Interchangeable (folding.function (.field name)) := by
  intro alike
  have fails := folding.run_of_error
    (show (Extractor.field name).extract (.int 1) = .error _ from rfl) []
  have folds := folding.run_number
  have equal := alike [.int 1]
  rw [fails] at equal
  cases ran : ((folding.function .identity).run [.int 1]).outcome with
  | error failure =>
    rw [ran] at folds
    cases folds
  | ok value =>
    rw [ran] at equal
    cases equal

/-- **A confused function is not interchangeable with the one it is taken for.** -/
theorem StandardAggregate.Confused.not_interchangeable {a b : StandardAggregate}
    (confused : a.Confused b) : ¬ a.function.Interchangeable b.function := by
  obtain ⟨folding, first, second, rfl, rfl, ⟨rfl, rfl⟩ | ⟨rfl, rfl⟩⟩ := confused
  · exact folding.identity_field _
  · exact fun alike => folding.identity_field _ alike.symm

/-- **Equal keys mean equal results, except where the identity meets the field of that name.** Two
standard functions with one key are interchangeable exactly if they are not confused, and only
functions that are confused differ in spite of one key. -/
theorem interchangeable_iff {a b : StandardAggregate}
    (same : a.function.same b.function = true) :
    (a.function.Interchangeable b.function ↔ ¬ a.Confused b) ∧ (¬ a.Confused b → a = b) := by
  have told := (a.same_iff b).mp same
  have equal : ¬ a.Confused b → a = b := fun apart => told.resolve_right apart
  refine ⟨⟨fun alike confused => confused.not_interchangeable alike, fun apart inputs => ?_⟩, equal⟩
  rw [equal apart]

/-! ### A field that is called like the identity -/

/-- Sums of one field are one function, and the greatest object is not the greatest of a field. -/
theorem sum_interchangeable_greatest_not :
    (Aggregate.sum (.field "age")).Interchangeable (.sum (.field "age")) ∧
      ¬ (Aggregate.greatest .identity).Interchangeable (.greatest (.field "it")) := by
  have sums := @interchangeable_iff (.fold .sum (.field "age")) (.fold .sum (.field "age")) rfl
  have greatest := @interchangeable_iff (.fold .greatest .identity)
    (.fold .greatest (.field "it")) rfl
  refine ⟨sums.1.mpr ?_, fun alike => greatest.1.mp alike ?_⟩
  · rintro ⟨_, _, _, ⟨⟩, ⟨⟩, ⟨⟨⟩, _⟩ | ⟨_, ⟨⟩⟩⟩
  · exact ⟨.greatest, _, _, rfl, rfl, Or.inl ⟨rfl, rfl⟩⟩

/-- **Two functions with one key that are not interchangeable.** Over a box whose field holds a
number, one gives the box and the other the number, and a node for one stands for a node of the
other. -/
theorem greatest_it_shared :
    let box := ((Fact.named "Box").put "it" (.int 3)).toValue
    (NodeKind.accumulate [] [] [⟨.greatest .identity, 1⟩]).sharesWith
        (.accumulate [] [] [⟨.greatest (.field "it"), 1⟩]) = true ∧
      ((Aggregate.greatest .identity).run [box]).outcome = .ok box ∧
      ((Aggregate.greatest (.field "it")).run [box]).outcome = .ok (.int 3) ∧
      ¬ (Aggregate.greatest .identity).Interchangeable (.greatest (.field "it")) := by
  have different : ((Fact.named "Box").put "it" (.int 3)).toValue ≠ .int 3 := by decide +kernel
  have whole : ((Aggregate.greatest .identity).run
      [((Fact.named "Box").put "it" (.int 3)).toValue]).outcome =
        .ok ((Fact.named "Box").put "it" (.int 3)).toValue := rfl
  have part : ((Aggregate.greatest (.field "it")).run
      [((Fact.named "Box").put "it" (.int 3)).toValue]).outcome = .ok (.int 3) := rfl
  refine ⟨by decide +kernel, whole, part, fun alike => different ?_⟩
  have equal := alike [((Fact.named "Box").put "it" (.int 3)).toValue]
  rw [whole, part] at equal
  exact Except.ok.inj equal

end RuleNet
