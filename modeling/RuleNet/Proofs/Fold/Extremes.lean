/-
**Least and greatest values, and the order of the objects.**

The least and the greatest value of a list do not depend on its order. Whether the fold that looks
for them succeeds does: its state is nil before the first object, so a nil that comes first is taken
for no object at all, and one that comes after another value is compared with it and refused.

* `Value.Compares`: the order of the values other than doubles, case by case;
* `Value.NoWorse`: a value that is at least as good as another, with its laws;
* `Value.Foremost`: **the best value of a list**, which no permutation changes;
* `Extreme.run_eq_ok`: the fold succeeds exactly if the nils come first and the other values can be
  compared, and then returns the best of them;
* `Extreme.run_shuffled`: **two orders of the same values never give different results, and both or
  neither give one unless the nils come first in one of them only**.
-/

import RuleNet.Fold.Standard
import RuleNet.Proofs.Callback.Loops

namespace RuleNet

/-! ### The order of values -/

namespace Value

/-- How two values compare of which none is a double. -/
inductive Compares : Value → Value → Ordering → Prop
  | nil : Compares nil nil .eq
  | bool (x y : Bool) : Compares (bool x) (bool y) (compare x y)
  | int (x y : Int64) : Compares (int x) (int y) (compare x.toInt y.toInt)
  | string (x y : String) : Compares (string x) (string y) (compare x y)

/-- **The first value compares with the second**, and the second does not go before it. -/
def NoWorse (wanted : Ordering) (a b : Value) : Prop :=
  a.compare? b = some wanted ∨ a.compare? b = some .eq

section

variable {a b c : Value} {order wanted : Ordering}

theorem isNil_iff : a.isNil = true ↔ a = nil := by
  cases a <;> simp [isNil]

theorem compare?_eq_some (exact : a.asFloat? = none) (other : b.asFloat? = none) :
    a.compare? b = some order ↔ Compares a b order := by
  constructor
  · intro compared
    cases a <;> cases b <;> cases exact <;> cases other <;> cases compared <;> constructor
  · rintro (_ | _ | _ | _) <;> rfl

namespace Compares

theorem swap (compared : Compares a b order) : Compares b a order.swap := by
  cases compared with
  | nil => exact .nil
  | bool x y => exact (Std.OrientedCmp.eq_swap : compare y x = _) ▸ .bool y x
  | int x y => exact (Std.OrientedCmp.eq_swap : compare y.toInt x.toInt = _) ▸ .int y x
  | string x y => exact (Std.OrientedCmp.eq_swap : compare y x = _) ▸ .string y x

/-- **Values that compare as equal are equal.** -/
theorem eq (compared : Compares a b .eq) : a = b := by
  generalize same : Ordering.eq = order at compared
  cases compared with
  | nil => rfl
  | bool x y => rw [Std.LawfulEqCmp.eq_of_compare same.symm]
  | int x y => rw [Int64.toInt_inj.mp (Std.LawfulEqCmp.eq_of_compare same.symm)]
  | string x y => rw [Std.LawfulEqCmp.eq_of_compare same.symm]

/-- **Values that compare with a third compare with each other.** -/
theorem common {other : Ordering} (first : Compares c a order) (second : Compares c b other) :
    ∃ found, Compares a b found := by
  cases first <;> cases second
  · exact ⟨_, .nil⟩
  · exact ⟨_, .bool _ _⟩
  · exact ⟨_, .int _ _⟩
  · exact ⟨_, .string _ _⟩

theorem trans (first : Compares a b wanted) (second : Compares b c wanted) :
    Compares a c wanted := by
  have chain {α : Type} [Ord α] [Std.TransOrd α] {x y z : α} (same : compare x y = compare y z) :
      compare y z = compare x z := by
    cases compared : compare y z with
    | lt => exact (Std.TransCmp.lt_trans (same.trans compared) compared).symm
    | eq => exact (Std.TransCmp.eq_trans (same.trans compared) compared).symm
    | gt => exact (Std.TransCmp.gt_trans (same.trans compared) compared).symm
  generalize same : wanted = order at second
  cases first <;> cases second
  · exact .nil
  · exact chain same ▸ .bool _ _
  · exact chain same ▸ .int _ _
  · exact chain same ▸ .string _ _

end Compares

/-! ### Values that are no worse -/

variable (oriented : wanted ≠ .eq)

theorem noWorse_iff (exact : a.asFloat? = none) (other : b.asFloat? = none) :
    NoWorse wanted a b ↔ Compares a b wanted ∨ Compares a b .eq := by
  rw [NoWorse, compare?_eq_some exact other, compare?_eq_some exact other]

theorem NoWorse.trans (first : NoWorse wanted a b) (second : NoWorse wanted b c)
    (exact : a.asFloat? = none) (next : b.asFloat? = none) (last : c.asFloat? = none) :
    NoWorse wanted a c := by
  rw [noWorse_iff exact next] at first
  rw [noWorse_iff next last] at second
  rw [noWorse_iff exact last]
  rcases first with first | first
  · rcases second with second | second
    · exact Or.inl (first.trans second)
    · exact Or.inl (second.eq ▸ first)
  · rw [first.eq]
    exact second

theorem NoWorse.compares (noWorse : NoWorse wanted a b) (exact : a.asFloat? = none)
    (other : b.asFloat? = none) : ∃ order, Compares a b order := by
  rcases (noWorse_iff exact other).mp noWorse with found | found
  · exact ⟨_, found⟩
  · exact ⟨_, found⟩

include oriented in
/-- **Values that are no worse than each other are equal.** -/
theorem NoWorse.antisymm (first : NoWorse wanted a b) (second : NoWorse wanted b a)
    (exact : a.asFloat? = none) (other : b.asFloat? = none) : a = b := by
  rw [noWorse_iff exact other] at first
  rw [noWorse_iff other exact] at second
  rcases first with first | first
  · rcases second with second | second
    · have twice := (compare?_eq_some exact other).mpr second.swap
      rw [(compare?_eq_some exact other).mpr first] at twice
      cases wanted <;> simp_all
    · exact second.eq.symm
  · exact first.eq

/-! ### The best value of a list -/

/-- **The best value of a list**: one of its values that is no worse than each of the others. -/
def Foremost (wanted : Ordering) (best : Value) (values : List Value) : Prop :=
  best ∈ values ∧ ∀ other ∈ values.erase best, NoWorse wanted best other

variable {best : Value} {values others : List Value}

theorem Foremost.perm (foremost : Foremost wanted best values) (same : values.Perm others) :
    Foremost wanted best others :=
  ⟨same.mem_iff.mp foremost.1, fun other member =>
    foremost.2 other ((same.erase best).mem_iff.mpr member)⟩

theorem foremost_singleton : Foremost wanted best [a] ↔ best = a := by
  constructor
  · exact fun foremost => List.mem_singleton.mp foremost.1
  · rintro rfl
    exact ⟨List.mem_cons_self, fun other member => by simp at member⟩

theorem foremost_cons_self :
    Foremost wanted a (a :: values) ↔ ∀ b ∈ values, NoWorse wanted a b := by
  simp [Foremost]

theorem foremost_cons (other : best ≠ a) :
    Foremost wanted best (a :: values) ↔ NoWorse wanted best a ∧ Foremost wanted best values := by
  rw [Foremost, Foremost, List.erase_cons_tail (by simpa using other.symm), List.mem_cons,
    List.forall_mem_cons, or_iff_right other]
  exact and_left_comm

/-- **The first value compares with every other.** It is the best one itself, or one of those that
the best one is compared with. -/
theorem Foremost.compares (foremost : Foremost wanted best (a :: values)) (member : b ∈ values)
    (exact : ∀ value ∈ a :: values, value.asFloat? = none) : ∃ order, Compares a b order := by
  have plain := exact best foremost.1
  have first := exact a List.mem_cons_self
  have second := exact b (List.mem_cons_of_mem a member)
  by_cases same : best = a
  · subst same
    exact (foremost_cons_self.mp foremost b member).compares first second
  · obtain ⟨here, rest⟩ := (foremost_cons same).mp foremost
    obtain ⟨_, here⟩ := here.compares plain first
    by_cases other : b = best
    · subst other
      exact ⟨_, here.swap⟩
    · have later := rest.2 b ((List.mem_erase_of_ne other).mpr member)
      obtain ⟨_, there⟩ := later.compares plain second
      exact here.common there

include oriented in
/-- **A value that is no better than another one decides nothing.** -/
theorem foremost_cons_cons (better : NoWorse wanted a b)
    (exact : ∀ value ∈ a :: b :: values, value.asFloat? = none) :
    Foremost wanted best (a :: b :: values) ↔ Foremost wanted best (a :: values) := by
  have first := exact a List.mem_cons_self
  have second := exact b (List.mem_cons_of_mem _ List.mem_cons_self)
  by_cases same : best = a
  · subst same
    rw [foremost_cons_self, foremost_cons_self, List.forall_mem_cons, and_iff_right better]
  rw [foremost_cons same, foremost_cons same]
  refine and_congr_right fun here => ?_
  by_cases other : best = b
  · exact absurd (here.antisymm oriented (other ▸ better) (other ▸ second) first) same
  rw [foremost_cons other]
  refine and_iff_right_of_imp fun rest => here.trans better ?_ first second
  exact exact best (List.mem_cons_of_mem _ (List.mem_cons_of_mem _ rest.1))

include oriented in
/-- **A list has one best value at most.** -/
theorem Foremost.unique (foremost : Foremost wanted a values) (again : Foremost wanted b values)
    (exact : ∀ value ∈ values, value.asFloat? = none) : a = b := by
  by_cases same : a = b
  · exact same
  have there := foremost.2 b ((List.mem_erase_of_ne (Ne.symm same)).mpr again.1)
  have here := again.2 a ((List.mem_erase_of_ne same).mpr foremost.1)
  exact there.antisymm oriented here (exact a foremost.1) (exact b again.1)

end

end Value

/-! ### The fold -/

/-- The two folds that look for an extreme value. -/
inductive Extreme where
  | least
  | greatest
deriving DecidableEq, Repr

namespace Extreme

def function : Extreme → Extractor → Aggregate
  | least => .least
  | greatest => .greatest

/-- How the wanted value compares with the others. -/
def wanted : Extreme → Ordering
  | least => .lt
  | greatest => .gt

/-- **Every nil stands before all other values.** -/
def NilsFirst (values : List Value) : Prop :=
  values.Pairwise fun earlier later => later = .nil → earlier = .nil

/-- **The extreme value among those that are not nil**, and nil if there is none. -/
def Of (extreme : Extreme) (values : List Value) (result : Value) : Prop :=
  match values.filter fun value => !value.isNil with
  | [] => result = .nil
  | held => Value.Foremost extreme.wanted result held

/-- What the fold makes of its state and the next value. -/
def keep (extreme : Extreme) (state value : Value) : Option Value :=
  if state.isNil then some value
  else (value.compare? state).map fun order => if order = extreme.wanted then value else state

variable {extreme : Extreme} {extractor : Extractor} {inputs values : List Value}
  {state value result : Value}

theorem oriented (extreme : Extreme) : extreme.wanted ≠ .eq := by
  cases extreme <;> decide

/-! ### Steps and runs -/

theorem step_eq_ok {input next : Value} (read : extractor.extract input = .ok value) :
    (extreme.function extractor).step state input = .ok next ↔
      extreme.keep state value = some next := by
  have stepped : (extreme.function extractor).step state input =
      Aggregate.extremeStep extractor extreme.wanted state input := by cases extreme <;> rfl
  rw [stepped, Aggregate.extremeStep, read, Outcome.ok_bind, keep]
  split
  · simp
  · cases value.compare? state <;> simp [Fault.fail]

/-- **A fold over objects is a fold over what is read of them.** -/
theorem fold_eq_ok (read : inputs.map extractor.extract = values.map .ok) :
    (Traced.fold (extreme.function extractor).accumulate state inputs).outcome = .ok result ↔
      values.foldlM extreme.keep state = some result := by
  induction inputs generalizing state values with
  | nil =>
    obtain rfl : values = [] := List.map_eq_nil_iff.mp read.symm
    simp
  | cons input rest hypothesis =>
    obtain ⟨value, others, rfl, first, later⟩ := List.map_eq_cons_iff.mp read.symm
    rw [Traced.fold_cons, Traced.outcome_bind, Aggregate.accumulate, Traced.outcome_ofCall,
      Outcome.bind_eq_ok, List.foldlM_cons, Option.bind_eq_bind, Option.bind_eq_some_iff]
    refine exists_congr fun next => and_congr (step_eq_ok first.symm) (hypothesis later.symm)

theorem run_eq_fold (read : inputs.map extractor.extract = values.map .ok) :
    ((extreme.function extractor).run inputs).outcome = .ok result ↔
      values.foldlM extreme.keep .nil = some result := by
  rw [← fold_eq_ok read, Aggregate.run, Traced.outcome_bind, Outcome.bind_eq_ok]
  cases extreme <;> simp [function, Aggregate.result, Aggregate.least, Aggregate.greatest]

/-- Where two values cannot be compared, no list of them has a best value. -/
theorem keep_eq_none {rest : List Value}
    (exact : ∀ other ∈ state :: value :: rest, other.asFloat? = none)
    (fails : extreme.keep state value = none) :
    ¬ Value.Foremost extreme.wanted result (state :: value :: rest) := by
  intro foremost
  have first := exact state List.mem_cons_self
  have second := exact value (List.mem_cons_of_mem _ List.mem_cons_self)
  obtain ⟨order, found⟩ := foremost.compares List.mem_cons_self exact
  have there := (Value.compare?_eq_some second first).mpr found.swap
  unfold keep at fails
  split at fails
  · cases fails
  · rw [there] at fails
    cases fails

/-- **One step loses a value that is not the best**, and leaves no nil. -/
theorem keep_eq_some {next : Value} {rest : List Value}
    (exact : ∀ other ∈ state :: value :: rest, other.asFloat? = none) (begun : state ≠ .nil)
    (kept : extreme.keep state value = some next) :
    (Value.Foremost extreme.wanted result (state :: value :: rest) ↔
        Value.Foremost extreme.wanted result (next :: rest)) ∧
      next ≠ .nil ∧ next ∈ [state, value] := by
  have first := exact state List.mem_cons_self
  have second := exact value (List.mem_cons_of_mem _ List.mem_cons_self)
  rw [keep, if_neg (Value.isNil_iff.not.mpr begun)] at kept
  obtain ⟨order, compared, rfl⟩ := Option.map_eq_some_iff.mp kept
  have found := (Value.compare?_eq_some second first).mp compared
  by_cases better : order = extreme.wanted
  · have held : value ≠ .nil := by
      rintro rfl
      cases found
      exact begun rfl
    have swapped : (state :: value :: rest).Perm (value :: state :: rest) := .swap ..
    have same : Value.Foremost extreme.wanted result (state :: value :: rest) ↔
        Value.Foremost extreme.wanted result (value :: state :: rest) :=
      ⟨fun foremost => foremost.perm swapped, fun foremost => foremost.perm swapped.symm⟩
    rw [if_pos better, same, Value.foremost_cons_cons extreme.oriented (Or.inl (better ▸ compared))
      fun other member => exact other (swapped.mem_iff.mpr member)]
    exact ⟨Iff.rfl, held, List.mem_cons_of_mem _ List.mem_cons_self⟩
  · have back : Value.NoWorse extreme.wanted state value := by
      refine (Value.noWorse_iff first second).mpr ?_
      have back := found.swap
      cases extreme <;> cases order <;> simp_all [wanted]
    rw [if_neg better, Value.foremost_cons_cons extreme.oriented back exact]
    exact ⟨Iff.rfl, begun, List.mem_cons_self⟩

/-- **From a value on, the fold finds the best of it and the others**, unless two of them cannot be
compared. -/
theorem fold_foremost (exact : ∀ value ∈ state :: values, value.asFloat? = none)
    (begun : state ≠ .nil) :
    values.foldlM extreme.keep state = some result ↔
      Value.Foremost extreme.wanted result (state :: values) := by
  induction values generalizing state with
  | nil => simp [Value.foremost_singleton, eq_comm]
  | cons value rest hypothesis =>
    rw [List.foldlM_cons]
    cases kept : extreme.keep state value with
    | none => exact iff_of_false (fun folded => nomatch folded) (keep_eq_none exact kept)
    | some next =>
      obtain ⟨same, held, one⟩ := keep_eq_some exact begun kept
      have plain : ∀ other ∈ next :: rest, other.asFloat? = none :=
        List.forall_mem_cons.mpr ⟨exact next (List.mem_append_left rest one), fun other member =>
          exact other (List.mem_append_right [state, value] member)⟩
      rw [same]
      exact hypothesis plain held

/-- **The fold succeeds exactly if the nils come first and the other values can be compared**, and
then it returns the extreme one. -/
theorem run_eq_ok (read : inputs.map extractor.extract = values.map .ok)
    (exact : ∀ value ∈ values, value.asFloat? = none) :
    ((extreme.function extractor).run inputs).outcome = .ok result ↔
      NilsFirst values ∧ extreme.Of values result := by
  rw [run_eq_fold read]
  clear read
  induction values with
  | nil => simp [NilsFirst, Of, eq_comm]
  | cons value rest hypothesis =>
    rw [List.foldlM_cons]
    show List.foldlM extreme.keep value rest = some result ↔ _
    by_cases empty : value = .nil
    · subst empty
      rw [hypothesis fun other member => exact other (List.mem_cons_of_mem _ member)]
      simp [NilsFirst, Of, Value.isNil]
    · rw [fold_foremost exact empty]
      by_cases full : Value.nil ∈ rest
      · refine iff_of_false (fun foremost => ?_) fun both => ?_
        · obtain ⟨order, found⟩ := foremost.compares full exact
          cases found
          exact empty rfl
        · exact empty ((List.pairwise_cons.mp both.1).1 .nil full rfl)
      · have held : ∀ other ∈ value :: rest, other ≠ .nil :=
          List.forall_mem_cons.mpr ⟨empty, fun other member same => full (same ▸ member)⟩
        have same : (value :: rest).filter (fun other => !other.isNil) = value :: rest :=
          List.filter_eq_self.mpr fun other member => by
            simpa using Value.isNil_iff.not.mpr (held other member)
        rw [Of, same, iff_and_self]
        exact fun _ => List.pairwise_of_forall_mem_list fun earlier _ later member same =>
          absurd same (held later member)

/-! ### Other orders -/

theorem Of.perm {others : List Value} (found : extreme.Of values result)
    (same : values.Perm others) : extreme.Of others result := by
  have held := same.filter fun value => !value.isNil
  unfold Of at found ⊢
  generalize values.filter (fun value => !value.isNil) = kept at found held
  generalize others.filter (fun value => !value.isNil) = again at held
  cases kept with
  | nil =>
    obtain rfl := held.nil_eq
    exact found
  | cons value rest =>
    cases again with
    | nil => cases held.eq_nil
    | cons other more => exact Value.Foremost.perm found held

theorem Of.unique {other : Value} (found : extreme.Of values result)
    (again : extreme.Of values other) (exact : ∀ value ∈ values, value.asFloat? = none) :
    result = other := by
  have plain : ∀ value ∈ values.filter (fun value => !value.isNil), value.asFloat? = none :=
    fun value member => exact value (List.mem_filter.mp member).1
  unfold Of at found again
  generalize values.filter (fun value => !value.isNil) = kept at found again plain
  cases kept with
  | nil => exact found.trans again.symm
  | cons value rest => exact Value.Foremost.unique extreme.oriented found again plain

/-- **Another order of the same values gives no other result, and gives none only because of nils.**
A fold that succeeds returns the extreme value among those that are not nil. Two orders never give
different results, and one succeeds exactly if the other does, unless there is an extreme value and
the nils come first in one order only. -/
theorem run_shuffled {others shuffled : List Value}
    (read : inputs.map extractor.extract = values.map .ok)
    (again : others.map extractor.extract = shuffled.map .ok)
    (exact : ∀ value ∈ values, value.asFloat? = none) (same : values.Perm shuffled) :
    (∀ result, ((extreme.function extractor).run inputs).outcome = .ok result ↔
        NilsFirst values ∧ extreme.Of values result) ∧
      (∀ result other, ((extreme.function extractor).run inputs).outcome = .ok result →
        ((extreme.function extractor).run others).outcome = .ok other → result = other) ∧
      ((∀ result, ((extreme.function extractor).run inputs).outcome = .ok result ↔
          ((extreme.function extractor).run others).outcome = .ok result) ↔
        ((∃ result, extreme.Of values result) → (NilsFirst values ↔ NilsFirst shuffled))) := by
  have first := fun result => @run_eq_ok extreme _ _ _ result read exact
  have second := fun result => @run_eq_ok extreme _ _ _ result again
    fun value member => exact value (same.mem_iff.mpr member)
  have alike : ∀ result, extreme.Of shuffled result ↔ extreme.Of values result :=
    fun result => ⟨fun found => found.perm same.symm, fun found => found.perm same⟩
  refine ⟨first, fun result other here there => ?_, ?_⟩
  · exact ((first result).mp here).2.unique ((alike other).mp ((second other).mp there).2) exact
  · simp only [first, second, alike]
    constructor
    · rintro equal ⟨result, found⟩
      simpa [found] using equal result
    · intro nils result
      exact and_congr_left fun found => nils ⟨result, found⟩

/-- With the nil in front, both orders of two numbers have the least one. -/
theorem least_nil_first :
    (∀ result, ((Aggregate.least .identity).run [.nil, .int 3, .int 1]).outcome = .ok result ↔
        ((Aggregate.least .identity).run [.nil, .int 1, .int 3]).outcome = .ok result) ∧
      ((Aggregate.least .identity).run [.nil, .int 3, .int 1]).outcome = .ok (.int 1) := by
  have swapped : [Value.nil, .int 3, .int 1].Perm [.nil, .int 1, .int 3] :=
    (List.Perm.swap ..).cons _
  have both := @run_shuffled .least .identity [.nil, .int 3, .int 1] _ [.nil, .int 1, .int 3] _
    rfl rfl (by decide) swapped
  have first : NilsFirst [.nil, .int 3, .int 1] := by unfold NilsFirst; decide
  have second : NilsFirst [.nil, .int 1, .int 3] := by unfold NilsFirst; decide
  exact ⟨both.2.2.mpr fun _ => iff_of_true first second, rfl⟩

/-- **A nil decides by its place.** Before the number it is passed over, and after the number it is
refused. -/
theorem least_nil_refused :
    [Value.nil, .int 1].Perm [.int 1, .nil] ∧
      ((Aggregate.least .identity).run [.nil, .int 1]).outcome = .ok (.int 1) ∧
      ((Aggregate.least .identity).run [.int 1, .nil]).outcome =
        (Fault.typeMismatch .int .nil).fail :=
  ⟨.swap .., rfl, rfl⟩

end Extreme

end RuleNet
