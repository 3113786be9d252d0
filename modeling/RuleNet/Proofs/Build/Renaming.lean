/-
**Rules with other variables.**

The variables of a rule can be renamed, as long as different ones stay different and each keeps its
type. Nothing that the compiler looks at changes: variables are resolved to places before
constraints are compared, and callbacks are compared by their keys.

* `Renaming`: a renaming of variables;
* `Rule.Renamed`: a rule of the same structure over the renamed variables. Its name, its salience
  and the bodies of its callbacks are its own;
* `BuildContext.Renamed`: the contexts half way through two such rules;
* `mirrors_requireOffset`, `mirrors_partition`, `mirrors_bindAll`: **every check of the compiler
  that succeeds for the first rule succeeds for the second**, with the same places.
-/

import Mathlib.Data.List.Forall2
import RuleNet.Build.Classify
import RuleNet.Condition.View
import RuleNet.Proofs.Callback.Loops
import RuleNet.Proofs.Network.SharingKey

namespace RuleNet

/-! ### Renamed rules -/

/-- **An injective renaming of variables** to variables of the same types. -/
structure Renaming where
  rename : Variable → Variable
  same : ∀ a b, (rename a).same (rename b) = a.same b
  type : ∀ v, (rename v).type = v.type

section

variable (names : Renaming)

/-- A predicate of one key over the renamed variables. -/
structure SingleConstraint.Renamed (first second : SingleConstraint) : Prop where
  key : second.predicate.key = first.predicate.key
  reads : second.reads = first.reads.map names.rename

/-- A function of one key with the renamed result. -/
structure Binding.Renamed (first second : Binding) : Prop where
  key : second.function.key = first.function.key
  result : second.result = names.rename first.result

/-- A function of one key over the renamed variables. -/
structure Invocation.Renamed (first second : Invocation) : Prop where
  key : second.key = first.key
  iterable : second.iterable = first.iterable
  params : second.params = first.params.map names.rename

/-- One use of objects. -/
inductive PatternUse.Renamed : PatternUse → PatternUse → Prop
  | plain : Renamed .plain .plain
  | existential (quantifier : Quantifier) :
    Renamed (.existential quantifier) (.existential quantifier)
  | accumulate {first second : List Binding}
      (each : List.Forall₂ (Binding.Renamed names) first second) :
    Renamed (.accumulate first) (.accumulate second)
  | invoke {first second : Invocation} (same : first.Renamed names second) :
    Renamed (.invoke first) (.invoke second)

/-- One pattern over the renamed variables. -/
structure Pattern.Renamed (first second : Pattern) : Prop where
  subject : second.subject = names.rename first.subject
  source : second.source = first.source
  constraint : List.Forall₂ (SingleConstraint.Renamed names) first.constraint.singles
    second.constraint.singles
  use : first.use.Renamed names second.use

namespace Condition

mutual

/-- **One view over the renamed variables.** -/
def Renamed : Condition → Condition → Prop
  | .pattern first, .pattern second => first.Renamed names second
  | .and first, .and second => RenamedAll first second
  | .or first, .or second => RenamedAll first second
  | .objectPath first, .objectPath second =>
    second.root = names.rename first.root ∧ second.path = first.path ∧
      second.target = names.rename first.target
  | _, _ => False
termination_by structural view => view

def RenamedAll : List Condition → List Condition → Prop
  | [], [] => True
  | first :: rest, second :: others => Renamed first second ∧ RenamedAll rest others
  | _, _ => False
termination_by structural parts => parts

end

end Condition

/-- **One rule over the renamed variables.** -/
structure Rule.Renamed (first second : Rule) : Prop where
  view : first.view.Renamed names second.view
  bindings : second.consequence.bindings = first.consequence.bindings.map names.rename

/-- **Contexts half way through two such rules.** The variables have the same places. -/
structure BuildContext.Renamed (first second : BuildContext) : Prop where
  objectCursor : second.objectCursor = first.objectCursor
  tupleCursor : second.tupleCursor = first.tupleCursor
  width : second.width = first.width
  bound : second.bound = first.bound.map fun entry => (names.rename entry.1, entry.2)

end

/-! ### Checks that succeed -/

section

variable {names : Renaming} {context again : BuildContext} {own : Variable}

/-- The renamed variables of a list, one by one. -/
theorem Renaming.forall₂_map (names : Renaming) (params : List Variable) :
    List.Forall₂ (fun v w => w = names.rename v) params (params.map names.rename) := by
  induction params with
  | nil => exact .nil
  | cons v rest hypothesis => exact .cons rfl hypothesis

namespace BuildContext

/-- **Every variable has the place that its renamed variable has.** -/
theorem Renamed.offset? (renamed : context.Renamed names again) (v : Variable) :
    again.offset? (names.rename v) = context.offset? v := by
  have same : (fun entry : Variable × Nat =>
      (names.rename entry.1).same (names.rename v)) = fun entry => entry.1.same v := by
    funext entry
    exact names.same entry.1 v
  simp only [BuildContext.offset?, renamed.bound, List.find?_map, Function.comp_def, same,
    Option.map_map]

theorem mirrors_requireOffset (renamed : context.Renamed names again) (v : Variable)
    (reader other : String) :
    Outcome.Mirrors (context.requireOffset v reader)
      (again.requireOffset (names.rename v) other) (· = ·) := by
  unfold requireOffset
  rw [renamed.offset?]
  cases context.offset? v with
  | some offset => exact Outcome.Mirrors.ok rfl
  | none => exact fun value never => nomatch never

/-- Several variables have the same places. -/
theorem mirrors_requireOffsets (renamed : context.Renamed names again)
    (params : List Variable) (reader other : String) :
    Outcome.Mirrors (params.mapM fun v => context.requireOffset v reader)
      ((params.map names.rename).mapM fun v => again.requireOffset v other) (· = ·) := by
  intro places found
  obtain ⟨answers, same, equal⟩ := Outcome.mirrors_mapM (names.forall₂_map params)
    (fun v w named => named ▸ mirrors_requireOffset renamed v reader other) places found
  exact ⟨answers, same, List.forall₂_eq_eq_eq ▸ equal⟩

theorem mirrors_checkComplete (renamed : context.Renamed names again) :
    Outcome.Mirrors context.checkComplete again.checkComplete (· = ·) := by
  unfold checkComplete
  rw [renamed.objectCursor, renamed.tupleCursor]
  split
  · exact Outcome.Mirrors.ok rfl
  · exact fun value never => nomatch never

theorem mirrors_requireObjectCursor (renamed : context.Renamed names again)
    (reader other : String) :
    Outcome.Mirrors (context.requireObjectCursor reader) (again.requireObjectCursor other)
      (· = ·) := by
  unfold requireObjectCursor
  rw [renamed.objectCursor]
  cases context.objectCursor with
  | some node => exact Outcome.Mirrors.ok rfl
  | none => exact fun value never => nomatch never

theorem mirrors_requireTupleCursor (renamed : context.Renamed names again)
    (reader other : String) :
    Outcome.Mirrors (context.requireTupleCursor reader) (again.requireTupleCursor other)
      (· = ·) := by
  unfold requireTupleCursor
  rw [renamed.tupleCursor]
  cases context.tupleCursor with
  | some node => exact Outcome.Mirrors.ok rfl
  | none => exact fun value never => nomatch never

end BuildContext

namespace SingleConstraint

variable {first second : SingleConstraint}

theorem Renamed.isConstant (renamed : first.Renamed names second) :
    second.isConstant = first.isConstant := by
  simp [SingleConstraint.isConstant, renamed.reads]

theorem mirrors_classOf (renamed : context.Renamed names again) (key other : String)
    (seen : ConstraintClass) (reads : List Variable) :
    Outcome.Mirrors (classOf key own context seen reads)
      (classOf other (names.rename own) again seen (reads.map names.rename)) (· = ·) := by
  induction reads generalizing seen with
  | nil => exact Outcome.Mirrors.ok rfl
  | cons v rest hypothesis =>
    rw [List.map_cons, classOf, classOf, names.same, renamed.offset?]
    split
    · exact hypothesis seen
    · cases context.offset? v with
      | none => exact fun value never => nomatch never
      | some offset => exact hypothesis .beta

theorem mirrors_classify (renamed : context.Renamed names again)
    (same : first.Renamed names second) :
    Outcome.Mirrors (first.classify own context) (second.classify (names.rename own) again)
      (· = ·) := by
  unfold classify
  rw [same.isConstant, same.reads]
  split
  · exact Outcome.Mirrors.ok rfl
  · exact mirrors_classOf renamed _ _ _ _

/-- **A constraint reads the same places**, and is compared by the same key. -/
theorem mirrors_bind (renamed : context.Renamed names again)
    (same : first.Renamed names second) :
    Outcome.Mirrors (first.bind own context) (second.bind (names.rename own) again)
      fun a b => a.sharingKey = b.sharingKey := by
  unfold SingleConstraint.bind
  rw [same.reads]
  have slot : ∀ v w, w = names.rename v → Outcome.Mirrors
      (if v.same own then .ok Slot.object else do
        let offset ← context.requireOffset v first.predicate.key
        .ok (Slot.tuple offset))
      (if w.same (names.rename own) then .ok Slot.object else do
        let offset ← again.requireOffset w second.predicate.key
        .ok (Slot.tuple offset)) (· = ·) := by
    rintro v _ rfl
    rw [names.same]
    split
    · exact Outcome.Mirrors.ok rfl
    · refine (BuildContext.mirrors_requireOffset renamed v _ _).bind fun offset place equal => ?_
      exact Outcome.Mirrors.ok (congrArg Slot.tuple equal)
  refine (Outcome.mirrors_mapM (names.forall₂_map first.reads) slot).bind
    fun slots places equal => Outcome.Mirrors.ok ?_
  have equal : slots = places := List.forall₂_eq_eq_eq ▸ equal
  exact Prod.ext same.key.symm equal

theorem mirrors_bindAll (renamed : context.Renamed names again)
    {singles others : List SingleConstraint}
    (each : List.Forall₂ (SingleConstraint.Renamed names) singles others) :
    Outcome.Mirrors (bindAll singles own context) (bindAll others (names.rename own) again)
      fun a b => a.map BoundConstraint.sharingKey = b.map BoundConstraint.sharingKey := by
  intro constraints bound
  obtain ⟨answers, same, keys⟩ := Outcome.mirrors_mapM each
    (fun _ _ one => mirrors_bind renamed one) constraints bound
  have mapped : List.Forall₂ (· = ·) (constraints.map BoundConstraint.sharingKey)
      (answers.map BoundConstraint.sharingKey) :=
    List.forall₂_map_left_iff.mpr (List.forall₂_map_right_iff.mpr keys)
  exact ⟨answers, same, List.forall₂_eq_eq_eq ▸ mapped⟩

end SingleConstraint

namespace Classified

/-- The constraints of two patterns by class. -/
structure Renamed (names : Renaming) (first second : Classified) : Prop where
  constant : List.Forall₂ (SingleConstraint.Renamed names) first.constant second.constant
  alpha : List.Forall₂ (SingleConstraint.Renamed names) first.alpha second.alpha
  beta : List.Forall₂ (SingleConstraint.Renamed names) first.beta second.beta

/-- **Constraints fall into the same classes.** -/
theorem mirrors_partition (renamed : context.Renamed names again)
    {singles others : List SingleConstraint}
    (each : List.Forall₂ (SingleConstraint.Renamed names) singles others) :
    Outcome.Mirrors (partition own context singles) (partition (names.rename own) again others)
      (Renamed names) := by
  induction each with
  | nil => exact Outcome.Mirrors.ok ⟨.nil, .nil, .nil⟩
  | cons one _ hypothesis =>
    rw [partition, partition]
    refine (SingleConstraint.mirrors_classify renamed one).bind fun kind same equal => ?_
    subst equal
    refine hypothesis.bind fun known there rest => Outcome.Mirrors.ok ?_
    cases kind with
    | constant => exact ⟨.cons one rest.constant, rest.alpha, rest.beta⟩
    | alpha => exact ⟨rest.constant, .cons one rest.alpha, rest.beta⟩
    | beta => exact ⟨rest.constant, rest.alpha, .cons one rest.beta⟩

end Classified

end

end RuleNet
