/-
**Working memory is an exact ledger.**

A source holds what was put into it and not retracted since, in the order of the puts. No two
objects of all sources have one handle, so a retraction takes out one object and no other, whatever
source is searched first.

* `Step`, `after`, `answers`: what is done to working memory, the memory after several steps, and
  the handles that the puts answer with;
* `standing`, `Stands`: **the objects that were put and not retracted since**, over all sources;
* `retract_eq`: with distinct handles, a retraction is a filter on every source;
* `Holds`: working memory holds a list of objects, each in its source;
* `Holds.put`, `Holds.retract`, `Holds.after`: **every step, and so every run, keeps the ledger**;
* `Exact`, `exact_after`: all of what the ledger says of working memory, after any steps.
-/

import Mathlib.Data.List.Nodup
import RuleNet.Proofs.Handles

namespace RuleNet

namespace WorkingMemory

/-! ### Steps -/

/-- **What is done to working memory.** -/
inductive Step where
  | put (source : Source) (value : Value)
  | retract (handle : Handle)
deriving DecidableEq

/-- **Working memory takes a step.** A put answers with a handle. -/
def take (memory : WorkingMemory) : Step → Option Handle × WorkingMemory
  | .put source value =>
    let (handle, after) := memory.put source value
    (some handle, after)
  | .retract handle => (none, (memory.retract handle).2)

/-- **Working memory after several steps.** -/
def after (memory : WorkingMemory) : List Step → WorkingMemory
  | [] => memory
  | step :: rest => (memory.take step).2.after rest

/-- The handles that the puts among several steps answer with, in their order. -/
def answers (memory : WorkingMemory) : List Step → List Handle
  | [] => []
  | step :: rest => (memory.take step).1.toList ++ (memory.take step).2.answers rest

/-- The number of puts among several steps. -/
def puts : List Step → Nat
  | [] => 0
  | .put _ _ :: rest => puts rest + 1
  | .retract _ :: rest => puts rest

/-- **The objects that were put and not retracted since**, with their sources, oldest first. The
first put gives the handle `first`. -/
def standing (first : Nat) : List Step → List (Source × Held)
  | [] => []
  | .put source value :: rest =>
    if .retract ⟨first⟩ ∈ rest then standing (first + 1) rest
    else (source, ⟨⟨first⟩, value⟩) :: standing (first + 1) rest
  | .retract _ :: rest => standing first rest

theorem after_append (memory : WorkingMemory) (steps rest : List Step) :
    memory.after (steps ++ rest) = (memory.after steps).after rest := by
  induction steps generalizing memory with
  | nil => rfl
  | cons step later hypothesis => exact hypothesis _

theorem answers_append (memory : WorkingMemory) (steps rest : List Step) :
    memory.answers (steps ++ rest) = memory.answers steps ++ (memory.after steps).answers rest := by
  induction steps generalizing memory with
  | nil => rfl
  | cons step later hypothesis =>
    have first := congrArg ((memory.take step).1.toList ++ ·) (hypothesis (memory.take step).2)
    exact first.trans (List.append_assoc _ _ _).symm

theorem puts_cons (step : Step) (rest : List Step) :
    puts (step :: rest) = puts [step] + puts rest := by
  cases step
  · exact Nat.add_comm _ _
  · exact (Nat.zero_add _).symm

/-- **An object was put, and its handle was not retracted after that.** -/
def Stands (first : Nat) (steps : List Step) (source : Source) (held : Held) : Prop :=
  ∃ before later, steps = before ++ .put source held.value :: later ∧
    held.handle = ⟨first + puts before⟩ ∧ .retract held.handle ∉ later

theorem stands_cons {first : Nat} {step : Step} {rest : List Step} {source : Source} {held : Held} :
    Stands first (step :: rest) source held ↔
      (step = .put source held.value ∧ held.handle = ⟨first⟩ ∧ .retract held.handle ∉ rest) ∨
        Stands (first + puts [step]) rest source held := by
  constructor
  · rintro ⟨before, later, whole, handle, kept⟩
    cases before with
    | nil =>
      cases whole
      exact Or.inl ⟨rfl, handle, kept⟩
    | cons one others =>
      rw [List.cons_append, List.cons.injEq] at whole
      obtain ⟨rfl, rfl⟩ := whole
      rw [puts_cons, ← Nat.add_assoc] at handle
      exact Or.inr ⟨others, later, rfl, handle, kept⟩
  · rintro (⟨rfl, handle, kept⟩ | ⟨before, later, rfl, handle, kept⟩)
    · exact ⟨[], rest, rfl, handle, kept⟩
    · rw [Nat.add_assoc, ← puts_cons] at handle
      exact ⟨step :: before, later, rfl, handle, kept⟩

theorem mem_standing {first : Nat} {steps : List Step} {source : Source} {held : Held} :
    (source, held) ∈ standing first steps ↔ Stands first steps source held := by
  induction steps generalizing first with
  | nil =>
    refine ⟨fun member => (nomatch member), ?_⟩
    rintro ⟨before, later, whole, _⟩
    cases before <;> cases whole
  | cons step rest hypothesis =>
    rw [stands_cons, ← hypothesis]
    cases step with
    | retract handle =>
      exact ⟨Or.inr, fun either => either.elim (fun first => nomatch first.1) id⟩
    | put other value =>
      show (source, held) ∈ (if _ then _ else _) ↔ _ ∨ (source, held) ∈ standing (first + 1) rest
      split
      · rename_i gone
        refine ⟨Or.inr, ?_⟩
        rintro (⟨_, handle, kept⟩ | member)
        · exact absurd (handle ▸ gone) kept
        · exact member
      · rename_i kept
        rw [List.mem_cons]
        refine or_congr_left ⟨?_, ?_⟩
        · intro same
          cases same
          exact ⟨rfl, rfl, kept⟩
        · rintro ⟨same, handle, _⟩
          cases same
          rw [← handle]

/-! ### Retraction as a filter -/

/-- The objects of all sources. -/
def all (memory : WorkingMemory) : List Held :=
  (memory.entryPoints ++ memory.streams).flatMap Prod.snd

/-- The objects under other handles. -/
def others (handle : Handle) (objects : List Held) : List Held :=
  objects.filter fun held => held.handle ≠ handle

/-- The sources without the object under a handle. -/
def without (handle : Handle) (map : NameMap (List Held)) : NameMap (List Held) :=
  map.map fun entry => (entry.1, others handle entry.2)

variable {handle : Handle}

theorem others_eq_self {objects : List Held} (missing : handle ∉ objects.map Held.handle) :
    others handle objects = objects := by
  refine List.filter_eq_self.mpr fun held member => decide_eq_true fun same => missing ?_
  exact same ▸ List.mem_map_of_mem member

theorem without_eq_self {map : NameMap (List Held)}
    (missing : handle ∉ (map.flatMap Prod.snd).map Held.handle) : without handle map = map := by
  refine (List.map_congr_left fun entry member => ?_).trans (List.map_id map)
  have inside : ∀ held ∈ entry.2, held ∈ map.flatMap Prod.snd := fun held own =>
    List.mem_flatMap.mpr ⟨entry, member, own⟩
  have same : others handle entry.2 = entry.2 :=
    others_eq_self fun listed => missing <| by
      obtain ⟨held, own, named⟩ := List.mem_map.mp listed
      exact List.mem_map.mpr ⟨held, inside held own, named⟩
  rw [same]
  rfl

theorem flatMap_without (handle : Handle) (map : NameMap (List Held)) :
    (without handle map).flatMap Prod.snd = others handle (map.flatMap Prod.snd) := by
  rw [without, others, List.flatMap_map, List.filter_flatMap]
  rfl

/-- The first object under a handle, in a list. -/
def lookup (handle : Handle) (objects : List Held) : Option Value :=
  (objects.find? fun held => held.handle = handle).map Held.value

theorem missing_of_lookup {objects : List Held} (none : lookup handle objects = none) :
    handle ∉ objects.map Held.handle := fun listed => by
  obtain ⟨held, member, rfl⟩ := List.mem_map.mp listed
  have different := List.find?_eq_none.mp (Option.map_eq_none_iff.mp none) held member
  exact different (decide_eq_true rfl)

theorem lookup_append (objects more : List Held) :
    lookup handle (objects ++ more) = (lookup handle objects).or (lookup handle more) := by
  rw [lookup, List.find?_append, Option.map_or]
  rfl

/-- **With distinct handles, at most one object is under a handle.** -/
theorem lookup_eq_some {objects : List Held} (distinct : (objects.map Held.handle).Nodup)
    {value : Value} : lookup handle objects = some value ↔ ⟨handle, value⟩ ∈ objects := by
  constructor
  · intro found
    obtain ⟨held, first, rfl⟩ := Option.map_eq_some_iff.mp found
    have same : held.handle = handle := by simpa using List.find?_some first
    rw [← same]
    exact List.mem_of_find?_eq_some first
  · intro member
    cases found : lookup handle objects with
    | none =>
      have unseen := List.find?_eq_none.mp (Option.map_eq_none_iff.mp found) _ member
      exact absurd (decide_eq_true rfl) unseen
    | some other =>
      obtain ⟨held, first, rfl⟩ := Option.map_eq_some_iff.mp found
      have same : held.handle = handle := by simpa using List.find?_some first
      have equal := List.inj_on_of_nodup_map distinct (List.mem_of_find?_eq_some first) member same
      rw [equal]

/-- Out of one list. -/
theorem takeFrom_eq {objects : List Held} (distinct : (objects.map Held.handle).Nodup) :
    takeFrom handle objects =
      (lookup handle objects).map fun value => (value, others handle objects) := by
  induction objects with
  | nil => rfl
  | cons held rest hypothesis =>
    obtain ⟨unseen, distinct⟩ := List.nodup_cons.mp distinct
    rw [takeFrom]
    by_cases here : held.handle = handle
    · have rest_same : others handle rest = rest := others_eq_self (here ▸ unseen)
      have dropped : others handle (held :: rest) = others handle rest :=
        List.filter_cons_of_neg (by simp [here])
      rw [if_pos here, dropped, rest_same]
      simp [lookup, here]
    · have kept : others handle (held :: rest) = held :: others handle rest :=
        List.filter_cons_of_pos (by simp [here])
      have later : lookup handle (held :: rest) = lookup handle rest := by simp [lookup, here]
      rw [if_neg here, hypothesis distinct, kept, later, Option.map_map]
      rfl

/-- Out of a family of sources: the other sources do not have the handle. -/
theorem takeFromAny_eq {map : NameMap (List Held)}
    (distinct : ((map.flatMap Prod.snd).map Held.handle).Nodup) :
    takeFromAny handle map =
      (lookup handle (map.flatMap Prod.snd)).map fun value => (value, without handle map) := by
  induction map with
  | nil => rfl
  | cons head rest hypothesis =>
    obtain ⟨name, objects⟩ := head
    rw [List.flatMap_cons, List.map_append, List.nodup_append] at distinct
    obtain ⟨own, later, apart⟩ := distinct
    rw [takeFromAny, takeFrom_eq own, List.flatMap_cons, lookup_append]
    cases here : lookup handle objects with
    | some value =>
      have listed : handle ∈ objects.map Held.handle :=
        List.mem_map_of_mem ((lookup_eq_some own).mp here)
      have same : without handle rest = rest :=
        without_eq_self fun there => apart handle listed handle there rfl
      show some (value, (name, others handle objects) :: rest) =
        some (value, (name, others handle objects) :: without handle rest)
      rw [same]
    | none =>
      show (takeFromAny handle rest).map _ = (lookup handle (rest.flatMap Prod.snd)).map _
      rw [hypothesis later, Option.map_map]
      congr 1
      funext value
      show (value, (name, objects) :: without handle rest) =
        (value, (name, others handle objects) :: without handle rest)
      rw [others_eq_self (missing_of_lookup here)]

/-- **With distinct handles, a retraction is a filter on every source.** -/
theorem retract_eq {memory : WorkingMemory} (distinct : (memory.all.map Held.handle).Nodup)
    (handle : Handle) :
    memory.retract handle = (lookup handle memory.all,
      { memory with
        entryPoints := without handle memory.entryPoints
        streams := without handle memory.streams }) := by
  rw [all, List.flatMap_append] at distinct ⊢
  rw [List.map_append, List.nodup_append] at distinct
  obtain ⟨polled, reactive, apart⟩ := distinct
  rw [lookup_append, retract, takeFromAny_eq polled, takeFromAny_eq reactive]
  -- the family that does not have the handle is not changed by the filter
  have unchanged : ∀ {map : NameMap (List Held)},
      lookup handle (map.flatMap Prod.snd) = none → without handle map = map :=
    fun none => without_eq_self (missing_of_lookup none)
  cases here : lookup handle (memory.entryPoints.flatMap Prod.snd) with
  | some value =>
    have listed := List.mem_map_of_mem (f := Held.handle) ((lookup_eq_some polled).mp here)
    have same : without handle memory.streams = memory.streams :=
      without_eq_self fun there => apart handle listed handle there rfl
    rw [same]
    rfl
  | none =>
    rw [unchanged here]
    cases there : lookup handle (memory.streams.flatMap Prod.snd) with
    | some value => rfl
    | none =>
      rw [unchanged there]
      rfl

theorem size_eq (memory : WorkingMemory) : memory.size = memory.all.length := rfl

/-! ### The ledger -/

/-- **Working memory holds a list of objects**, each in its source and in the order of the list, and
nothing else. The handles rise along the list and were all given out. -/
structure Holds (memory : WorkingMemory) (ledger : List (Source × Held)) : Prop where
  objects : ∀ source,
    memory.objects source = (ledger.filter fun entry => entry.1 = source).map Prod.snd
  all : memory.all.Perm (ledger.map Prod.snd)
  rising : ledger.Pairwise fun earlier later => earlier.2.handle.index < later.2.handle.index
  given : ∀ entry ∈ ledger, entry.2.handle.index < memory.nextHandle
  entryPoints : NameMap.Ordered memory.entryPoints
  streams : NameMap.Ordered memory.streams

theorem holds_empty : WorkingMemory.empty.Holds [] where
  objects source := by cases source <;> rfl
  all := List.Perm.refl []
  rising := .nil
  given _ member := nomatch member
  entryPoints := .nil
  streams := .nil

namespace Holds

variable {memory : WorkingMemory} {ledger : List (Source × Held)}

theorem distinct (holds : memory.Holds ledger) : (memory.all.map Held.handle).Nodup := by
  rw [(holds.all.map Held.handle).nodup_iff, List.map_map]
  refine List.pairwise_map.mpr (holds.rising.imp fun less same => ?_)
  exact Nat.lt_irrefl _ ((congrArg Handle.index same) ▸ less)

/-- **An object enters at the end of the ledger.** -/
theorem put (holds : memory.Holds ledger) (source : Source) (value : Value) :
    (memory.put source value).2.Holds (ledger ++ [(source, ⟨memory.next, value⟩)]) where
  objects other := by
    rw [List.filter_append, List.map_append, ← holds.objects]
    by_cases same : other = source
    · subst same
      simp [objects_put_same]
    · simp [objects_put_other memory value same, Ne.symm same]
  all := by
    rw [List.map_append]
    refine List.Perm.trans ?_ (holds.all.append_right [⟨memory.next, value⟩])
    cases source with
    | entryPoint name =>
      have more := NameMap.flatMap_set_append holds.entryPoints name ⟨memory.next, value⟩
      show ((append memory.entryPoints name _ ++ memory.streams).flatMap Prod.snd).Perm
        ((memory.entryPoints ++ memory.streams).flatMap Prod.snd ++ _)
      rw [List.flatMap_append, List.flatMap_append, List.append_assoc]
      refine (more.append_right _).trans ?_
      rw [List.append_assoc]
      exact List.perm_append_comm.append_left _
    | stream name =>
      have more := NameMap.flatMap_set_append holds.streams name ⟨memory.next, value⟩
      show ((memory.entryPoints ++ append memory.streams name _).flatMap Prod.snd).Perm
        ((memory.entryPoints ++ memory.streams).flatMap Prod.snd ++ _)
      rw [List.flatMap_append, List.flatMap_append, List.append_assoc]
      exact more.append_left _
  rising := by
    rw [List.pairwise_append]
    refine ⟨holds.rising, List.pairwise_singleton _ _, fun earlier member last own => ?_⟩
    rw [List.mem_singleton.mp own]
    exact holds.given earlier member
  given entry member := by
    have next : (memory.put source value).2.nextHandle = memory.nextHandle + 1 := by
      cases source <;> rfl
    rw [next]
    rcases List.mem_append.mp member with earlier | last
    · exact Nat.lt_succ_of_lt (holds.given entry earlier)
    · rw [List.mem_singleton.mp last]
      exact Nat.lt_succ_self _
  entryPoints := by
    cases source with
    | entryPoint name => exact NameMap.ordered_set holds.entryPoints _ _
    | stream name => exact holds.entryPoints
  streams := by
    cases source with
    | entryPoint name => exact holds.streams
    | stream name => exact NameMap.ordered_set holds.streams _ _

/-- **A retraction takes the object under the handle out of its source**, and nothing else. -/
theorem objects_retract (holds : memory.Holds ledger) (handle : Handle) (source : Source) :
    (memory.retract handle).2.objects source = others handle (memory.objects source) := by
  rw [retract_eq holds.distinct]
  cases source with
  | entryPoint name =>
    show (NameMap.get? (without handle memory.entryPoints) name).getD [] = _
    rw [without, NameMap.get?_map]
    cases found : NameMap.get? memory.entryPoints name <;>
      simp [WorkingMemory.objects, found, others]
  | stream name =>
    show (NameMap.get? (without handle memory.streams) name).getD [] = _
    rw [without, NameMap.get?_map]
    cases found : NameMap.get? memory.streams name <;> simp [WorkingMemory.objects, found, others]

/-- **An object leaves the ledger.** -/
theorem retract (holds : memory.Holds ledger) (handle : Handle) :
    (memory.retract handle).2.Holds (ledger.filter fun entry => entry.2.handle ≠ handle) where
  objects source := by
    rw [holds.objects_retract, holds.objects, others, List.filter_map, List.filter_filter,
      List.filter_filter]
    refine congrArg (List.map Prod.snd) (List.filter_congr fun entry _ => ?_)
    exact Bool.and_comm _ _
  all := by
    have fewer := holds.all.filter fun held => held.handle ≠ handle
    rw [retract_eq holds.distinct]
    rw [List.filter_map] at fewer
    show (((without handle memory.entryPoints) ++ without handle memory.streams).flatMap
      Prod.snd).Perm _
    rw [List.flatMap_append, flatMap_without, flatMap_without, others, others,
      ← List.filter_append, ← List.flatMap_append]
    exact fewer
  rising := holds.rising.filter _
  given entry member := by
    rw [retract_eq holds.distinct]
    exact holds.given entry (List.mem_filter.mp member).1
  entryPoints := by
    rw [retract_eq holds.distinct]
    show ((without handle memory.entryPoints).map Prod.fst).Pairwise (· < ·)
    rw [without, List.map_map]
    exact holds.entryPoints
  streams := by
    rw [retract_eq holds.distinct]
    show ((without handle memory.streams).map Prod.fst).Pairwise (· < ·)
    rw [without, List.map_map]
    exact holds.streams

/-- **A retraction answers with the value in the ledger**, if the handle is there. -/
theorem taken (holds : memory.Holds ledger) (handle : Handle) (value : Value) :
    (memory.retract handle).1 = some value ↔ ∃ source, (source, ⟨handle, value⟩) ∈ ledger := by
  rw [retract_eq holds.distinct, lookup_eq_some holds.distinct, holds.all.mem_iff, List.mem_map]
  constructor
  · rintro ⟨⟨source, held⟩, member, rfl⟩
    exact ⟨source, member⟩
  · rintro ⟨source, member⟩
    exact ⟨_, member, rfl⟩

end Holds

/-! ### All runs -/

theorem nextHandle_take (memory : WorkingMemory) (step : Step) :
    (memory.take step).2.nextHandle = memory.nextHandle + puts [step] := by
  cases step with
  | put source value => cases source <;> rfl
  | retract handle =>
    show (memory.retract handle).2.nextHandle = memory.nextHandle
    unfold retract
    split
    · rfl
    · split <;> rfl

theorem nextHandle_after (memory : WorkingMemory) (steps : List Step) :
    (memory.after steps).nextHandle = memory.nextHandle + puts steps := by
  induction steps generalizing memory with
  | nil => rfl
  | cons step rest hypothesis =>
    rw [puts_cons, ← Nat.add_assoc, ← nextHandle_take]
    exact hypothesis _

/-- **The puts answer with consecutive handles**, whatever is retracted between them. -/
theorem answers_eq (memory : WorkingMemory) (steps : List Step) :
    memory.answers steps = (List.range' memory.nextHandle (puts steps)).map Handle.mk := by
  induction steps generalizing memory with
  | nil => rfl
  | cons step rest hypothesis =>
    have later := hypothesis (memory.take step).2
    rw [nextHandle_take] at later
    cases step with
    | put source value => exact congrArg (memory.next :: ·) later
    | retract handle => exact later

/-- **Every run keeps the ledger**: what stood before and is not retracted in the run, and then what
the run put and did not retract. -/
theorem Holds.after {memory : WorkingMemory} {ledger : List (Source × Held)}
    (holds : memory.Holds ledger) (steps : List Step) :
    (memory.after steps).Holds
      (ledger.filter (fun entry => .retract entry.2.handle ∉ steps) ++
        standing memory.nextHandle steps) := by
  induction steps generalizing memory ledger with
  | nil =>
    have whole : (ledger.filter fun entry => Step.retract entry.2.handle ∉ []) ++ [] = ledger := by
      simp
    rw [standing, whole]
    exact holds
  | cons step rest hypothesis =>
    cases step with
    | put source value =>
      have moved := hypothesis (holds.put source value)
      have next := memory.nextHandle_take (.put source value)
      rw [show (memory.put source value).2.nextHandle = memory.nextHandle + 1 from next] at moved
      refine Eq.subst (motive := (memory.after (.put source value :: rest)).Holds) ?_ moved
      rw [List.filter_append, List.append_assoc, show memory.next = ⟨memory.nextHandle⟩ from rfl]
      have before : ∀ entry : Source × Held, decide (Step.retract entry.2.handle ∉ rest) =
          decide (.retract entry.2.handle ∉ Step.put source value :: rest) := fun entry => by simp
      rw [funext before, standing]
      congr 1
      by_cases gone : .retract ⟨memory.nextHandle⟩ ∈ rest <;> simp [gone]
    | retract handle =>
      have moved := hypothesis (holds.retract handle)
      have next := memory.nextHandle_take (.retract handle)
      rw [show (memory.retract handle).2.nextHandle = memory.nextHandle from next] at moved
      refine Eq.subst (motive := (memory.after (.retract handle :: rest)).Holds) ?_ moved
      rw [List.filter_filter]
      refine congrArg (· ++ standing memory.nextHandle rest) (List.filter_congr fun entry _ => ?_)
      rw [← Bool.decide_and, decide_eq_decide, List.mem_cons, not_or, Step.retract.injEq]
      exact And.comm

/-- **What the ledger says of working memory** after several steps: what every source holds, under
which handles, how many objects there are, and what the next put and the next retraction do. -/
structure Exact (memory : WorkingMemory) (steps : List Step) : Prop where
  objects : ∀ source,
    memory.objects source = ((standing 0 steps).filter fun entry => entry.1 = source).map Prod.snd
  rising : (standing 0 steps).Pairwise fun earlier later =>
    earlier.2.handle.index < later.2.handle.index
  size : memory.size = (standing 0 steps).length
  next : ∀ source value, (memory.put source value).1 = ⟨puts steps⟩
  taken : ∀ handle value, (memory.retract handle).1 = some value ↔
    ∃ source before later, steps = before ++ .put source value :: later ∧
      handle = ⟨puts before⟩ ∧ .retract handle ∉ later
  remaining : ∀ handle source, (memory.retract handle).2.objects source =
    (memory.objects source).filter fun held => held.handle ≠ handle
  missing : ∀ handle, (memory.retract handle).1 = none → (memory.retract handle).2 = memory

/-- **Working memory is an exact ledger** of any sequence of steps. -/
theorem exact_after (steps : List Step) : (empty.after steps).Exact steps := by
  have holds : (empty.after steps).Holds (standing 0 steps) := holds_empty.after steps
  refine ⟨holds.objects, holds.rising, ?_, fun source value => ?_, fun handle value => ?_,
    holds.objects_retract, fun handle => retract_missing⟩
  · rw [size_eq, holds.all.length_eq, List.length_map]
  · show Handle.mk (empty.after steps).nextHandle = _
    rw [nextHandle_after]
    exact congrArg Handle.mk (Nat.zero_add _)
  · rw [holds.taken]
    refine exists_congr fun source => ?_
    rw [mem_standing]
    simp only [Stands, Nat.zero_add]

end WorkingMemory

end RuleNet
