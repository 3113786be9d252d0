/-
**No two objects of a source have one handle.**

Handles count up, and an object keeps its own until it leaves.

* `WorkingMemory.Numbered`: the handles of every source are distinct and were all given out;
* `Numbered.put`, `Numbered.retract`: every change of working memory keeps it;
* `Numbered.objects`: **what a source holds has distinct handles**.
-/

import RuleNet.Memory
import RuleNet.Proofs.NameMap

namespace RuleNet

/-- Distinct handles below a bound. -/
def Held.Numbered (bound : Nat) (objects : List Held) : Prop :=
  (objects.map Held.handle).Nodup ∧ ∀ held ∈ objects, held.handle.index < bound

namespace Held.Numbered

variable {bound : Nat} {objects fewer : List Held}

theorem nil (bound : Nat) : Numbered bound [] :=
  ⟨List.nodup_nil, fun _ member => nomatch member⟩

theorem sublist (numbered : Numbered bound objects) (less : fewer.Sublist objects) :
    Numbered bound fewer :=
  ⟨(less.map Held.handle).nodup numbered.1, fun held member => numbered.2 held (less.subset member)⟩

theorem later (numbered : Numbered bound objects) : Numbered (bound + 1) objects :=
  ⟨numbered.1, fun held member => Nat.lt_succ_of_lt (numbered.2 held member)⟩

/-- **The next handle is new.** -/
theorem append (numbered : Numbered bound objects) (value : Value) :
    Numbered (bound + 1) (objects ++ [⟨⟨bound⟩, value⟩]) := by
  constructor
  · have unused : (⟨bound⟩ : Handle) ∉ objects.map Held.handle := by
      intro listed
      obtain ⟨held, member, same⟩ := List.mem_map.mp listed
      have below := numbered.2 held member
      rw [same] at below
      exact Nat.lt_irrefl _ below
    rw [List.map_append, List.nodup_append]
    refine ⟨numbered.1, List.pairwise_singleton _ _, fun handle listed other last => ?_⟩
    rw [List.map_singleton, List.mem_singleton] at last
    rintro rfl
    rw [last] at listed
    exact unused listed
  · intro held member
    rcases List.mem_append.mp member with earlier | last
    · exact Nat.lt_succ_of_lt (numbered.2 held earlier)
    · rw [List.mem_singleton.mp last]
      exact Nat.lt_succ_self _

end Held.Numbered

namespace WorkingMemory

theorem takeFrom_sublist {handle : Handle} {objects left : List Held} {value : Value}
    (taken : takeFrom handle objects = some (value, left)) : left.Sublist objects := by
  induction objects generalizing left with
  | nil => cases taken
  | cons held rest hypothesis =>
    rw [takeFrom] at taken
    split at taken
    · cases taken
      exact List.sublist_cons_self _ _
    · obtain ⟨⟨found, others⟩, later, same⟩ := Option.map_eq_some_iff.mp taken
      cases same
      exact (hypothesis later).cons_cons held

/-- Every source keeps some of its objects when one is taken. -/
theorem takeFromAny_sublist {handle : Handle} {map left : NameMap (List Held)} {value : Value}
    (taken : takeFromAny handle map = some (value, left)) :
    ∀ entry ∈ left, ∃ before ∈ map, entry.2.Sublist before.2 := by
  induction map generalizing left with
  | nil => cases taken
  | cons head rest hypothesis =>
    obtain ⟨name, objects⟩ := head
    rw [takeFromAny] at taken
    intro entry member
    split at taken
    · rename_i found others here
      cases taken
      rcases List.mem_cons.mp member with rfl | later
      · exact ⟨_, List.mem_cons_self, takeFrom_sublist here⟩
      · exact ⟨entry, List.mem_cons_of_mem _ later, List.Sublist.refl _⟩
    · obtain ⟨⟨found, others⟩, later, same⟩ := Option.map_eq_some_iff.mp taken
      cases same
      rcases List.mem_cons.mp member with rfl | inside
      · exact ⟨_, List.mem_cons_self, List.Sublist.refl _⟩
      · obtain ⟨before, listed, less⟩ := hypothesis later entry inside
        exact ⟨before, List.mem_cons_of_mem _ listed, less⟩

/-- **Every source has its objects under distinct handles**, all given out before. -/
structure Numbered (memory : WorkingMemory) : Prop where
  entryPoints : ∀ entry ∈ memory.entryPoints, Held.Numbered memory.nextHandle entry.2
  streams : ∀ entry ∈ memory.streams, Held.Numbered memory.nextHandle entry.2

namespace Numbered

variable {memory : WorkingMemory}

theorem empty : WorkingMemory.empty.Numbered :=
  ⟨fun _ member => (nomatch member), fun _ member => (nomatch member)⟩

theorem get? {map : NameMap (List Held)} {bound : Nat}
    (numbered : ∀ entry ∈ map, Held.Numbered bound entry.2) (name : String) :
    Held.Numbered bound ((NameMap.get? map name).getD []) := by
  cases found : NameMap.get? map name with
  | none => exact .nil bound
  | some objects => exact numbered _ (NameMap.mem_of_get? found)

/-- What a source holds. -/
theorem objects (numbered : memory.Numbered) (source : Source) :
    ((memory.objects source).map Held.handle).Nodup := by
  cases source with
  | entryPoint name => exact (get? numbered.entryPoints name).1
  | stream name => exact (get? numbered.streams name).1

theorem append {map : NameMap (List Held)} {bound : Nat}
    (numbered : ∀ entry ∈ map, Held.Numbered bound entry.2) (name : String) (value : Value) :
    ∀ entry ∈ append map name ⟨⟨bound⟩, value⟩, Held.Numbered (bound + 1) entry.2 := by
  intro entry member
  rcases NameMap.mem_set member with rfl | old
  · exact (get? numbered name).append value
  · exact (numbered entry old).later

/-- **An object that enters gets a handle of its own.** -/
theorem put (numbered : memory.Numbered) (source : Source) (value : Value) :
    (memory.put source value).2.Numbered := by
  cases source with
  | entryPoint name =>
    exact ⟨append numbered.entryPoints name value,
      fun entry member => (numbered.streams entry member).later⟩
  | stream name =>
    exact ⟨fun entry member => (numbered.entryPoints entry member).later,
      append numbered.streams name value⟩

theorem retract (numbered : memory.Numbered) (handle : Handle) :
    (memory.retract handle).2.Numbered := by
  unfold WorkingMemory.retract
  split
  · rename_i value left taken
    refine ⟨fun entry member => ?_, numbered.streams⟩
    obtain ⟨before, listed, less⟩ := takeFromAny_sublist taken entry member
    exact (numbered.entryPoints before listed).sublist less
  · split
    · rename_i value left taken
      refine ⟨numbered.entryPoints, fun entry member => ?_⟩
      obtain ⟨before, listed, less⟩ := takeFromAny_sublist taken entry member
      exact (numbered.streams before listed).sublist less
    · exact numbered

end Numbered

end WorkingMemory

end RuleNet
