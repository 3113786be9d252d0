/-
**Entries of name maps.**

* `mem_of_get?`: an entry that is found is there;
* `mem_set`: a map that was written to holds the new entry and old ones;
* `filter_set`: writing under an unused name leaves no trace behind a filter that drops the entry;
* `get?_map`: reading a map whose entries were all changed;
* `flatMap_set_append`: a map of lists with one more item.
-/

import Mathlib.Data.List.Perm.Basic
import RuleNet.NameMap

namespace RuleNet

namespace NameMap

variable {α β : Type}

/-- A new entry that a filter drops leaves no trace behind the filter. -/
theorem filter_set {map : NameMap α} {name : String} {entry : α}
    {keep : String × α → Bool} (unused : get? map name = none)
    (dropped : keep (name, entry) = false) :
    (set map name entry).filter keep = map.filter keep := by
  induction map with
  | nil => simp [set, dropped]
  | cons head rest hypothesis =>
    obtain ⟨key, old⟩ := head
    by_cases same : key = name
    · simp [get?, same] at unused
    · simp only [get?, same, if_false] at unused
      by_cases before : name < key
      · simp [set, same, before, dropped]
      · simp [set, same, before, List.filter_cons, hypothesis unused]

theorem mem_set {map : NameMap α} {name : String} {entry : α}
    {item : String × α} (member : item ∈ set map name entry) :
    item = (name, entry) ∨ item ∈ map := by
  induction map with
  | nil => simpa [set] using member
  | cons head rest hypothesis =>
    obtain ⟨key, old⟩ := head
    by_cases same : key = name
    · simp only [set, same, if_true, List.mem_cons] at member ⊢
      rcases member with new | later
      · exact Or.inl new
      · exact Or.inr (Or.inr later)
    · by_cases before : name < key
      · simpa [set, same, before] using member
      · simp only [set, same, before, if_false, List.mem_cons] at member ⊢
        rcases member with first | later
        · exact Or.inr (Or.inl first)
        · rcases hypothesis later with new | old
          · exact Or.inl new
          · exact Or.inr (Or.inr old)

theorem mem_of_get? {map : NameMap α} {name : String} {entry : α}
    (found : get? map name = some entry) : (name, entry) ∈ map := by
  induction map with
  | nil => cases found
  | cons head rest hypothesis =>
    obtain ⟨key, old⟩ := head
    by_cases same : key = name
    · simp only [get?, same, if_true, Option.some.injEq] at found
      rw [same, found]
      exact List.mem_cons_self
    · simp only [get?, same, if_false] at found
      exact List.mem_cons_of_mem _ (hypothesis found)

theorem get?_map (map : NameMap α) (change : α → β) (name : String) :
    get? (map.map fun entry => (entry.1, change entry.2)) name = (get? map name).map change := by
  induction map with
  | nil => rfl
  | cons head rest hypothesis =>
    obtain ⟨key, old⟩ := head
    by_cases same : key = name
    · simp [get?, same]
    · simpa [get?, same] using hypothesis

/-- An entry that is not below the first name of an ordered map is not there. -/
theorem get?_below {key name : String} {old : α} {rest : NameMap α}
    (ordered : Ordered ((key, old) :: rest)) (before : name < key) :
    get? ((key, old) :: rest) name = none := by
  cases found : get? ((key, old) :: rest) name with
  | none => rfl
  | some entry =>
    exfalso
    have listed : name ∈ names ((key, old) :: rest) :=
      List.mem_map_of_mem (mem_of_get? found)
    rcases List.mem_cons.mp listed with rfl | later
    · exact String.lt_irrefl _ before
    · exact String.lt_irrefl key
        (String.lt_trans ((List.pairwise_cons.mp ordered).1 name later) before)

/-- **One more item under a name** is one more item of all. -/
theorem flatMap_set_append {map : NameMap (List α)} (ordered : Ordered map) (name : String)
    (item : α) :
    ((set map name ((get? map name).getD [] ++ [item])).flatMap Prod.snd).Perm
      (map.flatMap Prod.snd ++ [item]) := by
  induction map with
  | nil => exact List.Perm.refl [item]
  | cons head rest hypothesis =>
    obtain ⟨key, old⟩ := head
    by_cases same : key = name
    · simp only [set, get?, same, if_true, Option.getD_some, List.flatMap_cons, List.append_assoc]
      exact List.perm_append_comm.append_left old
    · by_cases before : name < key
      · rw [get?_below ordered before]
        simp only [set, same, before, if_false, if_true, Option.getD_none, List.nil_append,
          List.flatMap_cons]
        exact List.perm_append_comm
      · have later := hypothesis (List.pairwise_cons.mp ordered).2
        simp only [set, get?, same, before, if_false, List.flatMap_cons, List.append_assoc]
        exact later.append_left old

end NameMap

end RuleNet
