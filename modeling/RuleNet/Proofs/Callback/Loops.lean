/-
**What the loops of the evaluator return.**

The loops run callbacks that can fail. Here are their outcomes in terms of the outcomes of their
steps.

* `bind_eq_ok`, `map_eq_ok`, …: how a sequence of outcomes ends;
* `Outcome.Mirrors`: an outcome that succeeds wherever another one does, with a related answer;
* `outcome_expand`, `outcome_each`: a loop that collects is a map over its items;
* `select_of_ok`, `any_of_ok`, `holds_all`: **a loop that succeeds did what the plain list function
  does** with the answers of its tests (`Traced.holds`).
-/

import Mathlib.Data.List.Forall2
import RuleNet.Callback.Traced

namespace RuleNet

/-! ### Outcomes -/

namespace Outcome

variable {α β : Type} {outcome : Outcome α}

theorem bind_eq_ok {next : α → Outcome β} {result : β} :
    (outcome >>= next) = .ok result ↔ ∃ value, outcome = .ok value ∧ next value = .ok result := by
  cases outcome <;> simp [bind, Except.bind]

theorem map_eq_ok {change : α → β} {result : β} :
    outcome.map change = .ok result ↔ ∃ value, outcome = .ok value ∧ change value = result := by
  cases outcome <;> simp [Except.map]

theorem map_eq_error {change : α → β} {failure : Failure} :
    outcome.map change = .error failure ↔ outcome = .error failure := by
  cases outcome <;> simp [Except.map]

theorem map_map {γ : Type} (first : α → β) (second : β → γ) :
    (outcome.map first).map second = outcome.map (second ∘ first) := by
  cases outcome <;> rfl

@[simp] theorem ok_bind (value : α) (next : α → Outcome β) :
    ((.ok value : Outcome α) >>= next) = next value := rfl

theorem map_bind {γ : Type} (next : α → Outcome β) (change : β → γ) :
    (outcome >>= next).map change = outcome >>= fun value => (next value).map change := by
  cases outcome <;> rfl

theorem bind_map_ok (change : α → β) :
    (outcome >>= fun value => .ok (change value)) = outcome.map change := by
  cases outcome <;> rfl

/-- A map over a list that succeeds succeeds on every item. -/
theorem mapM_ok_mem {step : α → Outcome β} {items : List α} {results : List β}
    (mapped : items.mapM step = .ok results) :
    (∀ result ∈ results, ∃ item ∈ items, step item = .ok result) ∧
      results.length = items.length := by
  induction items generalizing results with
  | nil =>
    cases mapped
    simp
  | cons item rest hypothesis =>
    rw [List.mapM_cons] at mapped
    obtain ⟨first, here, others⟩ := bind_eq_ok.mp mapped
    obtain ⟨later, there, joined⟩ := bind_eq_ok.mp others
    cases joined
    obtain ⟨found, long⟩ := hypothesis there
    refine ⟨fun result member => ?_, by simp [long]⟩
    rcases List.mem_cons.mp member with rfl | member
    · exact ⟨item, List.mem_cons_self, here⟩
    · obtain ⟨other, inside, answer⟩ := found result member
      exact ⟨other, List.mem_cons_of_mem _ inside, answer⟩

/-- A list that is mapped has no item that fails. -/
theorem mapM_ok_each {step : α → Outcome β} {items : List α} {results : List β}
    (mapped : items.mapM step = .ok results) : ∀ item ∈ items, ∃ result, step item = .ok result := by
  induction items generalizing results with
  | nil => exact fun _ member => nomatch member
  | cons first rest hypothesis =>
    rw [List.mapM_cons] at mapped
    obtain ⟨result, here, others⟩ := bind_eq_ok.mp mapped
    obtain ⟨later, there, _⟩ := bind_eq_ok.mp others
    intro item member
    rcases List.mem_cons.mp member with rfl | behind
    · exact ⟨result, here⟩
    · exact hypothesis there item behind

/-- A map over a list that succeeds, from what is known of each step that succeeds. -/
theorem mapM_ok_map {step : α → Outcome β} {value : α → β} {property : α → Prop} {items : List α}
    {results : List β} (mapped : items.mapM step = .ok results)
    (known : ∀ item ∈ items, ∀ result, step item = .ok result →
      result = value item ∧ property item) :
    results = items.map value ∧ ∀ item ∈ items, property item := by
  induction items generalizing results with
  | nil =>
    cases mapped
    simp
  | cons item rest hypothesis =>
    rw [List.mapM_cons] at mapped
    obtain ⟨first, here, others⟩ := bind_eq_ok.mp mapped
    obtain ⟨later, there, joined⟩ := bind_eq_ok.mp others
    cases joined
    obtain ⟨rfl, holds⟩ := known item List.mem_cons_self first here
    obtain ⟨rfl, remaining⟩ := hypothesis there fun other member =>
      known other (List.mem_cons_of_mem _ member)
    refine ⟨rfl, fun other member => ?_⟩
    rcases List.mem_cons.mp member with rfl | member
    · exact holds
    · exact remaining other member

/-- What can be told of every result is told of all. -/
theorem mapM_ok_keys {κ : Type} {step : α → Outcome β} {key : β → κ} {origin : α → κ}
    {items : List α} {results : List β} (mapped : items.mapM step = .ok results)
    (known : ∀ item result, step item = .ok result → key result = origin item) :
    results.map key = items.map origin := by
  induction items generalizing results with
  | nil =>
    cases mapped
    rfl
  | cons item rest hypothesis =>
    rw [List.mapM_cons] at mapped
    obtain ⟨first, here, mapped⟩ := bind_eq_ok.mp mapped
    obtain ⟨others, there, answer⟩ := bind_eq_ok.mp mapped
    cases answer
    rw [List.map_cons, List.map_cons, known item first here, hypothesis there]

/-- A map over a list is decided by what it does to the items. -/
theorem mapM_congr {step other : α → Outcome β} {items : List α}
    (agree : ∀ item ∈ items, step item = other item) : items.mapM step = items.mapM other := by
  induction items with
  | nil => rfl
  | cons item rest hypothesis =>
    rw [List.mapM_cons, List.mapM_cons, agree item List.mem_cons_self,
      hypothesis fun later member => agree later (List.mem_cons_of_mem _ member)]

/-- A change of the results is a change of the list. -/
theorem mapM_view {γ : Type} {step : α → Outcome β} {other : α → Outcome γ} {view : γ → β}
    (each : ∀ item, step item = (other item).map view) (items : List α) :
    items.mapM step = (items.mapM other).map (List.map view) := by
  induction items with
  | nil => rfl
  | cons item rest hypothesis =>
    rw [List.mapM_cons, List.mapM_cons, each, hypothesis]
    cases other item with
    | error failure => rfl
    | ok value => cases rest.mapM other <;> rfl

/-- A map that succeeds on every item returns the values. -/
theorem mapM_eq_ok_map {step : α → Outcome β} {value : α → β} {items : List α}
    (succeeds : ∀ item ∈ items, step item = .ok (value item)) :
    items.mapM step = .ok (items.map value) := by
  induction items with
  | nil => rfl
  | cons item rest hypothesis =>
    rw [List.mapM_cons, succeeds item List.mem_cons_self,
      hypothesis fun later member => succeeds later (List.mem_cons_of_mem _ member)]
    rfl

/-! ### Two outcomes -/

section

variable {γ δ : Type} {first : Outcome α} {second : Outcome β} {related : α → β → Prop}
  {last : γ → δ → Prop}

/-- **If the first check succeeds, so does the second**, with a related answer. -/
def Mirrors (first : Outcome α) (second : Outcome β) (related : α → β → Prop) : Prop :=
  ∀ value, first = .ok value → ∃ answer, second = .ok answer ∧ related value answer

theorem Mirrors.ok {value : α} {answer : β} (held : related value answer) :
    Mirrors (.ok value) (.ok answer) related := by
  rintro _ ⟨⟩
  exact ⟨answer, rfl, held⟩

theorem Mirrors.bind {next : α → Outcome γ} {more : β → Outcome δ}
    (mirrors : Mirrors first second related)
    (rest : ∀ value answer, related value answer → Mirrors (next value) (more answer) last) :
    Mirrors (first >>= next) (second >>= more) last := by
  intro result ended
  obtain ⟨value, here, there⟩ := bind_eq_ok.mp ended
  obtain ⟨answer, same, held⟩ := mirrors value here
  obtain ⟨final, done, kept⟩ := rest value answer held result there
  exact ⟨final, by rw [same]; exact done, kept⟩

theorem mirrors_mapM {step : α → Outcome γ} {other : β → Outcome δ} {items : List α}
    {others : List β} (each : List.Forall₂ related items others)
    (mirrors : ∀ item again, related item again → Mirrors (step item) (other again) last) :
    Mirrors (items.mapM step) (others.mapM other) (List.Forall₂ last) := by
  induction each with
  | nil => exact Mirrors.ok .nil
  | cons one _ hypothesis =>
    rw [List.mapM_cons, List.mapM_cons]
    refine (mirrors _ _ one).bind fun value answer held => ?_
    exact hypothesis.bind fun values answers kept => Mirrors.ok (.cons held kept)

end

end Outcome

/-! ### Loops -/

namespace Traced

variable {α β : Type}

/-- The test ran, and passed. -/
def holds (test : Traced Bool) : Bool :=
  match test.outcome with
  | .ok true => true
  | _ => false

theorem holds_of_ok {test : Traced Bool} {answer : Bool} (ran : test.outcome = .ok answer) :
    test.holds = answer := by
  unfold holds
  rw [ran]
  cases answer <;> rfl

theorem outcome_each (step : α → Traced β) (items : List α) :
    (each step items).outcome = items.mapM fun item => (step item).outcome := by
  induction items with
  | nil => rfl
  | cons item rest hypothesis =>
    rw [each_cons, outcome_bind, List.mapM_cons]
    congr 1
    funext result
    rw [outcome_map, hypothesis]
    exact (Outcome.bind_map_ok _).symm

/-- **A loop that collects lists joins what its steps return.** -/
theorem outcome_expand (step : α → Traced (List β)) (items : List α) :
    (expand step items).outcome =
      (items.mapM fun item => (step item).outcome).map List.flatten := by
  rw [expand, outcome_map, outcome_each]

/-- Everything that was collected came from some step. -/
theorem expand_ok_mem {step : α → Traced (List β)} {items : List α} {found : List β}
    (succeeds : (expand step items).outcome = .ok found) {result : β} (member : result ∈ found) :
    ∃ item ∈ items, ∃ results, (step item).outcome = .ok results ∧ result ∈ results := by
  rw [outcome_expand] at succeeds
  obtain ⟨lists, mapped, rfl⟩ := Outcome.map_eq_ok.mp succeeds
  obtain ⟨results, listed, inside⟩ := List.mem_flatten.mp member
  obtain ⟨item, given, answer⟩ := (Outcome.mapM_ok_mem mapped).1 results listed
  exact ⟨item, given, results, answer, inside⟩

/-- A loop that collects lists, step by step what a plain list function returns. -/
theorem expand_of_ok {step : α → Traced (List β)} {plain : α → List β} {items : List α}
    {found : List β} (succeeds : (expand step items).outcome = .ok found)
    (agrees : ∀ item ∈ items, ∀ results, (step item).outcome = .ok results →
      results = plain item) : found = items.flatMap plain := by
  induction items generalizing found with
  | nil =>
    cases succeeds
    rfl
  | cons item rest hypothesis =>
    rw [expand_cons, outcome_bind] at succeeds
    obtain ⟨results, here, others⟩ := Outcome.bind_eq_ok.mp succeeds
    rw [outcome_map] at others
    obtain ⟨later, there, rfl⟩ := Outcome.map_eq_ok.mp others
    rw [List.flatMap_cons, agrees item List.mem_cons_self results here,
      hypothesis there fun other member => agrees other (List.mem_cons_of_mem _ member)]

/-- **A selection that succeeds keeps the items that pass.** -/
theorem select_of_ok {test : α → Traced Bool} {items kept : List α}
    (succeeds : (select test items).outcome = .ok kept) :
    kept = items.filter fun item => (test item).holds := by
  induction items generalizing kept with
  | nil =>
    cases succeeds
    rfl
  | cons item rest hypothesis =>
    rw [select_cons, outcome_bind] at succeeds
    obtain ⟨passed, here, others⟩ := Outcome.bind_eq_ok.mp succeeds
    rw [outcome_map] at others
    obtain ⟨later, there, rfl⟩ := Outcome.map_eq_ok.mp others
    rw [List.filter_cons, holds_of_ok here, hypothesis there]

/-- A test that always says yes keeps everything. -/
theorem select_always {test : α → Traced Bool} {items : List α}
    (always : ∀ item ∈ items, (test item).outcome = .ok true) :
    (select test items).outcome = .ok items := by
  induction items with
  | nil => rfl
  | cons item rest hypothesis =>
    have later := hypothesis fun other member => always other (List.mem_cons_of_mem _ member)
    simp only [select_cons, outcome_bind, outcome_map, always item List.mem_cons_self, later,
      Outcome.ok_bind, if_true, Except.map]

/-- **A search that succeeds finds what there is.** -/
theorem any_of_ok {test : α → Traced Bool} {items : List α} {answer : Bool}
    (succeeds : (any test items).outcome = .ok answer) :
    answer = items.any fun item => (test item).holds := by
  induction items generalizing answer with
  | nil =>
    cases succeeds
    rfl
  | cons item rest hypothesis =>
    rw [any_cons, outcome_bind] at succeeds
    obtain ⟨found, here, others⟩ := Outcome.bind_eq_ok.mp succeeds
    rw [List.any_cons, holds_of_ok here]
    cases found with
    | true =>
      cases others
      rfl
    | false =>
      rw [Bool.false_or]
      exact hypothesis others

/-- **A conjunction passes if every test does.** -/
theorem holds_all (test : α → Traced Bool) (items : List α) :
    (all test items).holds = items.all fun item => (test item).holds := by
  induction items with
  | nil => rfl
  | cons item rest hypothesis =>
    rw [List.all_cons, ← hypothesis]
    simp only [holds, all_cons, outcome_bind]
    cases (test item).outcome with
    | error failure => rfl
    | ok passed => cases passed <;> rfl

theorem select_congr {test other : α → Traced Bool} {items : List α}
    (agree : ∀ item ∈ items, (test item).outcome = (other item).outcome) :
    (select test items).outcome = (select other items).outcome := by
  induction items with
  | nil => rfl
  | cons item rest hypothesis =>
    simp only [select_cons, outcome_bind, outcome_map, agree item List.mem_cons_self,
      hypothesis fun later member => agree later (List.mem_cons_of_mem _ member)]

theorem any_congr {test other : α → Traced Bool} {items : List α}
    (agree : ∀ item ∈ items, (test item).outcome = (other item).outcome) :
    (any test items).outcome = (any other items).outcome := by
  induction items with
  | nil => rfl
  | cons item rest hypothesis =>
    have later := hypothesis fun later member => agree later (List.mem_cons_of_mem _ member)
    simp only [any_cons, outcome_bind, agree item List.mem_cons_self]
    congr 1
    funext found
    cases found
    · exact later
    · rfl

theorem expand_congr {step other : α → Traced (List β)} {items : List α}
    (agree : ∀ item ∈ items, (step item).outcome = (other item).outcome) :
    (expand step items).outcome = (expand other items).outcome := by
  rw [outcome_expand, outcome_expand, Outcome.mapM_congr agree]

/-- Items that were changed one by one are expanded to the same, changed one by one. -/
theorem expand_map {γ δ : Type} {step : α → Traced (List β)} {other : γ → Traced (List δ)}
    {here : α → γ} {there : β → δ} {items : List α}
    (agree : ∀ item ∈ items,
      (other (here item)).outcome = (step item).outcome.map (List.map there)) :
    (expand other (items.map here)).outcome = (expand step items).outcome.map (List.map there) := by
  induction items with
  | nil => rfl
  | cons item rest hypothesis =>
    have later := hypothesis fun later member => agree later (List.mem_cons_of_mem _ member)
    simp only [List.map_cons, expand_cons, outcome_bind, outcome_map,
      agree item List.mem_cons_self, later]
    cases (step item).outcome with
    | error failure => rfl
    | ok results =>
      cases (expand step rest).outcome with
      | error failure => rfl
      | ok others => simp [bind, Except.bind, Except.map]

end Traced

end RuleNet
