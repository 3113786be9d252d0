/-
**Name maps: finite maps from names to entries, kept in name order.**

Facts keep their fields, the network keeps its roots and working memory keeps its sources in a
list of `(name, entry)` pairs with strictly increasing names. Names are compared character by
character, which is the order of their UTF-8 bytes. In this form equal maps are equal lists, so
the order in which entries were written can never be seen.

* `get?_set_same`, `get?_set_other`: what a write does to every later read;
* `ordered_set`: a write keeps the names strictly increasing.
-/

namespace RuleNet

/-- Entries by name, in strictly increasing name order. -/
abbrev NameMap (α : Type) := List (String × α)

namespace NameMap

variable {α : Type}

/-- The entry under a name, if there is one. -/
def get? : NameMap α → String → Option α
  | [], _ => none
  | (key, entry) :: rest, name => if key = name then some entry else get? rest name

/-- Writes an entry: a present name keeps its place, a new name goes before the next larger one. -/
def set : NameMap α → String → α → NameMap α
  | [], name, entry => [(name, entry)]
  | (key, old) :: rest, name, entry =>
    if key = name then (name, entry) :: rest
    else if name < key then (name, entry) :: (key, old) :: rest
    else (key, old) :: set rest name entry

/-- The names, in increasing order. -/
def names (map : NameMap α) : List String :=
  map.map Prod.fst

/-- The map that holds the given entries, of which later ones win. -/
def ofList (entries : List (String × α)) : NameMap α :=
  entries.foldl (fun map item => set map item.1 item.2) []

/-- **The form every map is kept in**: names strictly increase. -/
def Ordered (map : NameMap α) : Prop :=
  (names map).Pairwise (· < ·)

/-! ### Reads after writes -/

@[simp] theorem get?_set_same (map : NameMap α) (name : String) (entry : α) :
    get? (set map name entry) name = some entry := by
  induction map with
  | nil => simp [set, get?]
  | cons head rest hypothesis =>
    obtain ⟨key, old⟩ := head
    by_cases same : key = name
    · simp [set, get?, same]
    · by_cases before : name < key
      · simp [set, get?, same, before]
      · simp [set, get?, same, before, hypothesis]

@[simp] theorem get?_set_other (map : NameMap α) {name other : String} (entry : α)
    (different : other ≠ name) : get? (set map name entry) other = get? map other := by
  induction map with
  | nil => simp [set, get?, Ne.symm different]
  | cons head rest hypothesis =>
    obtain ⟨key, old⟩ := head
    by_cases same : key = name
    · subst same
      simp [set, get?, Ne.symm different]
    · by_cases before : name < key
      · simp [set, get?, same, before, Ne.symm different]
      · simp [set, get?, same, before, hypothesis]

/-! ### Order -/

theorem mem_names_set {map : NameMap α} {name key : String} {entry : α}
    (member : key ∈ names (set map name entry)) : key = name ∨ key ∈ names map := by
  induction map with
  | nil => simpa [set, names] using member
  | cons head rest hypothesis =>
    obtain ⟨first, old⟩ := head
    by_cases same : first = name
    · simp only [set, same, if_true, names, List.map_cons, List.mem_cons] at member ⊢
      rcases member with equal | later
      · exact Or.inl equal
      · exact Or.inr (Or.inr later)
    · by_cases before : name < first
      · simpa [set, same, before, names] using member
      · simp only [set, same, before, if_false, names, List.map_cons, List.mem_cons]
          at member ⊢
        rcases member with equal | later
        · exact Or.inr (Or.inl equal)
        · rcases hypothesis later with equal | found
          · exact Or.inl equal
          · exact Or.inr (Or.inr found)

/-- **A write keeps the names strictly increasing.** -/
theorem ordered_set {map : NameMap α} (ordered : Ordered map) (name : String) (entry : α) :
    Ordered (set map name entry) := by
  induction map with
  | nil => simp [set, Ordered, names]
  | cons head rest hypothesis =>
    obtain ⟨key, old⟩ := head
    have split : (∀ later ∈ names rest, key < later) ∧ Ordered rest := by
      simpa [Ordered, names] using ordered
    by_cases same : key = name
    · subst same
      simpa [set, Ordered, names] using ordered
    · by_cases before : name < key
      · have below : ∀ later ∈ names rest, name < later := fun later member =>
          String.lt_trans before (split.1 later member)
        have shape : set ((key, old) :: rest) name entry = (name, entry) :: (key, old) :: rest := by
          simp [set, same, before]
        rw [shape]
        refine List.pairwise_cons.mpr ⟨?_, ordered⟩
        intro later member
        rcases List.mem_cons.mp member with equal | found
        · exact equal ▸ before
        · exact below later found
      · have above : key < name :=
          String.not_le.mp fun reversed =>
            same (String.le_antisymm (String.not_lt.mp before) reversed)
        have shape : set ((key, old) :: rest) name entry = (key, old) :: set rest name entry := by
          simp [set, same, before]
        rw [shape]
        refine List.pairwise_cons.mpr ⟨?_, hypothesis split.2⟩
        intro later member
        rcases mem_names_set member with equal | found
        · exact equal ▸ above
        · exact split.1 later found

end NameMap

end RuleNet
