/-
**Classifying and binding constraints, exactly.**

Three walks over the constraints of a pattern have to agree: the leaves of the tree are collected,
each leaf gets a class, and those that read earlier variables get their slots.

* `Leaf`: the leaves of a tree, at any depth. Collecting finds them all (`mem_singles_iff`);
* `Knows`: every variable of a constraint is the pattern's own, or bound;
* `partition_eq`: **constraints that are known are sorted by what they read**, in their order;
* `partition_stray`: **otherwise the first one that is not known is the error**;
* `Binds`: a constraint with the slots of its variables;
* `Constraint.classified_exactly`: **no constraint is lost, and none reads a wrong place.**
-/

import Mathlib.Data.List.Forall2
import RuleNet.Proofs.Build.Outlined
import RuleNet.Proofs.Build.Scoping

namespace RuleNet

/-! ### Leaves -/

namespace Constraint

/-- **A leaf of the tree**, inside however many conjunctions. -/
inductive Leaf (single : SingleConstraint) : Constraint → Prop
  | here : Leaf single (.single single)
  | inside {part : Constraint} {parts : List Constraint} (member : part ∈ parts)
      (below : Leaf single part) : Leaf single (.all parts)

variable {single : SingleConstraint}

theorem mem_singlesOf {parts : List Constraint} :
    single ∈ singlesOf parts ↔ ∃ part ∈ parts, single ∈ part.singles := by
  induction parts with
  | nil => simp [singlesOf]
  | cons part rest hypothesis => simp [singlesOf, hypothesis]

mutual

theorem leaf_of_mem (constraint : Constraint) (member : single ∈ constraint.singles) :
    Leaf single constraint := by
  cases constraint with
  | single leaf =>
    rw [singles, List.mem_singleton] at member
    subst member
    exact .here
  | all parts =>
    obtain ⟨part, inside, below⟩ := leaf_of_mem_parts parts member
    exact .inside inside below
termination_by structural constraint

theorem leaf_of_mem_parts (parts : List Constraint) (member : single ∈ singlesOf parts) :
    ∃ part ∈ parts, Leaf single part := by
  cases parts with
  | nil => cases member
  | cons part rest =>
    rw [singlesOf, List.mem_append] at member
    rcases member with here | later
    · exact ⟨part, List.mem_cons_self, leaf_of_mem part here⟩
    · obtain ⟨other, inside, below⟩ := leaf_of_mem_parts rest later
      exact ⟨other, List.mem_cons_of_mem _ inside, below⟩
termination_by structural parts

end

/-- **Collecting finds the leaves**, all of them and nothing else. -/
theorem mem_singles_iff {constraint : Constraint} :
    single ∈ constraint.singles ↔ Leaf single constraint := by
  refine ⟨leaf_of_mem constraint, fun leaf => ?_⟩
  induction leaf with
  | here => exact List.mem_singleton_self _
  | inside member _ hypothesis => exact mem_singlesOf.mpr ⟨_, member, hypothesis⟩

end Constraint

/-! ### Classes -/

section

variable {context : BuildContext} {own v : Variable} {single other : SingleConstraint}

/-- Every variable of the constraint is the pattern's own, or bound. -/
def BuildContext.Knows (context : BuildContext) (own : Variable) (single : SingleConstraint) : Prop :=
  ∀ v ∈ single.reads, context.Reads own v

/-- The fault of a constraint that reads a variable which nothing has bound. -/
def SingleConstraint.stray {α : Type} (single : SingleConstraint) (v : Variable) : Outcome α :=
  (Structural.unbound ("constraint " ++ single.predicate.key) v).fail

namespace SingleConstraint

/-- The constraint reads the pattern's own variable, and no other one. -/
def isAlpha (single : SingleConstraint) (own : Variable) : Bool :=
  !single.isConstant && single.reads.all (·.same own)

/-- The constraint reads another variable than the pattern's own. -/
def isBeta (single : SingleConstraint) (own : Variable) : Bool :=
  single.reads.any fun v => !v.same own

/-- The class by what is read. -/
def classRead (single : SingleConstraint) (own : Variable) : ConstraintClass :=
  if single.isConstant then .constant else if single.isBeta own then .beta else .alpha

theorem isAlpha_eq (single : SingleConstraint) (own : Variable) :
    single.isAlpha own = (!single.isConstant && !single.isBeta own) := by
  simp [isAlpha, isBeta, List.all_eq_not_any_not]

theorem isBeta_of_isConstant (single : SingleConstraint) (constant : single.isConstant = true) :
    single.isBeta own = false := by
  rw [isBeta, List.isEmpty_iff.mp constant, List.any_nil]

/-- **A constraint that is known has the class of what it reads.** -/
theorem classify_eq (known : context.Knows own single) :
    single.classify own context = .ok (single.classRead own) := by
  have decides : Outcome.Decides (single.classify own context) (context.Knows own single) :=
    decides_classify single
  cases sorted : single.classify own context with
  | error failure =>
    rw [sorted] at decides
    exact absurd known decides.2
  | ok kind =>
    have others : single.isBeta own = !single.reads.all (·.same own) := by
      simp [isBeta, List.any_eq_not_all_not]
    rw [(classify_ok sorted).1, classRead, others]
    cases single.reads.all (·.same own) <;> rfl

theorem classify_iff {kind : ConstraintClass} :
    single.classify own context = .ok kind ↔
      context.Knows own single ∧ single.classRead own = kind := by
  constructor
  · intro sorted
    have known : context.Knows own single := (classify_ok sorted).2
    exact ⟨known, Except.ok.inj ((classify_eq known).symm.trans sorted)⟩
  · rintro ⟨known, rfl⟩
    exact classify_eq known

theorem classOf_stray {key : String} {seen : ConstraintClass} {clean rest : List Variable}
    (known : ∀ u ∈ clean, context.Reads own u) (unknown : ¬ context.Reads own v) :
    classOf key own context seen (clean ++ v :: rest) =
      (Structural.unbound ("constraint " ++ key) v).fail := by
  obtain ⟨different, unbound⟩ := not_or.mp unknown
  induction clean generalizing seen with
  | nil =>
    rw [List.nil_append, classOf, if_neg different]
    cases named : context.offset? v with
    | none => rfl
    | some offset => exact absurd ⟨offset, named⟩ unbound
  | cons u clean hypothesis =>
    have later := fun seen => @hypothesis seen fun other member =>
      known other (List.mem_cons_of_mem _ member)
    rw [List.cons_append, classOf]
    split
    · exact later _
    · rename_i apart
      obtain ⟨offset, named⟩ := (known u List.mem_cons_self).resolve_left apart
      rw [named]
      exact later _

/-- **A constraint that is not known is refused**, for the first variable that is not. -/
theorem classify_stray {clean rest : List Variable} (reads : single.reads = clean ++ v :: rest)
    (known : ∀ u ∈ clean, context.Reads own u) (unknown : ¬ context.Reads own v) :
    single.classify own context = single.stray v := by
  have varied : ¬ single.isConstant = true := by simp [isConstant, reads]
  rw [classify, if_neg varied, reads]
  exact classOf_stray known unknown

/-! ### Order and repetition -/

/-- **The constraints read the same variables**, in whatever order and however often. -/
def ReadAlike (single other : SingleConstraint) : Prop :=
  ∀ id, id ∈ single.reads.map Variable.id ↔ id ∈ other.reads.map Variable.id

theorem ReadAlike.symm (alike : single.ReadAlike other) : other.ReadAlike single :=
  fun id => (alike id).symm

/-- Every variable that one of them reads is read by the other one. -/
theorem ReadAlike.read (alike : single.ReadAlike other) (member : v ∈ single.reads) :
    ∃ u ∈ other.reads, u.id = v.id :=
  List.mem_map.mp ((alike v.id).mp (List.mem_map_of_mem member))

theorem ReadAlike.knows (alike : single.ReadAlike other) (known : context.Knows own single) :
    context.Knows own other := by
  intro v member
  obtain ⟨u, read, same⟩ := alike.symm.read member
  have here := known u read
  simpa only [BuildContext.Reads, BuildContext.offset?, Variable.same, same] using here

theorem ReadAlike.isConstant (alike : single.ReadAlike other)
    (constant : single.isConstant = true) : other.isConstant = true := by
  refine List.isEmpty_iff.mpr (List.eq_nil_iff_forall_not_mem.mpr fun v member => ?_)
  obtain ⟨u, read, _⟩ := alike.symm.read member
  rw [List.isEmpty_iff.mp constant] at read
  cases read

theorem ReadAlike.isBeta (alike : single.ReadAlike other) (beta : single.isBeta own = true) :
    other.isBeta own = true := by
  obtain ⟨v, member, different⟩ := List.any_eq_true.mp beta
  obtain ⟨u, read, same⟩ := alike.read member
  refine List.any_eq_true.mpr ⟨u, read, ?_⟩
  simpa only [Variable.same, same] using different

/-- **The class does not depend on order and repetition.** -/
theorem ReadAlike.classify (alike : single.ReadAlike other) (kind : ConstraintClass) :
    single.classify own context = .ok kind ↔ other.classify own context = .ok kind := by
  have constant : single.isConstant = other.isConstant :=
    Bool.eq_iff_iff.mpr ⟨alike.isConstant, alike.symm.isConstant⟩
  have beta : single.isBeta own = other.isBeta own :=
    Bool.eq_iff_iff.mpr ⟨alike.isBeta, alike.symm.isBeta⟩
  have read : single.classRead own = other.classRead own := by
    rw [classRead, constant, beta, classRead]
  rw [classify_iff, classify_iff, read]
  exact and_congr_left fun _ => ⟨alike.knows, alike.symm.knows⟩

end SingleConstraint

/-! ### All constraints of a pattern -/

/-- A list with an element that fails a test has a first one. -/
theorem exists_first_failing {α : Type} {property : α → Prop} {items : List α}
    (fails : ¬ ∀ item ∈ items, property item) :
    ∃ before item after, items = before ++ item :: after ∧
      (∀ earlier ∈ before, property earlier) ∧ ¬ property item := by
  classical
  cases first : items.find? fun item => !decide (property item) with
  | none =>
    exact absurd (fun item member => by simpa using List.find?_eq_none.mp first item member) fails
  | some item =>
    obtain ⟨failing, before, after, split, clean⟩ := List.find?_eq_some_iff_append.mp first
    exact ⟨before, item, after, split, fun earlier member => by simpa using clean earlier member,
      by simpa using failing⟩

namespace Classified

/-- **The constraints by what they read**, each class in their order. -/
def byRead (own : Variable) (singles : List SingleConstraint) : Classified where
  constant := singles.filter SingleConstraint.isConstant
  alpha := singles.filter fun single => single.isAlpha own
  beta := singles.filter fun single => single.isBeta own

theorem byRead_cons (own : Variable) (single : SingleConstraint) (rest : List SingleConstraint) :
    byRead own (single :: rest) = add single (single.classRead own) (byRead own rest) := by
  unfold byRead SingleConstraint.classRead
  simp only [List.filter_cons, SingleConstraint.isAlpha_eq]
  cases constant : single.isConstant with
  | true => simp [single.isBeta_of_isConstant constant, add]
  | false => cases single.isBeta own <;> simp [add]

/-- **Constraints that are known are sorted.** -/
theorem partition_eq {singles : List SingleConstraint}
    (known : ∀ single ∈ singles, context.Knows own single) :
    partition own context singles = .ok (byRead own singles) := by
  induction singles with
  | nil => rfl
  | cons single rest hypothesis =>
    have later := hypothesis fun other member => known other (List.mem_cons_of_mem _ member)
    rw [partition, SingleConstraint.classify_eq (known single List.mem_cons_self), later,
      byRead_cons]
    rfl

/-- **The first constraint that is not known is the error.** -/
theorem partition_stray {before after : List SingleConstraint} {failure : Failure}
    (known : ∀ earlier ∈ before, context.Knows own earlier)
    (refused : single.classify own context = .error failure) :
    partition own context (before ++ single :: after) = .error failure := by
  induction before with
  | nil =>
    rw [List.nil_append, partition, refused]
    rfl
  | cons earlier before hypothesis =>
    have later := hypothesis fun other member => known other (List.mem_cons_of_mem _ member)
    rw [List.cons_append, partition,
      SingleConstraint.classify_eq (known earlier List.mem_cons_self), later]
    rfl

end Classified

/-! ### Slots -/

/-- **The slot is where a variable is read**: the object, for the pattern's own variable, and else
the place of the variable in the tuple. -/
def BuildContext.Slotted (context : BuildContext) (own v : Variable) (slot : Slot) : Prop :=
  (slot = .object ↔ v.same own = true) ∧
    (v.same own = false → ∃ offset, context.offset? v = some offset ∧ slot = .tuple offset)

/-- **The constraint with the slots of its variables**, argument by argument. -/
structure BuildContext.Binds (context : BuildContext) (own : Variable) (single : SingleConstraint)
    (constraint : BoundConstraint) : Prop where
  predicate : constraint.predicate = single.predicate
  slots : List.Forall₂ (context.Slotted own) single.reads constraint.slots

theorem BuildContext.Reads.slotted (reads : context.Reads own v) :
    context.Slotted own v (context.slot own v) := by
  unfold Slotted slot
  cases same : v.same own with
  | true => simp
  | false =>
    rcases reads with self | ⟨offset, named⟩
    · exact absurd (same.symm.trans self) Bool.false_ne_true
    · simp [named]

theorem BuildContext.Knows.binds (known : context.Knows own single) :
    context.Binds own single (context.placed own single) where
  predicate := rfl
  slots := List.forall₂_map_right_iff.mpr
    (List.forall₂_same.mpr fun v member => (known v member).slotted)

/-- **The constraints of a pattern are sorted, and bound, exactly.** Sorting succeeds if every leaf
of the tree is known, and else the first leaf that is not is the error, for its first variable that
is not. The three classes are the leaves that read nothing, only the pattern's own variable, and
another variable; the last ones are bound, one by one. -/
theorem Constraint.classified_exactly (constraint : Constraint) (own : Variable)
    (context : BuildContext) :
    ((∃ classified, Classified.partition own context constraint.singles = .ok classified) ↔
        ∀ single, Leaf single constraint → context.Knows own single) ∧
      ((¬ ∀ single, Leaf single constraint → context.Knows own single) →
        ∃ before single after clean v rest,
          (constraint.singles = before ++ single :: after ∧
            ∀ earlier ∈ before, context.Knows own earlier) ∧
          (single.reads = clean ++ v :: rest ∧ (∀ u ∈ clean, context.Reads own u) ∧
            ¬ context.Reads own v) ∧
          Classified.partition own context constraint.singles = single.stray v) ∧
      (∀ classified, Classified.partition own context constraint.singles = .ok classified →
        (classified.constant = constraint.singles.filter SingleConstraint.isConstant ∧
          classified.alpha = (constraint.singles.filter fun single => single.isAlpha own) ∧
          classified.beta = (constraint.singles.filter fun single => single.isBeta own) ∧
          classified.constant.length + classified.alpha.length + classified.beta.length =
            constraint.singles.length) ∧
        ∃ constraints, SingleConstraint.bindAll classified.beta own context = .ok constraints ∧
          List.Forall₂ (context.Binds own) classified.beta constraints) ∧
      ∀ (single other : SingleConstraint), single.ReadAlike other → ∀ kind,
        (single.classify own context = .ok kind ↔ other.classify own context = .ok kind) := by
  have leaves : (∀ single, Leaf single constraint → context.Knows own single) ↔
      ∀ single ∈ constraint.singles, context.Knows own single := by
    simp only [mem_singles_iff]
  rw [leaves]
  refine ⟨⟨?_, fun known => ⟨_, Classified.partition_eq known⟩⟩, fun unknown => ?_,
    fun classified sorted => ?_, fun _ _ alike kind => alike.classify kind⟩
  · rintro ⟨classified, sorted⟩
    exact (Classified.partition_ok sorted).2.2
  · obtain ⟨before, single, after, split, earlier, strays⟩ := exists_first_failing unknown
    obtain ⟨clean, v, rest, reads, known, stray⟩ := exists_first_failing strays
    refine ⟨before, single, after, clean, v, rest, ⟨split, earlier⟩, ⟨reads, known, stray⟩, ?_⟩
    rw [split]
    exact Classified.partition_stray earlier (SingleConstraint.classify_stray reads known stray)
  · have known := (Classified.partition_ok sorted).2.2
    cases (Classified.partition_eq known).symm.trans sorted
    have reading : ∀ single ∈ (Classified.byRead own constraint.singles).beta,
        context.Knows own single := fun single member => known single (List.mem_of_mem_filter member)
    refine ⟨⟨rfl, rfl, rfl, Classified.size_partition sorted⟩, _,
      SingleConstraint.bindAll_of_reads reading, ?_⟩
    exact List.forall₂_map_right_iff.mpr
      (List.forall₂_same.mpr fun single member => (reading single member).binds)

end

end RuleNet
