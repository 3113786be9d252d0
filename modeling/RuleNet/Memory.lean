/-
**Working memory: the objects of each source, under their handles.**

Every object that enters gets a handle, larger than all before it. A source keeps its objects in
the order they entered, and a handle is good until its object is retracted.

* `put`: an object enters a source;
* `retract`: an object leaves, whatever source it is in;
* `objects`: what a source holds;
* `objects_put_same`, `objects_put_other`: what a put does to every source.
-/

import RuleNet.Condition.Pattern

namespace RuleNet

/-- The number of an object that entered working memory. -/
structure Handle where
  index : Nat
deriving DecidableEq, Repr, Inhabited

def Handle.text (handle : Handle) : String :=
  "f" ++ toString handle.index

/-- The listing of a handle. -/
def Handle.quotedText (handle : Handle) : String :=
  "FactHandle(" ++ toString handle.index ++ ")"

/-- An object and its handle. -/
structure Held where
  handle : Handle
  value : Value
deriving DecidableEq, Repr

/-- The objects of all sources. -/
structure WorkingMemory where
  entryPoints : NameMap (List Held)
  streams : NameMap (List Held)
  nextHandle : Nat
deriving Repr

namespace WorkingMemory

def empty : WorkingMemory :=
  ⟨[], [], 0⟩

/-- **The objects of a source**, in the order they entered. -/
def objects (memory : WorkingMemory) : Source → List Held
  | .entryPoint name => (NameMap.get? memory.entryPoints name).getD []
  | .stream name => (NameMap.get? memory.streams name).getD []

/-- The handle that the next object gets. -/
def next (memory : WorkingMemory) : Handle :=
  ⟨memory.nextHandle⟩

/-- The map with one more object under a name. -/
def append (map : NameMap (List Held)) (name : String) (held : Held) : NameMap (List Held) :=
  NameMap.set map name ((NameMap.get? map name).getD [] ++ [held])

/-- **An object enters a source** and gets the next handle. -/
def put (memory : WorkingMemory) (source : Source) (value : Value) : Handle × WorkingMemory :=
  let held : Held := ⟨memory.next, value⟩
  let nextHandle := memory.nextHandle + 1
  (memory.next, match source with
    | .entryPoint name =>
      { memory with entryPoints := append memory.entryPoints name held, nextHandle := nextHandle }
    | .stream name =>
      { memory with streams := append memory.streams name held, nextHandle := nextHandle })

/-- Takes the object under a handle out of a list of objects. -/
def takeFrom (handle : Handle) : List Held → Option (Value × List Held)
  | [] => none
  | held :: rest =>
    if held.handle = handle then some (held.value, rest)
    else (takeFrom handle rest).map fun taken => (taken.1, held :: taken.2)

/-- Takes the object under a handle out of the first source that has it. -/
def takeFromAny (handle : Handle) : NameMap (List Held) → Option (Value × NameMap (List Held))
  | [] => none
  | (name, held) :: rest =>
    match takeFrom handle held with
    | some (value, left) => some (value, (name, left) :: rest)
    | none => (takeFromAny handle rest).map fun taken => (taken.1, (name, held) :: taken.2)

/-- **The object under a handle leaves**, if there is one. -/
def retract (memory : WorkingMemory) (handle : Handle) : Option Value × WorkingMemory :=
  match takeFromAny handle memory.entryPoints with
  | some (value, left) => (some value, { memory with entryPoints := left })
  | none =>
    match takeFromAny handle memory.streams with
    | some (value, left) => (some value, { memory with streams := left })
    | none => (none, memory)

/-- The number of objects. -/
def size (memory : WorkingMemory) : Nat :=
  ((memory.entryPoints ++ memory.streams).flatMap fun entry => entry.2).length

def isEmpty (memory : WorkingMemory) : Bool :=
  memory.size = 0

/-! ### Puts and reads -/

theorem objects_put_same (memory : WorkingMemory) (source : Source) (value : Value) :
    (memory.put source value).2.objects source =
      memory.objects source ++ [⟨memory.next, value⟩] := by
  cases source <;> simp [put, objects, append]

theorem objects_put_other (memory : WorkingMemory) {source other : Source} (value : Value)
    (different : other ≠ source) :
    (memory.put source value).2.objects other = memory.objects other := by
  cases source <;> cases other <;> simp_all [put, objects, append]

theorem retract_missing {memory : WorkingMemory} {handle : Handle}
    (missing : (memory.retract handle).1 = none) : (memory.retract handle).2 = memory := by
  unfold retract at missing ⊢
  split
  · simp_all
  · split <;> simp_all

end WorkingMemory

end RuleNet
