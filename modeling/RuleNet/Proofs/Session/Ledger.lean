/-
**The working memory of a session is an exact ledger of its requests.**

A session opens with the initial fact. After that an object enters when it is asked to and the
session knows the source, an object leaves when its handle is retracted, and nothing else changes
working memory: agendas are read and rules fire without touching it.

* `Session.after`, `Session.handles`: the session after several requests, and the handles it gave
  out on the way;
* `step?`, `steps`: what requests do to working memory;
* `serve_memory`, `memory_after`: **each request does just that**, and so does a run of requests;
* `ledgers_exact`: **working memory, alone or in a session, is an exact ledger**.
-/

import RuleNet.Proofs.Memory.Ledger
import RuleNet.Proofs.Session.Refraction
import RuleNet.Proofs.Session.Renumbered

namespace RuleNet

namespace Session

/-- **The session after several requests**, one after the other. -/
def after (session : Session) : List Request → Session
  | [] => session
  | request :: rest => (session.serve request).session.after rest

/-- The handle that a reply gives out. -/
def handle? (reply : Reply Answer) : Option Handle :=
  match reply.outcome with
  | .ok (.entered handle) => some handle
  | _ => none

/-- The handles that were given out in several replies, in their order. -/
def handles (replies : List (Reply Answer)) : List Handle :=
  replies.filterMap handle?

/-- **What a request does to working memory.** An object enters if the session knows its source. -/
def step? (session : Session) : Request → Option WorkingMemory.Step
  | .put source value => if session.knows source then some (.put source value) else none
  | .retract handle => some (.retract handle)
  | .agenda => none
  | .fireAll => none

/-- What several requests do to working memory. -/
def steps (session : Session) (requests : List Request) : List WorkingMemory.Step :=
  requests.filterMap session.step?

variable {session : Session}

theorem put_known {source : Source} (known : session.knows source = true) (value : Value) :
    session.put source value = reply (.ok (session.memory.put source value).1)
      { session with memory := (session.memory.put source value).2 }
      [enteredLine (session.memory.put source value).1 source] := by
  rw [put, if_pos known]

theorem put_unknown {source : Source} (unknown : session.knows source = false) (value : Value) :
    session.put source value = reply (Fault.unknownSource source.name).fail session [] := by
  rw [put, if_neg (by rw [unknown]; exact Bool.false_ne_true)]

theorem retract_outcome (session : Session) (handle : Handle) :
    (session.retract handle).outcome = .ok (session.memory.retract handle).1.isSome := by
  unfold retract
  split <;> rename_i taken <;> rw [taken] <;> rfl

/-- **A request changes working memory by its step**, keeps the knowledge base, and gives out the
handle that the step answers with. -/
theorem serve_memory (session : Session) (request : Request) :
    (session.serve request).session.kb = session.kb ∧
      (session.serve request).session.memory =
        session.memory.after (session.step? request).toList ∧
      (handle? (session.serve request)).toList =
        session.memory.answers (session.step? request).toList := by
  cases request with
  | put source value =>
    cases known : session.knows source with
    | true =>
      simp only [serve, put_known known, step?, known, if_true]
      exact ⟨rfl, rfl, rfl⟩
    | false =>
      simp only [serve, put_unknown known, step?, known, Bool.false_eq_true, if_false]
      exact ⟨rfl, rfl, rfl⟩
  | retract handle =>
    have answer : handle? (session.serve (.retract handle)) = none := by
      simp only [serve, handle?, Reply.map, retract_outcome, Except.map]
    rw [answer]
    show (session.retract handle).session.kb = _ ∧ (session.retract handle).session.memory = _ ∧ _
    rw [retract_ends]
    exact ⟨rfl, rfl, rfl⟩
  | agenda =>
    have answer : handle? (session.serve .agenda) = none := by
      simp only [serve, handle?, Reply.map]
      cases session.agenda.outcome <;> rfl
    rw [answer]
    exact ⟨rfl, rfl, rfl⟩
  | fireAll =>
    have answer : handle? (session.serve .fireAll) = none := by
      simp only [serve, handle?, Reply.map]
      cases session.fireAll.outcome <;> rfl
    rw [answer]
    have runs := session.executed_runs.1
    exact ⟨runs.kb, runs.memory, rfl⟩

theorem knows_of_kb {other : Session} (same : other.kb = session.kb) (source : Source) :
    other.knows source = session.knows source := by
  cases source <;> simp only [knows, same]

theorem steps_of_kb {other : Session} (same : other.kb = session.kb) (requests : List Request) :
    other.steps requests = session.steps requests := by
  refine List.filterMap_congr fun request _ => ?_
  cases request <;> simp only [step?, knows_of_kb same]

theorem steps_cons (session : Session) (request : Request) (rest : List Request) :
    session.steps (request :: rest) =
      (session.step? request).toList ++ (session.serve request).session.steps rest := by
  rw [steps_of_kb (session.serve_memory request).1]
  unfold steps
  cases found : session.step? request with
  | none => rw [List.filterMap_cons_none found]; rfl
  | some step => rw [List.filterMap_cons_some found]; rfl

/-- **Requests change working memory by their steps**, and give out the handles of the puts among
them. -/
theorem memory_after (session : Session) (requests : List Request) :
    (session.after requests).kb = session.kb ∧
      (session.after requests).memory = session.memory.after (session.steps requests) ∧
      handles (session.serveAll requests) = session.memory.answers (session.steps requests) := by
  induction requests generalizing session with
  | nil => exact ⟨rfl, rfl, rfl⟩
  | cons request rest hypothesis =>
    obtain ⟨kb, memory, answers⟩ := session.serve_memory request
    obtain ⟨others, later, more⟩ := hypothesis (session.serve request).session
    have first : handles (session.serveAll (request :: rest)) =
        (handle? (session.serve request)).toList ++
          handles ((session.serve request).session.serveAll rest) := by
      unfold handles
      cases found : handle? (session.serve request) with
      | none => exact List.filterMap_cons_none found
      | some handle => exact List.filterMap_cons_some found
    rw [steps_cons, WorkingMemory.after_append, WorkingMemory.answers_append, ← memory, first,
      answers]
    exact ⟨others.trans kb, later, congrArg _ more⟩

/-- **Working memory is an exact ledger**: the puts answer with 0, 1, 2, …, every source holds what
was put into it and not retracted since, and a retraction takes out that object and no other. The
memory of a session is the ledger of the initial fact and of what the session was asked to do: it
takes an object exactly if it knows the source, and answers with the handle of its memory. -/
theorem ledgers_exact :
    (∀ steps, (WorkingMemory.empty.after steps).Exact steps ∧
      WorkingMemory.empty.answers steps =
        (List.range (WorkingMemory.puts steps)).map Handle.mk) ∧
    ∀ (kb : KnowledgeBase) (bound : Nat) (requests : List Request),
      let opened := openOver kb bound
      let session := opened.after requests
      let steps :=
        .put (.entryPoint defaultEntryPoint) Fact.initial.toValue :: opened.steps requests
      session.memory = WorkingMemory.empty.after steps ∧ session.memory.Exact steps ∧
        ⟨0⟩ :: handles (opened.serveAll requests) =
          (List.range (WorkingMemory.puts steps)).map Handle.mk ∧
        (∀ source value, (session.put source value).outcome =
          if opened.knows source then .ok (session.memory.put source value).1
          else (Fault.unknownSource source.name).fail) ∧
        ∀ handle, (session.retract handle).outcome =
          .ok (session.memory.retract handle).1.isSome := by
  have answered : ∀ steps, WorkingMemory.empty.answers steps =
      (List.range (WorkingMemory.puts steps)).map Handle.mk := fun steps => by
    rw [WorkingMemory.answers_eq, List.range_eq_range']
    rfl
  refine ⟨fun steps => ⟨WorkingMemory.exact_after steps, answered steps⟩, ?_⟩
  intro kb bound requests opened session steps
  obtain ⟨same, memory, given⟩ := opened.memory_after requests
  have whole : session.memory = WorkingMemory.empty.after steps := memory
  refine ⟨whole, ?_, ?_, fun source value => ?_, session.retract_outcome⟩
  · rw [whole]
    exact WorkingMemory.exact_after steps
  · rw [← answered]
    exact congrArg (⟨0⟩ :: ·) given
  · rw [← knows_of_kb same]
    cases known : session.knows source with
    | true => rw [put_known known, if_pos rfl]; rfl
    | false => rw [put_unknown known, if_neg Bool.false_ne_true]; rfl

end Session

end RuleNet
