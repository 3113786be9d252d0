/-
**Sessions over knowledge bases that differ in their node ids.**

A session shows node ids only in the matches that it lists: each names its terminal. The order of
terminals decides ties, and it is the same under other ids. So the same requests get the same
answers, up to the terminals, and leave sessions that still correspond.

* `Renumbering.activation`: a match with its terminal under the other id;
* `Session.Image`, `Reply.Image`: sessions, and replies, that correspond;
* `agenda_image`, `fireAll_image`, …: **every step of a session corresponds to itself**;
* `Session.Request`, `Session.serveAll`: what can be asked of a session, and all replies in turn;
* `serveAll_images`: **the replies to any requests correspond**.
-/

import RuleNet.Proofs.Build.WithoutFailures
import RuleNet.Proofs.Match.Renumbered
import RuleNet.Proofs.Session.Firing

namespace RuleNet

open Stateful Evaluation

namespace Renumbering

variable (numbers : Renumbering)

/-- A match with its terminal under the other id. -/
def activation (activation : Activation) : Activation :=
  { activation with terminal := numbers.nodeId activation.terminal }

theorem sameMatch_activation (a b : Activation) :
    (numbers.activation a).sameMatch (numbers.activation b) = a.sameMatch b := by
  have terminals : decide (numbers.nodeId a.terminal = numbers.nodeId b.terminal) =
      decide (a.terminal = b.terminal) := decide_eq_decide.mpr numbers.nodeId_inj
  exact congrArg (· && decide (a.token = b.token)) terminals

/-- **The firing order is the same**, since ids keep their order. -/
theorem inFiringOrder_map (found : List Activation) :
    Session.inFiringOrder (found.map numbers.activation) =
      (Session.inFiringOrder found).map numbers.activation := by
  refine (List.map_mergeSort fun a _ b _ => ?_).symm
  have terminals : decide (numbers.number a.terminal.index ≤ numbers.number b.terminal.index) =
      decide (a.terminal.index ≤ b.terminal.index) := decide_eq_decide.mpr numbers.rises.le_iff_le
  exact congrArg (fun earlier => decide (b.salience < a.salience) ||
    decide (a.salience = b.salience) && earlier) terminals.symm

end Renumbering

/-! ### Matches -/

namespace Session

variable {numbers : Renumbering} {network : Network} {memory : WorkingMemory}

theorem activation_renumbered (terminal : Terminal) (id : NodeId) (token : Token) :
    activation terminal (numbers.nodeId id) token =
      (activation terminal id token).map numbers.activation := by
  unfold activation
  cases arguments terminal token <;> rfl

theorem inRule_renumbers {α β : Type} {view : β → α} {step : Evaluation α} {replay : Evaluation β}
    (renumbers : Renumbers numbers view step replay) (rule : String) :
    Renumbers numbers view (inRule rule step) (inRule rule replay) :=
  renumbers.tryCatch fun _ => .throw _ _

/-- **The matches at a terminal** of a layered network are found alike. -/
theorem matchesAt_renumbers (layered : Layered network.nodes) (id : NodeId) :
    Renumbers numbers (List.map numbers.activation)
      (matchesAt (numbers.network network) memory (numbers.nodeId id))
      (matchesAt network memory id) := by
  unfold matchesAt
  rw [Renumbering.node?_network]
  cases found : network.node? id with
  | none => exact .pure (List.map numbers.activation) []
  | some node =>
    obtain ⟨own, kind, object, tuple, children⟩ := node
    cases kind with
    | terminal terminal =>
      obtain ⟨parent, width, named, given, _⟩ :=
        (layered.fits (Network.node?_mem found)).tupleParent rfl
      cases named
      refine inRule_renumbers ?_ terminal.rule
      refine (tokensAt_renumbers layered given).follow fun tokens => ?_
      rw [Outcome.mapM_view (activation_renumbered terminal id)]
      cases tokens.mapM (activation terminal id) with
      | ok matching => exact .pure _ matching
      | error failure => exact .throw failure _
    | _ => exact .pure (List.map numbers.activation) []

theorem matchesAll_renumbers (layered : Layered network.nodes) (ids : List NodeId) :
    Renumbers numbers (List.map numbers.activation)
      (matchesAll (numbers.network network) memory (ids.map numbers.nodeId))
      (matchesAll network memory ids) := by
  induction ids with
  | nil => exact .pure (List.map numbers.activation) []
  | cons id rest hypothesis =>
    refine (matchesAt_renumbers layered id).bind fun first => ?_
    refine hypothesis.bind fun others => ?_
    rw [← List.map_append]
    exact .pure _ _

/-- What the evaluator of an agenda finds, and what it knows then. -/
def searched (session : Session) : Outcome (List Activation) × EvaluatorState :=
  result (matchesAll session.kb.network session.memory session.kb.network.terminals) .fresh

theorem agenda_searched (session : Session) :
    session.agenda = ⟨session.searched.1.map fun found => inFiringOrder (session.unstarted found),
      session, [], session.searched.2.calls.map Prod.snd⟩ := rfl

/-! ### Sessions that correspond -/

/-- **The session is another one under other ids**, over a knowledge base that corresponds. Its
network is layered, so a failure never names a node. -/
structure Image (numbers : Renumbering) (twin session : Session) : Prop where
  kb : twin.kb.Image numbers session.kb
  layered : Layered twin.kb.network.nodes
  memory : session.memory = twin.memory
  bound : session.bound = twin.bound
  started : session.started = twin.started.map numbers.activation
  history : session.history = twin.history.map numbers.activation

end Session

/-- **The reply is another one under other ids**: `view` is what the ids make of the answer. The
same lines are written to the log, and the same callbacks run. -/
structure Reply.Image {α : Type} (numbers : Renumbering) (view : α → α) (twin reply : Reply α) :
    Prop where
  outcome : reply.outcome = twin.outcome.map view
  session : twin.session.Image numbers reply.session
  log : reply.log = twin.log
  calls : reply.calls = twin.calls

namespace Session

variable {twin session : Session}

theorem reply_image {α : Type} (image : twin.Image numbers session) (outcome : Outcome α)
    (log : List LogLine) :
    Reply.Image numbers id (reply outcome twin log) (reply outcome session log) :=
  ⟨by cases outcome <;> rfl, image, rfl, rfl⟩

namespace Image

/-- Both come to hold the same objects. -/
theorem holding (image : twin.Image numbers session) (memory : WorkingMemory) :
    Session.Image numbers { twin with memory := memory } { session with memory := memory } :=
  { image with memory := rfl }

/-- The same sources are known. -/
theorem knows (image : twin.Image numbers session) (source : Source) :
    session.knows source = twin.knows source := by
  cases source with
  | entryPoint name =>
    simp only [Session.knows, KnowledgeBase.entryPoint?, image.kb.entryPoints,
      Renumbering.get?_roots, Option.isSome_map]
  | stream name =>
    simp only [Session.knows, KnowledgeBase.streamRoot?, image.kb.streams,
      Renumbering.get?_roots, Option.isSome_map]

/-- Objects enter alike. -/
theorem put (image : twin.Image numbers session) (source : Source) (value : Value) :
    Reply.Image numbers id (twin.put source value) (session.put source value) := by
  unfold Session.put
  rw [image.knows, image.memory]
  split
  · exact reply_image (image.holding _) _ _
  · exact reply_image image _ _

/-- Objects leave alike. -/
theorem retract (image : twin.Image numbers session) (handle : Handle) :
    Reply.Image numbers id (twin.retract handle) (session.retract handle) := by
  unfold Session.retract
  rw [image.memory]
  split
  · exact reply_image (image.holding _) _ _
  · exact reply_image image _ _

/-- The same matches were run before. -/
theorem unstarted (image : twin.Image numbers session) (found : List Activation) :
    session.unstarted (found.map numbers.activation) =
      (twin.unstarted found).map numbers.activation := by
  rw [unstarted_eq_filter, unstarted_eq_filter, List.filter_map]
  congr 2
  funext activation
  simp only [Function.comp_apply, hasStarted, image.started, Array.any_map,
    Renumbering.sameMatch_activation]

/-- **The agendas correspond.** -/
theorem agenda (image : twin.Image numbers session) :
    Reply.Image numbers (List.map numbers.activation) twin.agenda session.agenda := by
  have found : session.searched =
      (twin.searched.1.map (List.map numbers.activation), numbers.state twin.searched.2) := by
    unfold searched
    rw [image.kb.network, image.memory, Renumbering.terminals_network]
    exact matchesAll_renumbers image.layered twin.kb.network.terminals .fresh
  rw [agenda_searched, agenda_searched, found]
  refine ⟨?_, image, rfl, List.map_map⟩
  show (twin.searched.1.map _).map _ = (twin.searched.1.map _).map _
  rw [Outcome.map_map, Outcome.map_map]
  congr 1
  funext matching
  exact (congrArg inFiringOrder (image.unstarted matching)).trans (numbers.inFiringOrder_map _)

/-! ### Firing -/

/-- The terminals have the same consequences. -/
theorem consequence? (image : twin.Image numbers session) (activation : Activation) :
    session.consequence? (numbers.activation activation) = twin.consequence? activation := by
  unfold Session.consequence?
  have known : session.kb.network.node? (numbers.activation activation).terminal =
      (twin.kb.network.node? activation.terminal).map numbers.node := by
    rw [image.kb.network]
    exact numbers.node?_network _ _
  rw [known]
  cases twin.kb.network.node? activation.terminal with
  | none => rfl
  | some node =>
    obtain ⟨own, kind, object, tuple, children⟩ := node
    cases kind <;> rfl

theorem start (image : twin.Image numbers session) (activation : Activation) :
    (twin.start activation).Image numbers (session.start (numbers.activation activation)) :=
  { image with started := by rw [Session.start, image.started, Session.start, Array.map_push] }

theorem succeed (image : twin.Image numbers session) (activation : Activation) :
    (twin.succeed activation).Image numbers (session.succeed (numbers.activation activation)) :=
  { image with history := by rw [Session.succeed, image.history, Session.succeed, Array.map_push] }

/-- **A match fires alike.** -/
theorem fire (image : twin.Image numbers session) (activation : Activation) :
    Reply.Image numbers id (twin.fire activation)
      (session.fire (numbers.activation activation)) := by
  have done := (image.start activation).succeed activation
  unfold Session.fire
  rw [image.consequence?, image.bound, image.history, Array.size_map]
  split
  · exact reply_image image _ _
  · cases twin.consequence? activation with
    | none => exact reply_image done _ _
    | some consequence =>
      have same : consequence.run (numbers.activation activation).bindings =
          consequence.run activation.bindings := rfl
      simp only [same]
      cases consequence.run activation.bindings with
      | ok _ => exact reply_image done _ _
      | error failure => exact reply_image (image.start activation) _ _

/-- **A list of matches fires alike.** -/
theorem fireEach (image : twin.Image numbers session) (agenda : List Activation) :
    Reply.Image numbers id (twin.fireEach agenda)
      (session.fireEach (agenda.map numbers.activation)) := by
  induction agenda generalizing twin session with
  | nil => exact reply_image image _ _
  | cons activation rest hypothesis =>
    have first := image.fire activation
    have others := hypothesis first.session
    rw [List.map_cons, Session.fireEach, Session.fireEach, first.outcome]
    cases (twin.fire activation).outcome with
    | error failure => exact ⟨rfl, first.session, first.log, first.calls⟩
    | ok _ =>
      have log := congrArg₂ (· ++ ·) first.log others.log
      have calls := congrArg₂ (· ++ ·) first.calls others.calls
      exact ⟨others.outcome, others.session, log, calls⟩

/-- **Rounds of firing correspond.** -/
theorem fireRounds (image : twin.Image numbers session) (count : Nat) :
    Reply.Image numbers id (twin.fireRounds count) (session.fireRounds count) := by
  -- along the rounds of the twin, which the other session follows
  induction twin, count using Session.fireRounds.induct generalizing session with
  | case1 twin count found failure =>
    rename_i failed
    have agenda := image.agenda
    have fails := agenda.outcome.trans (congrArg _ failed)
    rw [fireRounds_eq, fireRounds_eq, failed, fails]
    exact ⟨rfl, image, rfl, agenda.calls⟩
  | case2 twin count found =>
    rename_i none
    have agenda := image.agenda
    have nothing := agenda.outcome.trans (congrArg _ none)
    rw [fireRounds_eq, fireRounds_eq, none, nothing]
    exact ⟨rfl, image, rfl, agenda.calls⟩
  | case3 twin count found activation rest listed round failure =>
    rename_i stopped
    have agenda := image.agenda
    have list := agenda.outcome.trans (congrArg _ listed)
    have fired := image.fireEach (activation :: rest)
    have stops := fired.outcome.trans (congrArg _ stopped)
    have calls := congrArg₂ (· ++ ·) agenda.calls fired.calls
    rw [fireRounds_eq, fireRounds_eq, listed, list]
    simp only [Except.map, List.map_cons]
    rw [stopped, ← List.map_cons, stops]
    exact ⟨rfl, fired.session, fired.log, calls⟩
  | case4 twin count found activation rest listed round whole =>
    rename_i hypothesis
    have agenda := image.agenda
    have list := agenda.outcome.trans (congrArg _ listed)
    have fired := image.fireEach (activation :: rest)
    have succeeds := fired.outcome.trans (congrArg _ whole)
    have others := hypothesis fired.session
    have log := congrArg₂ (· ++ ·) fired.log others.log
    have calls := congrArg₂ (· ++ ·) (congrArg₂ (· ++ ·) agenda.calls fired.calls) others.calls
    rw [fireRounds_eq, fireRounds_eq, listed, list]
    simp only [Except.map, List.map_cons]
    rw [whole, ← List.map_cons, succeeds, List.length_map]
    exact ⟨others.outcome, others.session, log, calls⟩

/-- **Firing all rules corresponds.** -/
theorem fireAll (image : twin.Image numbers session) :
    Reply.Image numbers id twin.fireAll session.fireAll :=
  image.fireRounds 0

end Image

end Session

/-! ### Requests -/

/-- The reply with a changed answer. -/
def Reply.map {α β : Type} (reply : Reply α) (change : α → β) : Reply β :=
  ⟨reply.outcome.map change, reply.session, reply.log, reply.calls⟩

theorem Reply.Image.map {α β : Type} {numbers : Renumbering} {view : α → α} {wide : β → β}
    {twin reply : Reply α} (image : Reply.Image numbers view twin reply) {change : α → β}
    (agree : ∀ answer, change (view answer) = wide (change answer)) :
    Reply.Image numbers wide (twin.map change) (reply.map change) := by
  refine ⟨?_, image.session, image.log, image.calls⟩
  show reply.outcome.map change = (twin.outcome.map change).map wide
  rw [image.outcome, Outcome.map_map, Outcome.map_map]
  exact congrArg twin.outcome.map (funext agree)

namespace Session

variable {numbers : Renumbering} {twin session : Session}

/-- **What can be asked of a session.** -/
inductive Request where
  /-- An object enters an entry point or a stream. -/
  | put (source : Source) (value : Value)
  | retract (handle : Handle)
  | agenda
  | fireAll

/-- What a session answers. -/
inductive Answer where
  | entered (handle : Handle)
  | left (there : Bool)
  | matching (agenda : List Activation)
  | fired (count : Nat)

/-- **A session does what it is asked.** -/
def serve (session : Session) : Request → Reply Answer
  | .put source value => (session.put source value).map .entered
  | .retract handle => (session.retract handle).map .left
  | .agenda => session.agenda.map .matching
  | .fireAll => session.fireAll.map .fired

/-- **The replies to several requests**, one after the other. A request that fails does not keep
the next ones from being served. -/
def serveAll (session : Session) : List Request → List (Reply Answer)
  | [] => []
  | request :: rest => session.serve request :: (session.serve request).session.serveAll rest

end Session

/-- An answer under other ids. -/
def Renumbering.answer (numbers : Renumbering) : Session.Answer → Session.Answer
  | .matching agenda => .matching (agenda.map numbers.activation)
  | answer => answer

namespace Session

variable {numbers : Renumbering} {twin session : Session}

/-- **A request is served alike.** -/
theorem Image.serve (image : twin.Image numbers session) (request : Request) :
    Reply.Image numbers numbers.answer (twin.serve request) (session.serve request) := by
  cases request with
  | put source value => exact (image.put source value).map fun _ => rfl
  | retract handle => exact (image.retract handle).map fun _ => rfl
  | agenda => exact image.agenda.map fun _ => rfl
  | fireAll => exact image.fireAll.map fun _ => rfl

/-- **The replies to any requests correspond.** -/
theorem Image.serveAll (image : twin.Image numbers session) (requests : List Request) :
    List.Forall₂ (Reply.Image numbers numbers.answer) (twin.serveAll requests)
      (session.serveAll requests) := by
  induction requests generalizing twin session with
  | nil => exact .nil
  | cons request rest hypothesis =>
    have served := image.serve request
    exact .cons served (hypothesis served.session)

/-- Sessions that were just opened correspond. -/
theorem image_openOver {twin kb : KnowledgeBase} (image : twin.Image numbers kb)
    (layered : Layered twin.network.nodes) (bound : Nat) :
    (openOver twin bound).Image numbers (openOver kb bound) :=
  ⟨image, layered, rfl, rfl, Array.map_empty.symm, Array.map_empty.symm⟩

end Session

end RuleNet
