import AsmNotebook.App.Run

namespace AsmNotebook
namespace App

/-!
# Runs that nothing disturbs

A caller who runs a cell while nothing is queued, and nobody queues anything
meanwhile, sees a plain sequence: the run begins, makes at most one call, ends,
and leaves the application at rest.  The lemmas of this module evaluate the
queue and the loop for this case once, so that what is said of such runs needs
neither.
-/

/-- Nothing is queued, no loop is there, and no ticket is on record that is still to be issued. -/
structure AtRest (app : App) : Prop where
  idle : app.queue = .empty
  absent : app.phase = .absent
  issued : ∀ entry ∈ app.outcomes, entry.1 < app.nextTicket

theorem atRest_new (notebook : Notebook) : (App.new notebook).AtRest where
  idle := rfl
  absent := rfl
  issued := fun _ member => absurd member List.not_mem_nil

variable {app : App} {entry : QueueEntry} {cellId source : String} {begun : Notebook}

theorem AtRest.change {α : Type} (rests : app.AtRest) (f : Notebook → Notebook × α) :
    (app.change f).1.AtRest :=
  ⟨rests.idle, rests.absent, rests.issued⟩

theorem AtRest.recordCall (rests : app.AtRest) (call : ServiceCall) :
    (app.recordCall call).1.AtRest :=
  ⟨rests.idle, rests.absent, rests.issued⟩

/-- Other tasks queue no run. -/
def QueuesNothing (actions : List Action) : Prop :=
  ∀ cellId, .enqueue cellId ∉ actions

/-- Other tasks end no runs. -/
theorem attend_outcomes (actions : List Action) (app : App) :
    (app.attend actions).outcomes = app.outcomes := by
  induction actions generalizing app with
  | nil => rfl
  | cons action actions inductionHypothesis =>
    refine (inductionHypothesis _).trans ?_
    cases action with
    | enqueue cellId => exact enqueue_outcomes cellId app
    | edit | processor | announce => rfl

/-- The run of an entry is the only one under way, and the last one queued. -/
structure Underway (entry : QueueEntry) (app : App) : Prop where
  alone : app.queue = ⟨[], some entry.cellId, true⟩
  last : app.nextTicket = entry.ticket + 1
  issued : ∀ other ∈ app.outcomes, other.1 < entry.ticket

/-- A run has ended: the application is at rest, with what the run left of the notebook. -/
structure Ended (entry : QueueEntry) (outcome : RunOutcome) (notebook : Notebook)
    (calls : List ServiceCall) (app : App) : Prop where
  rests : app.AtRest
  told : app.outcome? entry.ticket = some outcome
  notebook : app.notebook = notebook
  calls : app.calls = calls

/-- A ticket beyond those on record has no outcome. -/
theorem outcome?_of_issued {ticket : Nat} (issued : ∀ other ∈ app.outcomes, other.1 < ticket) :
    app.outcome? ticket = none := by
  apply outcome?_eq_none_iff.2
  intro member
  rcases List.mem_map.1 member with ⟨other, onRecord, same⟩
  have before := issued other onRecord
  omega

/-- The outcome that is put on record for a ticket without one is the one that is found. -/
theorem outcome?_settle {ticket : Nat} (outcome : RunOutcome)
    (unknown : app.outcome? ticket = none) :
    (app.settle ticket outcome).outcome? ticket = some outcome := by
  have absent : app.outcomes.find? (fun other => other.1 == ticket) = none :=
    Option.map_eq_none_iff.1 unknown
  simp [outcome?, settle, List.find?_append, absent]

theorem issued_settle {ticket : Nat} (outcome : RunOutcome)
    (issued : ∀ other ∈ app.outcomes, other.1 < ticket) :
    ∀ other ∈ (app.settle ticket outcome).outcomes, other.1 < ticket + 1 := by
  intro other member
  rcases List.mem_append.1 member with old | new
  · exact Nat.lt_succ_of_lt (issued other old)
  · rw [List.mem_singleton.1 new]
    exact Nat.lt_succ_self ticket

/-- The loop goes when nothing waits. -/
theorem advance_of_empty (empty : app.queue = ⟨[], none, true⟩) :
    app.advance = { app.showQueue .empty with phase := .absent } := by
  simp only [advance, advanceFrom, take, ExecutionQueue.dequeue, empty]
  rfl

theorem complete_queue (alone : app.queue = ⟨[], some entry.cellId, true⟩) (dispatch : Dispatch) :
    (app.complete entry dispatch).queue = ⟨[], none, true⟩ := by
  change (app.store entry.cellId dispatch).1.queue.complete entry.cellId = _
  rw [store_queue, alone]
  exact if_pos rfl

theorem Underway.complete (underway : Underway entry app) (dispatch : Dispatch) :
    Ended entry (.completed (app.notebook.executionCount + 1) dispatch.output)
      (app.notebook.complete entry.cellId dispatch.output).1 app.calls
      (app.complete entry dispatch).advance := by
  have stored : (app.store entry.cellId dispatch).1.outcomes = app.outcomes ∧
      (app.store entry.cellId dispatch).1.nextTicket = app.nextTicket ∧
      (app.store entry.cellId dispatch).1.calls = app.calls := by
    unfold store
    cases dispatch.effect <;> exact ⟨rfl, rfl, rfl⟩
  rcases stored with ⟨outcomes, nextTicket, calls⟩
  have issued : ∀ other ∈ ((app.store entry.cellId dispatch).1.release entry.cellId).outcomes,
      other.1 < entry.ticket := outcomes ▸ underway.issued
  rw [advance_of_empty (complete_queue underway.alone dispatch)]
  constructor
  · constructor
    · rfl
    · rfl
    · have last := issued_settle (app.store entry.cellId dispatch).2 issued
      rw [← underway.last, ← nextTicket] at last
      exact last
  · exact outcome?_settle (app.store entry.cellId dispatch).2 (outcome?_of_issued issued)
  · exact store_notebook entry.cellId dispatch app
  · exact calls

theorem Underway.place (underway : Underway entry app) (call : ServiceCall) :
    Underway entry (app.place entry call) :=
  ⟨underway.alone, underway.last, underway.issued⟩

theorem Underway.attend {actions : List Action} (underway : Underway entry app)
    (nothing : QueuesNothing actions) : Underway entry (app.attend actions) := by
  induction actions generalizing app with
  | nil => exact underway
  | cons action actions inductionHypothesis =>
    apply inductionHypothesis
    · cases action with
      | enqueue cellId => exact absurd List.mem_cons_self (nothing cellId)
      | edit | processor | announce => exact ⟨underway.alone, underway.last, underway.issued⟩
    · intro cellId member
      exact nothing cellId (List.mem_cons_of_mem _ member)

/-- The change that recovers a cell whose run died. -/
def recovery : CellUpdate :=
  { CellUpdate.none with isRunning := some false }

theorem Underway.crash (underway : Underway entry app) :
    Ended entry .skipped (app.notebook.edit (.update entry.cellId recovery)).1 app.calls
      (app.crash entry) := by
  have crashed : app.crash entry =
      (({ app.settle entry.ticket .skipped with phase := .absent }.showQueue .empty).recover
        entry.cellId) := by
    simp only [App.crash, abandon, ExecutionQueue.abandon, settle, underway.alone]
    rfl
  rw [crashed]
  constructor
  · constructor
    · rfl
    · rfl
    · have last := issued_settle .skipped underway.issued
      rw [← underway.last] at last
      exact last
  · exact outcome?_settle .skipped (outcome?_of_issued underway.issued)
  · rfl
  · rfl

section Await

variable {α : Type} {there? : App → Option α}

theorem await_of_there {value : α} (there : there? app = some value) (fuel : Nat) :
    await there? fuel app = .done (app, some value) := by
  cases fuel with
  | zero => simp only [await, there]
  | succ fuel => simp only [await, there]

theorem await_of_not_there (absent : there? app = none) (fuel : Nat) :
    await there? (fuel + 1) app = app.turn.bind fun app => await there? fuel app := by
  simp only [await, absent]

/-- A caller who waits for the end of a run whose call is open goes on when the call has been
attended to. -/
theorem await_of_waiting {number : Nat} {call : ServiceCall}
    (waiting : app.phase = .waiting entry number call) (absent : there? app = none) (fuel : Nat) :
    await there? (fuel + 1) app = .ask (.attend ⟨app, number, call⟩) fun attendance =>
      await there? fuel (app.resume entry call attendance) := by
  rw [await_of_not_there absent, turn, waiting]
  rfl

end Await

/-- The application after it took out the only entry and began its run. -/
def started (entry : QueueEntry) (begun : Notebook) (app : App) : App :=
  { app.showQueue ⟨[], some entry.cellId, true⟩ with notebook := begun }.announce
    (.started entry.cellId)

theorem begin_of_started (begins : app.notebook.begin? entry.cellId = some (begun, source)) :
    (app.showQueue ⟨[], some entry.cellId, true⟩).begin entry =
      (app.started entry begun, some source) := by
  have same : (app.showQueue ⟨[], some entry.cellId, true⟩).notebook.begin? entry.cellId =
      some (begun, source) := begins
  simp only [begin, same]
  rfl

section Single

variable (single : app.queue = ⟨[entry], none, true⟩)
include single

theorem take_of_single :
    app.take = (app.showQueue ⟨[], some entry.cellId, true⟩, some entry) := by
  simp only [take, ExecutionQueue.dequeue, single]
  rfl

variable (begins : app.notebook.begin? entry.cellId = some (begun, source))
include begins

theorem advance_of_reply {output : Output} (routed : route source = .done output) :
    app.advance = ((app.started entry begun).complete entry (.plain output)).advance := by
  have left : ((app.started entry begun).complete entry (.plain output)).queue =
      ⟨[], none, true⟩ := complete_queue rfl _
  rw [advance, advanceFrom, take_of_single single]
  simp only [begin_of_started begins, routed, advance, single, left, List.length_cons,
    List.length_nil]

theorem advance_of_call {call : ServiceCall} (routed : route source = .call call) :
    app.advance = (app.started entry begun).place entry call := by
  rw [advance, advanceFrom, take_of_single single]
  simp only [begin_of_started begins, routed]

end Single

/-- The application right after a caller queued the first run. -/
theorem AtRest.enqueue (rests : app.AtRest) (cellId : String) :
    (app.enqueue cellId).1.queue = ⟨[⟨cellId, app.nextTicket⟩], none, true⟩ ∧
      (app.enqueue cellId).1.phase = .ready := by
  rw [enqueue_eq, rests.idle]
  exact ⟨rfl, rfl⟩

theorem AtRest.underway (rests : app.AtRest) (cellId : String) (begun : Notebook) :
    Underway ⟨cellId, app.nextTicket⟩
      ((app.enqueue cellId).1.started ⟨cellId, app.nextTicket⟩ begun) where
  alone := rfl
  last := by
    rw [enqueue_eq]
    rfl
  issued := enqueue_outcomes cellId app ▸ rests.issued

theorem AtRest.outcome?_enqueue (rests : app.AtRest) (cellId : String) :
    (app.enqueue cellId).1.outcome? app.nextTicket = none := by
  apply outcome?_of_issued
  rw [enqueue_outcomes]
  exact rests.issued

/-- A run that cannot begin is skipped. -/
theorem run_of_passed (passed : app.notebook.begin? cellId = none) :
    app.run cellId = .done (app, .skipped) := by
  have unrunnable : app.canRun cellId = false := by
    rw [canRun_eq, passed]
    rfl
  simp only [run, request_of_not_canRun unrunnable]

theorem run_of_begun (rests : app.AtRest)
    (begins : app.notebook.begin? cellId = some (begun, source)) :
    app.run cellId =
      (await (outcome? app.nextTicket) 2 (app.enqueue cellId).1.advance).bind
        fun ended => .done (ended.1, ended.2.getD .skipped) := by
  have runnable : app.canRun cellId = true := by
    rw [canRun_eq, begins]
    rfl
  have turns : (app.enqueue cellId).1.turnsNeeded = 3 := by
    rw [turnsNeeded, (rests.enqueue cellId).1]
    rfl
  simp only [run, request_of_canRun runnable, awaitOutcome, turns]
  rw [await_of_not_there (rests.outcome?_enqueue cellId), turn, (rests.enqueue cellId).2]
  rfl

/-- A run whose text needs no call. -/
theorem run_of_reply (rests : app.AtRest)
    (begins : app.notebook.begin? cellId = some (begun, source)) {output : Output}
    (routed : route source = .done output) :
    ∃ after, app.run cellId = .done (after, .completed (begun.executionCount + 1) output) ∧
      Ended ⟨cellId, app.nextTicket⟩ (.completed (begun.executionCount + 1) output)
        (begun.complete cellId output).1 app.calls after := by
  have ended := (rests.underway cellId begun).complete (.plain output)
  have begins' : (app.enqueue cellId).1.notebook.begin? cellId = some (begun, source) := by
    rw [enqueue_notebook]
    exact begins
  refine ⟨_, ?_, enqueue_calls cellId app ▸ ended⟩
  rw [run_of_begun rests begins, advance_of_reply (rests.enqueue cellId).1 begins' routed,
    await_of_there ended.told]
  rfl

/-- The application while the only run waits for the answer to its call. -/
def calling (cellId : String) (begun : Notebook) (call : ServiceCall) (app : App) : App :=
  ((app.enqueue cellId).1.started ⟨cellId, app.nextTicket⟩ begun).place ⟨cellId, app.nextTicket⟩ call

theorem AtRest.calling_underway (rests : app.AtRest) (cellId : String) (begun : Notebook)
    (call : ServiceCall) : Underway ⟨cellId, app.nextTicket⟩ (app.calling cellId begun call) :=
  (rests.underway cellId begun).place call

theorem AtRest.outcome?_calling (rests : app.AtRest) (cellId : String) (begun : Notebook)
    (call : ServiceCall) : (app.calling cellId begun call).outcome? app.nextTicket = none :=
  rests.outcome?_enqueue cellId

theorem calling_calls (cellId : String) (begun : Notebook) (call : ServiceCall) (app : App) :
    (app.calling cellId begun call).calls = app.calls ++ [call] := by
  rw [← enqueue_calls cellId app]
  rfl

/-- A run whose text needs a call waits for the answer, and then for its end. -/
theorem run_asks (rests : app.AtRest)
    (begins : app.notebook.begin? cellId = some (begun, source)) {call : ServiceCall}
    (routed : route source = .call call) :
    app.run cellId =
      .ask (.attend ⟨app.calling cellId begun call, app.calls.length, call⟩) fun attendance =>
        (await (outcome? app.nextTicket) 1
          ((app.calling cellId begun call).resume ⟨cellId, app.nextTicket⟩ call attendance)).bind
            fun ended => .done (ended.1, ended.2.getD .skipped) := by
  have begins' : (app.enqueue cellId).1.notebook.begin? cellId = some (begun, source) := by
    rw [enqueue_notebook]
    exact begins
  have advanced : (app.enqueue cellId).1.advance = app.calling cellId begun call :=
    advance_of_call (rests.enqueue cellId).1 begins' routed
  rw [run_of_begun rests begins, advanced,
    await_of_waiting rfl (rests.outcome?_calling cellId begun call), ← enqueue_calls cellId app]
  rfl

/-- A run whose text needs a call: nothing happens meanwhile, and it ends with the answer, or dies. -/
theorem run_of_call_undisturbed (rests : app.AtRest)
    (begins : app.notebook.begin? cellId = some (begun, source)) {call : ServiceCall}
    (routed : route source = .call call) :
    ∃ waiting number next, app.run cellId = .ask (.attend ⟨waiting, number, call⟩) next ∧
      (∀ answer, ∃ after,
        next (.undisturbed (some answer)) =
            .done (after, .completed (begun.executionCount + 1) (conclude call answer).output) ∧
          Ended ⟨cellId, app.nextTicket⟩
            (.completed (begun.executionCount + 1) (conclude call answer).output)
            (begun.complete cellId (conclude call answer).output).1 (app.calls ++ [call]) after) ∧
      ∃ after, next (.undisturbed none) = .done (after, .skipped) ∧
        Ended ⟨cellId, app.nextTicket⟩ .skipped (begun.edit (.update cellId recovery)).1
          (app.calls ++ [call]) after := by
  have underway := rests.calling_underway cellId begun call
  rw [run_asks rests begins routed, ← calling_calls cellId begun]
  refine ⟨_, _, _, rfl, ?_, ?_⟩
  · intro answer
    have ended := underway.complete (conclude call answer)
    refine ⟨_, ?_, ended⟩
    exact congrArg (Dialogue.bind · _) (await_of_there ended.told 1)
  · have ended := underway.crash
    refine ⟨_, ?_, ended⟩
    exact congrArg (Dialogue.bind · _) (await_of_there ended.told 1)

/-- To explain a failure while nothing else happens is to ask, and to attach what is answered. -/
theorem explain_of_failed {code : String} {failure : Failure}
    (failed : app.failed? cellId = some (code, failure)) :
    ∃ next, app.explain cellId =
        .ask (.attend ⟨(app.recordCall (.ask (explanationPrompt code failure))).1,
          app.calls.length, .ask (explanationPrompt code failure)⟩) next ∧
      (∀ text, next (.undisturbed (some (.ok text))) =
        .done (((app.recordCall (.ask (explanationPrompt code failure))).1.edit
          (.attach cellId text)).1, .ok text)) ∧
      (∀ fault, next (.undisturbed (some (.error fault))) =
        .done ((app.recordCall (.ask (explanationPrompt code failure))).1,
          .error (.assistant fault))) ∧
      next (.undisturbed none) =
        .done ((app.recordCall (.ask (explanationPrompt code failure))).1, .error .died) := by
  simp only [explain, failed]
  exact ⟨_, rfl, fun _ => rfl, fun _ => rfl, rfl⟩

end App
end AsmNotebook
