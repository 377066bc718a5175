import AsmNotebook.Proofs.AtRest
import AsmNotebook.Proofs.Interleaving.Calls
import AsmNotebook.Proofs.Interleaving.Together

namespace AsmNotebook

namespace Dialogue

variable {Question : Type} {Reply : Question → Type} {α σ : Type}

/-- What is asked while a dialogue is followed, each question with its reply. -/
def trail (world : σ → (question : Question) → σ × Reply question) :
    σ → Dialogue Question Reply α → List (Sigma Reply)
  | _, done _ => []
  | state, ask question next =>
    ⟨question, (world state question).2⟩ ::
      trail world (world state question).1 (next (world state question).2)

end Dialogue

/-- The call that a query asks to attend to. -/
def Query.call? : Query → Option ServiceCall
  | attend waiting => some waiting.call
  | errand _ => none

/-- A call was not answered. -/
def Died : Sigma Query.Reply → Prop
  | ⟨.attend _, attendance⟩ => attendance.answer = none
  | ⟨.errand _, _⟩ => False

namespace Interleaving

/-!
# Running all cells while others interfere

Runs of all cells are asked for one by one, in the order that the cells had at
the beginning.  While one of them waits for its answer, other tasks may change
the notebook as they like, so what a later run finds is the work of all runs
before it and of everything that happened meanwhile.

The application is at rest whenever it is the turn of a cell, whether the last
run ended with an answer, died, or did not begin.  `Turn` says what comes of a
run that begins at rest, and `RanAll` puts these turns in a row.
-/

/-- How a run ends whose call has been attended to. -/
def endOf {call : ServiceCall} (attendance : App.Attendance call) (app : App) : RunOutcome :=
  match attendance.answer with
  | none => .skipped
  | some answer =>
    .completed ((app.attend attendance.meanwhile).notebook.executionCount + 1)
      (conclude call answer).output

variable {app : App} {entry : QueueEntry} {ticket : Nat} {outcome : RunOutcome}

theorem endOf_completed_iff {call : ServiceCall} {attendance : App.Attendance call} :
    (∃ count output, endOf attendance app = .completed count output) ↔
      ¬ attendance.answer = none := by
  unfold endOf
  cases attendance.answer <;> simp

theorem outcome?_cancel (known : app.outcome? ticket = some outcome) (entries : List QueueEntry) :
    (app.cancel entries).outcome? ticket = some outcome := by
  induction entries generalizing app with
  | nil => exact known
  | cons entry entries inductionHypothesis =>
    apply inductionHypothesis
    rcases Option.map_eq_some_iff.1 known with ⟨found, first, rfl⟩
    simp [App.outcome?, App.settle, List.find?_append, first]

/-- A run whose call died is skipped. -/
theorem outcome?_crash (unknown : app.outcome? entry.ticket = none) :
    (app.crash entry).outcome? entry.ticket = some .skipped := by
  have settled := App.outcome?_settle .skipped unknown
  unfold App.crash
  split
  · next idle cellId others found =>
    rcases App.abandon_eq found with ⟨rfl, _⟩
    apply outcome?_cancel
    exact settled
  · next idle others found =>
    rcases App.abandon_eq found with ⟨rfl, _⟩
    apply outcome?_cancel
    exact settled

/-- A run whose call was answered is completed, whatever the loop does next. -/
theorem outcome?_complete (unknown : app.outcome? entry.ticket = none) (dispatch : Dispatch) :
    (app.complete entry dispatch).advance.outcome? entry.ticket =
      some (.completed (app.notebook.executionCount + 1) dispatch.output) := by
  have stored : (app.store entry.cellId dispatch).1.outcomes = app.outcomes := by
    unfold App.store
    cases dispatch.effect <;> rfl
  have unknown' : ((app.store entry.cellId dispatch).1.release entry.cellId).outcome?
      entry.ticket = none := by
    rw [App.outcome?_eq_none_iff] at unknown ⊢
    change entry.ticket ∉ (app.store entry.cellId dispatch).1.outcomes.map Prod.fst
    rwa [stored]
  have settled := App.outcome?_settle (app.store entry.cellId dispatch).2 unknown'
  rcases advance_run (app.complete entry dispatch) rfl with ⟨⟨_, _, run⟩, _⟩
  exact run.outcome?_some settled

theorem outcome?_resume (unknown : app.outcome? entry.ticket = none) {call : ServiceCall}
    (attendance : App.Attendance call) :
    (app.resume entry call attendance).outcome? entry.ticket = some (endOf attendance app) := by
  have unknown' : (app.attend attendance.meanwhile).outcome? entry.ticket = none := by
    rw [App.outcome?_eq_none_iff] at unknown ⊢
    rwa [App.attend_outcomes]
  unfold App.resume endOf
  cases attendance.answer with
  | none => exact outcome?_crash unknown'
  | some answer => exact outcome?_complete unknown' (conclude call answer)

variable {cellId source : String} {begun : Notebook} {call : ServiceCall}

/-- A run that begins at rest and needs a call ends when the call has been attended to. -/
theorem run_ends_with_call (rests : app.AtRest)
    (begins : app.notebook.begin? cellId = some (begun, source))
    (routed : route source = .call call) :
    app.run cellId =
      .ask (.attend ⟨app.calling cellId begun call, app.calls.length, call⟩) fun attendance =>
        .done ((app.calling cellId begun call).resume ⟨cellId, app.nextTicket⟩ call attendance,
          endOf attendance (app.calling cellId begun call)) := by
  rw [App.run_asks rests begins routed]
  apply congrArg (Dialogue.ask _)
  funext attendance
  have unknown : (app.calling cellId begun call).outcome?
      (QueueEntry.mk cellId app.nextTicket).ticket = none :=
    rests.outcome?_calling cellId begun call
  have told := outcome?_resume unknown attendance
  exact congrArg (Dialogue.bind · _) (App.await_of_there told 1)

/-- The application is at rest again if nothing was queued meanwhile. -/
theorem resume_rests (underway : App.Underway entry app) {attendance : App.Attendance call}
    (nothing : App.QueuesNothing attendance.meanwhile) :
    (app.resume entry call attendance).AtRest := by
  have attended := underway.attend nothing
  unfold App.resume
  cases attendance.answer with
  | none => exact attended.crash.rests
  | some answer => exact (attended.complete (conclude call answer)).rests

section World

variable {σ : Type} {world : σ → (query : Query) → σ × query.Reply} {state : σ}

/-- What comes of the run of a cell that begins at rest. -/
structure Turn (world : σ → (query : Query) → σ × query.Reply) (state : σ) (app : App)
    (cellId : String) : Prop where
  /-- It is completed exactly if there is something to run and no service dies. -/
  completed :
    (∃ count output,
        (Dialogue.run world state (app.run cellId)).2.2 = .completed count output) ↔
      (∃ cell, app.notebook.find? cellId = some cell ∧ cell.isBlank = false) ∧
        ∀ exchange ∈ Dialogue.trail world state (app.run cellId), ¬ Died exchange
  /-- If there is something to run, its text is dispatched. -/
  attempted : ∀ cell, app.notebook.find? cellId = some cell → cell.isBlank = false →
    (Dialogue.trail world state (app.run cellId)).filterMap (fun exchange => exchange.1.call?) =
      (route cell.content).call?.toList
  /-- If not, nothing happens. -/
  passed : (∀ cell, app.notebook.find? cellId = some cell → cell.isBlank = true) →
    Dialogue.run world state (app.run cellId) = (state, app, .skipped)

theorem turn_of_passed (passes : app.notebook.begin? cellId = none) :
    Turn world state app cellId := by
  have ran := App.run_of_passed passes
  have blank := Notebook.begin?_eq_none_iff.1 passes
  have unreadable : ∀ cell, app.notebook.find? cellId = some cell → cell.isBlank ≠ false := by
    intro cell found readable
    cases (blank cell found).symm.trans readable
  refine { completed := ?_, attempted := ?_, passed := ?_ }
  · rw [ran]
    constructor
    · rintro ⟨_, _, completed⟩
      cases completed
    · rintro ⟨⟨cell, found, readable⟩, _⟩
      exact absurd readable (unreadable cell found)
  · intro cell found readable
    exact absurd readable (unreadable cell found)
  · intro _
    rw [ran]
    rfl

section Begun

variable (begins : app.notebook.begin? cellId = some (begun, source))
include begins

/-- A run that begins has something to run, so it is completed unless a service dies. -/
theorem turn_of_begun
    (answered : (∃ count output,
        (Dialogue.run world state (app.run cellId)).2.2 = .completed count output) ↔
      ∀ exchange ∈ Dialogue.trail world state (app.run cellId), ¬ Died exchange)
    (called : (Dialogue.trail world state (app.run cellId)).filterMap
      (fun exchange => exchange.1.call?) = (route source).call?.toList) :
    Turn world state app cellId := by
  rcases Notebook.begin?_eq_some begins with ⟨cell, found, readable, rfl, _⟩
  refine { completed := ?_, attempted := ?_, passed := ?_ }
  · rw [answered, and_iff_right ⟨cell, found, readable⟩]
  · intro cell' found' _
    cases found.symm.trans found'
    exact called
  · intro blank
    cases readable.symm.trans (blank cell found)

theorem turn_of_reply (rests : app.AtRest) {output : Output} (routed : route source = .done output) :
    Turn world state app cellId := by
  rcases App.run_of_reply rests begins routed with ⟨after, ran, _⟩
  apply turn_of_begun begins
  · rw [ran]
    refine iff_of_true ⟨_, _, rfl⟩ ?_
    intro exchange member
    cases member
  · rw [ran, routed]
    rfl

theorem turn_of_call (rests : app.AtRest) (routed : route source = .call call) :
    Turn world state app cellId := by
  have ran := run_ends_with_call rests begins routed
  apply turn_of_begun begins
  · rw [ran]
    refine endOf_completed_iff.trans ?_
    constructor
    · intro answered exchange member
      cases List.mem_singleton.1 member
      exact answered
    · intro answered
      exact answered _ (List.mem_singleton_self _)
  · rw [ran, routed]
    rfl

end Begun

/-- A run that begins at rest takes its turn. -/
theorem turn_of_rests (rests : app.AtRest) (cellId : String) : Turn world state app cellId := by
  cases begins : app.notebook.begin? cellId with
  | none => exact turn_of_passed begins
  | some begins' =>
    rcases begins' with ⟨begun, source⟩
    cases routed : route source with
    | done output => exact turn_of_reply begins rests routed
    | call call => exact turn_of_call begins rests routed

/-- While a call waits, nobody queues a run. -/
def NoOtherRuns (world : σ → (query : Query) → σ × query.Reply) : Prop :=
  ∀ state waiting, App.QueuesNothing (world state (.attend waiting)).2.meanwhile

/-- A run that begins at rest ends at rest. -/
theorem run_rests (rests : app.AtRest) (alone : NoOtherRuns world) (cellId : String) :
    (Dialogue.run world state (app.run cellId)).2.1.AtRest := by
  cases begins : app.notebook.begin? cellId with
  | none =>
    rw [App.run_of_passed begins]
    exact rests
  | some begins' =>
    rcases begins' with ⟨begun, source⟩
    cases routed : route source with
    | done output =>
      rcases App.run_of_reply rests begins routed with ⟨after, ran, ended⟩
      rw [ran]
      exact ended.rests
    | call call =>
      rw [run_ends_with_call rests begins routed]
      exact resume_rests (rests.calling_underway cellId begun call) (alone _ _)

/-- Cells are run one by one, each in the state that the runs before it led to. -/
theorem run_runEach_cons (cellId : String) (rest : List String) (app : App) :
    Dialogue.run world state (app.runEach (cellId :: rest)) =
      let first := Dialogue.run world state (app.run cellId)
      let others := Dialogue.run world first.1 (first.2.1.runEach rest)
      (others.1, others.2.1, (cellId, first.2.2) :: others.2.2) := by
  simp only [App.runEach, Dialogue.run_bind]
  rfl

/-- The state of the world and the application when it is the turn of a position. -/
def atTurn (world : σ → (query : Query) → σ × query.Reply) (state : σ) (app : App)
    (cellIds : List String) (position : Nat) : σ × App :=
  let before := Dialogue.run world state (app.runEach (cellIds.take position))
  (before.1, before.2.1)

theorem atTurn_succ (cellId : String) (rest : List String) (position : Nat) :
    let first := Dialogue.run world state (app.run cellId)
    atTurn world state app (cellId :: rest) (position + 1) =
      atTurn world first.1 first.2.1 rest position := by
  unfold atTurn
  rw [List.take_succ_cons, run_runEach_cons]

theorem atTurn_rests (rests : app.AtRest) (alone : NoOtherRuns world) (cellIds : List String)
    (position : Nat) : (atTurn world state app cellIds position).2.AtRest := by
  induction cellIds generalizing state app position with
  | nil =>
    rw [atTurn, List.take_nil]
    exact rests
  | cons cellId rest inductionHypothesis =>
    cases position with
    | zero => exact rests
    | succ position =>
      rw [atTurn_succ]
      exact inductionHypothesis (run_rests rests alone cellId) position

/-- The outcomes of runs one by one are those of their turns. -/
theorem runEach_outcome {cellIds : List String} {position : Nat}
    (here : cellIds[position]? = some cellId) :
    let turn := atTurn world state app cellIds position
    (Dialogue.run world state (app.runEach cellIds)).2.2[position]? =
      some (cellId, (Dialogue.run world turn.1 (turn.2.run cellId)).2.2) := by
  induction cellIds generalizing state app position with
  | nil => cases here
  | cons first rest inductionHypothesis =>
    rw [run_runEach_cons]
    cases position with
    | zero =>
      cases here
      rfl
    | succ position =>
      rw [atTurn_succ]
      exact inductionHypothesis here

theorem runEach_cells (cellIds : List String) :
    (Dialogue.run world state (app.runEach cellIds)).2.2.map Prod.fst = cellIds := by
  induction cellIds generalizing state app with
  | nil => rfl
  | cons cellId rest inductionHypothesis =>
    rw [run_runEach_cons]
    exact congrArg (cellId :: ·) inductionHypothesis

/-- A queue that is idle leaves the application at rest. -/
theorem atRest_of_idle {notebook : Notebook} {trace : List Label}
    (reached : Run (.new notebook) trace (.solo app)) (idle : app.queue.draining = false) :
    app.AtRest := by
  have owned := (owned_new notebook).run reached
  have absent : app.phase = .absent := by
    by_contra present
    cases idle.symm.trans (owned.present present)
  refine { idle := owned.absent absent, absent := absent, issued := ?_ }
  intro settled onRecord
  have ticket : settled.1 ∈ Crew.tickets (.solo app) :=
    List.mem_append_right _ (List.mem_map_of_mem onRecord)
  exact List.mem_range.1 (reached.ticketed.mem_iff.1 ticket)

/-- What comes of running all cells, position by position. -/
structure RanAll (world : σ → (query : Query) → σ × query.Reply) (state : σ) (app : App) : Prop where
  /-- There is one outcome for each cell that could be run at the beginning, in document order. -/
  cells : (Dialogue.run world state app.runAll).2.2.map Prod.fst = runnableCells app.notebook
  /-- The queue is idle and empty before every run, and after the last one. -/
  idle : ∀ position,
    (atTurn world state app (runnableCells app.notebook) position).2.queue = .empty
  /-- An outcome is the one of the run that its cell has when it is its turn. -/
  outcome : ∀ {position cellId}, (runnableCells app.notebook)[position]? = some cellId →
    let turn := atTurn world state app (runnableCells app.notebook) position
    (Dialogue.run world state app.runAll).2.2[position]? =
      some (cellId, (Dialogue.run world turn.1 (turn.2.run cellId)).2.2)
  /-- Every cell has its turn, whatever came of the others. -/
  turn : ∀ {position cellId}, (runnableCells app.notebook)[position]? = some cellId →
    let turn := atTurn world state app (runnableCells app.notebook) position
    Turn world turn.1 turn.2 cellId

/-- Every cell that could be run is attempted in its turn, whatever others do to the notebook
meanwhile and whatever becomes of the calls. -/
theorem all_attempted {notebook : Notebook} {trace : List Label}
    (reached : Run (.new notebook) trace (.solo app)) (idle : app.queue.draining = false)
    (alone : NoOtherRuns world) : RanAll world state app := by
  have rests := atRest_of_idle reached idle
  have turns : ∀ position,
      (atTurn world state app (runnableCells app.notebook) position).2.AtRest :=
    atTurn_rests rests alone _
  exact
    { cells := runEach_cells _
      idle := fun position => (turns position).idle
      outcome := fun here => runEach_outcome here
      turn := fun _ => turn_of_rests (turns _) _ }

end World

/-- A world in which a cell is deleted during the first call, which dies, and code that comes later is
answered with a failure. -/
def troubledWorld (cellId : String) (errands : (errand : Errand) → errand.Reply) :
    Nat → (query : Query) → Nat × query.Reply
  | asked, .attend ⟨_, _, .execute _⟩ =>
    (asked + 1,
      if asked = 0 then { meanwhile := [.edit (.delete cellId)], answer := none }
      else .undisturbed (some ⟨.fail .domain none "" none, none⟩))
  | asked, .attend _ => (asked + 1, .undisturbed none)
  | asked, .errand errand => (asked, errands errand)

theorem troubledWorld_noOtherRuns (cellId : String) (errands : (errand : Errand) → errand.Reply) :
    NoOtherRuns (troubledWorld cellId errands) := by
  intro asked waiting other member
  rcases waiting with ⟨_, _, call⟩
  cases call with
  | execute =>
    by_cases first : asked = 0
    · simp [troubledWorld, first] at member
    · simp [troubledWorld, first, App.Attendance.undisturbed] at member
  | assemble | reset | docs | timing | ask => cases member

/-- Four cells, the third one blank. -/
def fourCells : App :=
  .new ⟨[.new "a" .code "1", .new "b" .code "2", .new "c" .code "", .new "d" .code "4"], 0, 0⟩

/-- The first of four cells dies with its call, the second one is deleted meanwhile, the third one is
blank, and the fourth one fails. -/
theorem all_attempted_in_trouble :
    fourCells.queue.draining = false ∧
      ∀ errands : (errand : Errand) → errand.Reply,
        NoOtherRuns (troubledWorld "b" errands) ∧
          RanAll (troubledWorld "b" errands) 0 fourCells ∧
          (Dialogue.run (troubledWorld "b" errands) 0 fourCells.runAll).2.2 =
            [("a", .skipped), ("b", .skipped), ("d", .completed 1 (.fail .domain none "" none))] := by
  refine ⟨rfl, fun errands => ?_⟩
  have alone := troubledWorld_noOtherRuns "b" errands
  exact ⟨alone, all_attempted .nil rfl alone, rfl⟩

end Interleaving
end AsmNotebook
