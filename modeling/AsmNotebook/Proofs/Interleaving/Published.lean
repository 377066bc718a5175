import AsmNotebook.Proofs.Interleaving.News
import AsmNotebook.Proofs.Interleaving.Suspension

namespace AsmNotebook

/-!
# What is announced of the queue and of runs

Who listens sees the queue through announcements only.  The end of a run
changes the queue and announces nothing, so between that step and the next
one that takes out a run the last announcement is out of date.  The task that
is to make it up stands at a stage that does not wait: `Stage.lags` names
these stages, and no other task changes the queue unannounced.

The announcements of runs are read in the order in which runs end.  A run is
announced twice in a row, once where its call died, and the run that is still
with the router has been announced once.
-/

namespace ExecutionQueue

/-- What a state that is shown says of the queue. -/
structure Shows (queue : ExecutionQueue) (state : QueueState) : Prop where
  /-- The run under way comes first, and then those that wait, in their order. -/
  order : state.cells.map QueuedCell.cellId =
    queue.executing.toList ++ queue.pending.map QueueEntry.cellId
  positions : state.cells.map QueuedCell.position = List.range state.cells.length
  /-- Only the first cell can be executing, and then it is named. -/
  first : ∀ index cell, state.cells[index]? = some cell → cell.isExecuting = true →
    index = 0 ∧ state.executing = some cell.cellId
  /-- A cell that is named comes first and is executing. -/
  named : ∀ cellId, state.executing = some cellId → state.cells.head? = some ⟨cellId, true, 0⟩
  processing : state.cells ≠ [] → state.processing = true

variable (position : Nat) (entries : List QueueEntry)

theorem cellIds_shown :
    (shown position entries).map QueuedCell.cellId = entries.map QueueEntry.cellId := by
  induction entries generalizing position with
  | nil => rfl
  | cons entry rest inductionHypothesis =>
    exact congrArg (entry.cellId :: ·) (inductionHypothesis (position + 1))

theorem length_shown : (shown position entries).length = entries.length := by
  rw [← List.length_map QueuedCell.cellId, cellIds_shown, List.length_map]

theorem positions_shown :
    (shown position entries).map QueuedCell.position = List.range' position entries.length := by
  induction entries generalizing position with
  | nil => rfl
  | cons entry rest inductionHypothesis =>
    exact congrArg (position :: ·) (inductionHypothesis (position + 1))

theorem waiting_shown : ∀ cell ∈ shown position entries, cell.isExecuting = false := by
  induction entries generalizing position with
  | nil => exact fun _ member => absurd member List.not_mem_nil
  | cons entry rest inductionHypothesis =>
    rw [shown, List.forall_mem_cons]
    exact ⟨rfl, inductionHypothesis (position + 1)⟩

variable {queue : ExecutionQueue}

/-- A queue that a loop owns as long as there is something in it shows what it is. -/
theorem shows_state
    (owned : queue.draining = false → queue.executing = none ∧ queue.pending = []) :
    queue.Shows queue.state := by
  have processing : queue.state.cells ≠ [] → queue.state.processing = true := by
    intro some_cell
    cases draining : queue.draining with
    | true => exact draining
    | false =>
      rcases owned draining with ⟨none, empty⟩
      exact absurd (by simp [state, none, empty, shown]) some_cell
  cases executing : queue.executing with
  | none =>
    have cells : queue.state.cells = shown 0 queue.pending := by simp [state, executing]
    refine { order := ?_, positions := ?_, first := ?_, named := ?_, processing := processing }
    · rw [cells, cellIds_shown, executing]
      rfl
    · rw [cells, positions_shown, length_shown, List.range_eq_range']
    · intro index cell there running
      rw [cells] at there
      have waits := waiting_shown 0 queue.pending cell (List.mem_of_getElem? there)
      cases waits.symm.trans running
    · intro cellId named
      cases executing.symm.trans named
  | some id =>
    have cells : queue.state.cells = ⟨id, true, 0⟩ :: shown 1 queue.pending := by
      simp [state, executing]
    refine { order := ?_, positions := ?_, first := ?_, named := ?_, processing := processing }
    · rw [cells, List.map_cons, cellIds_shown, executing]
      rfl
    · rw [cells, List.map_cons, positions_shown, List.length_cons, length_shown,
        List.range_eq_range']
      rfl
    · intro index cell there running
      rw [cells] at there
      cases index with
      | zero =>
        cases there
        exact ⟨rfl, executing⟩
      | succ index =>
        have waits := waiting_shown 1 queue.pending cell (List.mem_of_getElem? there)
        cases waits.symm.trans running
    · intro cellId named
      cases executing.symm.trans named
      rw [cells]
      rfl

end ExecutionQueue

namespace Event

/-- The state of the queue that is announced. -/
def state? : Event → Option QueueState
  | queueChanged state => some state
  | _ => none

/-- Whether a run is announced. -/
def ofRun : Event → Bool
  | started _ => true
  | completed _ _ _ => true
  | _ => false

end Event

/-- The state of the queue that was announced last.  Before any announcement it is that of an empty
queue. -/
def lastShown (events : List Event) : QueueState :=
  (events.filterMap Event.state?).getLast?.getD ExecutionQueue.empty.state

namespace Interleaving

variable {start crew crew' last : Crew} {label : Label} {trace : List Label}
variable {app app' : App} {stage : Stage} {next : Option Stage} {notebook : Notebook}

theorem Owned.shows (owned : Owned crew) : crew.app.queue.Shows crew.app.queue.state := by
  apply ExecutionQueue.shows_state
  intro idle
  cases owned with
  | idle _ empty =>
    rw [empty]
    exact ⟨rfl, rfl⟩
  | busy _ _ draining _ => cases idle.symm.trans draining

/-! ## The last state announced -/

namespace Label

/-- Whether a step announces the queue. -/
def shows : Label → Bool
  | enqueue _ => true
  | leave => true
  | dequeue _ => true
  | abandon _ _ => true
  | _ => false

theorem news_of_shows (shows : label.shows = true) (state : QueueState) :
    label.news state = [.queueChanged state] := by
  cases label with
  | enqueue | leave | dequeue | abandon => rfl
  | _ => cases shows

theorem news_of_not_shows (silent : label.shows = false) (state : QueueState) :
    (label.news state).filterMap Event.state? = [] := by
  cases label with
  | enqueue | leave | dequeue | abandon => cases silent
  | store entry dispatch outcome =>
    cases outcome with
    | skipped => rfl
    | completed count output => cases dispatch with | mk _ effect => cases effect <;> rfl
  | _ => rfl

end Label

/-- Whether the task is still to announce what it did to the queue. -/
def Stage.lags : Stage → Bool
  | ready => true
  | released _ _ => true
  | _ => false

/-- The queue is as it was announced last, unless a task is still to announce what it did. -/
def Current (crew : Crew) : Prop :=
  (∀ stage ∈ crew.tasks, stage.lags = false) →
    lastShown crew.app.events = crew.app.queue.state

/-- A task that says nothing of the queue and does not lag behind afterwards left the queue alone, and
did not lag before. -/
theorem Advance.queue_of_silence (advance : Advance app stage label app' next)
    (silent : label.shows = false) (caughtUp : ∀ stage', next = some stage' → stage'.lags = false) :
    app'.queue = app.queue ∧ stage.lags = false := by
  cases advance with
  | spawn | release | finish => cases caughtUp _ rfl
  | leave | dequeue | abandon | abandonIdle => cases silent
  | pass found =>
    rcases App.begin_none found with ⟨rfl, _⟩
    exact ⟨rfl, rfl⟩
  | begin found =>
    rcases App.begin_some found with ⟨_, _, rfl⟩
    exact ⟨rfl, rfl⟩
  | store => exact ⟨App.store_queue _ _ _, rfl⟩
  | reply | call | answer | crash | drop | recover | cancel | vanish => exact ⟨rfl, rfl⟩

theorem Current.step (current : Current crew) (step : Step crew label crew') : Current crew' := by
  intro caughtUp
  have events := step.events
  cases shows : label.shows with
  | true =>
    rw [Label.news_of_shows shows] at events
    simp [lastShown, events, Event.state?]
  | false =>
    have same : lastShown crew'.app.events = lastShown crew.app.events := by
      rw [lastShown, events, List.filterMap_append, Label.news_of_not_shows shows, List.append_nil]
      rfl
    rw [same]
    cases step with
    | enqueue => cases shows
    | task before after advance =>
      rcases advance.queue_of_silence shows (by
        rintro stage' rfl
        exact caughtUp stage' (by simp)) with ⟨queue, caughtUp'⟩
      rw [queue]
      apply current
      intro stage member
      rcases List.mem_append.1 member with front | hereOrBack
      · exact caughtUp stage (by simp [front])
      · rcases List.mem_cons.1 hereOrBack with rfl | back
        · exact caughtUp'
        · exact caughtUp stage (by simp [back])
    | edit | processor | announce | consult => exact current caughtUp

theorem Run.current (run : Run (.new notebook) trace crew) : Current crew :=
  run.invariant (fun _ => rfl) fun step current => current.step step

/-! ## Every state announced -/

theorem Label.eq_of_mem_news {state shown : QueueState}
    (announced : .queueChanged state ∈ label.news shown) : state = shown := by
  cases shows : label.shows with
  | true =>
    rw [Label.news_of_shows shows] at announced
    cases List.mem_singleton.1 announced
    rfl
  | false =>
    have among : state ∈ (label.news shown).filterMap Event.state? :=
      List.mem_filterMap.2 ⟨_, announced, rfl⟩
    rw [Label.news_of_not_shows shows] at among
    cases among

/-- A state that was announced is the one that the queue had at that time. -/
theorem OneThread.announced {state : QueueState} (thread : OneThread crew trace last)
    (announced : .queueChanged state ∈ last.app.events) :
    .queueChanged state ∈ crew.app.events ∨
      ∃ before after middle, trace = before ++ after ∧ OneThread crew before middle ∧
        OneThread middle after last ∧ state = middle.app.queue.state := by
  induction thread with
  | nil => exact Or.inl announced
  | @cons crew next last label trace step yields rest inductionHypothesis =>
    rcases inductionHypothesis announced with earlier | ⟨before, after, middle, rfl, upTo, on, same⟩
    · rw [step.events] at earlier
      rcases List.mem_append.1 earlier with old | new
      · exact Or.inl old
      · refine Or.inr ⟨[label], trace, next, rfl, .cons step yields .nil, rest, ?_⟩
        exact Label.eq_of_mem_news new
    · exact Or.inr ⟨label :: before, after, middle, rfl, .cons step yields upTo, on, same⟩

/-! ## Runs announced -/

/-- A run that left the router: it was completed with a count and an output, or its call died. -/
structure Execution where
  entry : QueueEntry
  completed : Option (UInt32 × Output)

/-- What is announced of a run. -/
def Execution.announced (execution : Execution) : List Event :=
  .started execution.entry.cellId ::
    (execution.completed.map fun (count, output) =>
      Event.completed execution.entry.cellId count output).toList

/-- The run that leaves the router with a step. -/
def Label.execution? : Label → Option Execution
  | store entry _ (.completed count output) => some ⟨entry, some (count, output)⟩
  | crash entry => some ⟨entry, none⟩
  | _ => none

/-- Runs that left the router, in the order in which they did. -/
def executions (trace : List Label) : List Execution :=
  trace.filterMap Label.execution?

/-- The run that a task has announced as started, and that has not left the router. -/
def Stage.underWay? : Stage → Option QueueEntry
  | begun entry _ => some entry
  | waiting entry _ _ => some entry
  | dispatched entry _ => some entry
  | _ => none

/-- Runs that have been announced as started, and have not left the router. -/
def Crew.underWay (crew : Crew) : List QueueEntry :=
  crew.tasks.filterMap Stage.underWay?

/-- Runs are announced one after another.  Those that left the router are announced as they ended, and
those under way as started. -/
def Paired (crew : Crew) (trace : List Label) : Prop :=
  crew.app.events.filter Event.ofRun =
    (executions trace).flatMap Execution.announced ++
      crew.underWay.map fun entry => .started entry.cellId

/-- What a task announces of runs is what its own run has come to. -/
theorem Advance.announced (advance : Advance app stage label app' next) (state : QueueState) :
    (stage.underWay?.toList.map fun entry => Event.started entry.cellId) ++
        (label.news state).filter Event.ofRun =
      label.execution?.toList.flatMap Execution.announced ++
        ((next.bind Stage.underWay?).toList.map fun entry => Event.started entry.cellId) := by
  cases advance with
  | @store entry dispatch =>
    rw [App.store_outcome]
    cases dispatch with
    | mk output effect => cases effect <;> rfl
  | _ => rfl

theorem Stage.live_of_underWay {entry : QueueEntry} (underWay : stage.underWay? = some entry) :
    stage.live = true := by
  cases stage with
  | begun | waiting | dispatched => rfl
  | _ => cases underWay

/-- Tasks that gave the queue up have no run under way. -/
theorem underWay_of_dead {tasks : List Stage} (dead : tasks.filter Stage.live = []) :
    tasks.filterMap Stage.underWay? = [] := by
  apply List.filterMap_eq_nil_iff.2
  intro stage member
  cases underWay : stage.underWay? with
  | none => rfl
  | some entry =>
    exact absurd (Stage.live_of_underWay underWay) (List.filter_eq_nil_iff.1 dead stage member)

theorem underWay_eq (before after : List Stage) (next : Option Stage) :
    Crew.underWay ⟨app, before ++ next.toList ++ after⟩ =
      before.filterMap Stage.underWay? ++ (next.bind Stage.underWay?).toList ++
        after.filterMap Stage.underWay? := by
  rw [Crew.underWay, List.filterMap_append, List.filterMap_append]
  cases next with
  | none => rfl
  | some stage =>
    cases underWay : stage.underWay? <;> simp [underWay]

theorem executions_snoc (trace : List Label) (label : Label) :
    executions (trace ++ [label]) = executions trace ++ label.execution?.toList := by
  rw [executions, List.filterMap_append]
  cases execution : label.execution? <;> simp [execution, executions]

/-- A step that announces nothing of runs, and with which no run begins or leaves the router. -/
theorem Paired.of_silent (paired : Paired crew trace) {state : QueueState}
    (events : crew'.app.events = crew.app.events ++ label.news state)
    (silent : (label.news state).filter Event.ofRun = []) (none : label.execution? = none)
    (same : crew'.underWay = crew.underWay) : Paired crew' (trace ++ [label]) := by
  unfold Paired at paired ⊢
  rw [events, List.filter_append, silent, List.append_nil, executions_snoc, none, same, paired,
    Option.toList_none, List.append_nil]

/-- A task that gave the queue up has no run under way and announces nothing of runs. -/
theorem Advance.silent_of_dead (advance : Advance app stage label app' next)
    (dead : stage.live = false) (state : QueueState) :
    (label.news state).filter Event.ofRun = [] ∧ label.execution? = none ∧
      stage.underWay? = none ∧ next.bind Stage.underWay? = none := by
  cases advance with
  | recover | cancel | vanish => exact ⟨rfl, rfl, rfl, rfl⟩
  | _ => cases dead

theorem Paired.task {before after : List Stage}
    (paired : Paired ⟨app, before ++ stage :: after⟩ trace)
    (owned : Owned ⟨app, before ++ stage :: after⟩) (advance : Advance app stage label app' next) :
    Paired ⟨app', before ++ next.toList ++ after⟩ (trace ++ [label]) := by
  have whole : before ++ stage :: after = before ++ (some stage).toList ++ after := by simp
  cases live : stage.live with
  | true =>
    -- The other tasks gave the queue up, and have no run under way.
    rcases owned.alone live with ⟨front, back, _⟩
    unfold Paired at paired ⊢
    rw [whole, underWay_eq, underWay_of_dead front, underWay_of_dead back] at paired
    rw [advance.events, List.filter_append, paired, executions_snoc, List.flatMap_append,
      underWay_eq, underWay_of_dead front, underWay_of_dead back]
    simp only [List.nil_append, List.append_nil, List.append_assoc]
    exact congrArg (_ ++ ·) (advance.announced app'.queue.state)
  | false =>
    rcases advance.silent_of_dead live app'.queue.state with ⟨silent, none, here, there⟩
    apply paired.of_silent advance.events silent none
    rw [whole, underWay_eq, underWay_eq, there, Option.bind_some, here]

theorem Paired.step (paired : Paired crew trace) (owned : Owned crew)
    (step : Step crew label crew') : Paired crew' (trace ++ [label]) := by
  have events := step.events
  cases step with
  | task before after advance => exact paired.task owned advance
  | @enqueue app tasks cellId =>
    apply paired.of_silent events rfl rfl
    rw [Crew.underWay, List.filterMap_append, filterMap_owedBy rfl, List.append_nil]
    rfl
  | edit | processor | announce | consult => exact paired.of_silent events rfl rfl rfl

theorem Run.paired (run : Run (.new notebook) trace crew) : Paired crew trace := by
  apply run.history
  · rfl
  · intro middle next label before first step paired
    exact paired.step ((owned_new notebook).run first) step

/-! ## On one thread -/

theorem Stage.caughtUp_of_rests (rests : stage.rests = true) : stage.lags = false := by
  cases stage with
  | owed | waiting => rfl
  | _ => cases rests

/-- What announcements tell, after steps on one thread. -/
structure Published (start : Crew) (trace : List Label) (crew : Crew) : Prop where
  /-- Where every task waits, the queue is as it was announced last. -/
  current : crew.Rests → lastShown crew.app.events = crew.app.queue.state
  /-- What was announced of the queue is what it was at that time. -/
  faithful : ∀ state, .queueChanged state ∈ crew.app.events →
    ∃ before after middle, trace = before ++ after ∧ OneThread start before middle ∧
      OneThread middle after crew ∧ state = middle.app.queue.state ∧
        middle.app.queue.Shows state
  /-- Runs are announced one after another, each as started and then as completed, unless its call
  died or it is still under way. -/
  paired : crew.app.events.filter Event.ofRun =
    (executions trace).flatMap Execution.announced ++
      crew.underWay.map fun entry => .started entry.cellId
  /-- Where every task waits, a run that is under way waits for the answer to its call. -/
  inFlight : crew.Rests → ∀ entry ∈ crew.underWay,
    ∃ number call, .waiting entry number call ∈ crew.tasks

theorem OneThread.published (thread : OneThread (.new notebook) trace crew) :
    Published (.new notebook) trace crew where
  current := by
    intro rests
    apply thread.run.current
    intro stage member
    exact Stage.caughtUp_of_rests (rests stage member)
  faithful := by
    intro state announced
    rcases thread.announced announced with none | ⟨before, after, middle, same, upTo, on, rfl⟩
    · cases none
    · have owned := (owned_new notebook).run upTo.run
      exact ⟨before, after, middle, same, upTo, on, rfl, owned.shows⟩
  paired := thread.run.paired
  inFlight := by
    intro rests entry member
    rcases List.mem_filterMap.1 member with ⟨stage, atWork, underWay⟩
    have waits := rests stage atWork
    cases stage with
    | waiting first number call =>
      cases underWay
      exact ⟨number, call, atWork⟩
    | owed => cases underWay
    | _ => cases waits

/-- The application is at rest after steps on one thread, and announcements tell how it stands. -/
def PublishedAt (start : Crew) (app : App) : Prop :=
  ∃ trace, OneThread start trace (.resting app) ∧ Published start trace (.resting app)

/-- After any steps on one thread, and wherever a job of a caller waits from then on, announcements
tell how the queue stands and which runs began and ended. -/
theorem announcements_complete (thread : OneThread (.new notebook) trace crew) :
    Published (.new notebook) trace crew ∧
      ∀ app, crew = .resting app → ∀ job : Job,
        (job.work app).Visits (fun _ => True) (PublishedAt (.new notebook))
          fun ended => PublishedAt (.new notebook) ended.1 := by
  have published : ∀ app, Stands (.new notebook) (fun _ => True) app →
      PublishedAt (.new notebook) app := by
    rintro app ⟨later, thread', _⟩
    exact ⟨later, thread', thread'.published⟩
  refine ⟨thread.published, ?_⟩
  rintro app rfl job
  have visits := job_visits job (fun _ _ => trivial) (fun _ => trivial)
    ⟨trace, thread, fun _ _ => trivial⟩ (owned_new notebook)
  exact visits.mono published fun ended => published ended.1

/-- One cell is completed, the call of another one dies, and the first one is run again and waits for
its answer. -/
theorem announcements_complete_after_crash :
    ∃ trace app, OneThread (.new ⟨[.new "x" .code "1", .new "y" .code "2"], 0, 0⟩) trace
        (.resting app) ∧
      app.events.filter Event.ofRun =
        [.started "x", .completed "x" 1 (.success "ok"), .started "y", .started "x"] ∧
      Published (.new ⟨[.new "x" .code "1", .new "y" .code "2"], 0, 0⟩) trace (.resting app) := by
  have owned := owned_new ⟨[.new "x" .code "1", .new "y" .code "2"], 0, 0⟩
  have fresh : Stands (.new ⟨[.new "x" .code "1", .new "y" .code "2"], 0, 0⟩) (fun _ => True)
      (.new ⟨[.new "x" .code "1", .new "y" .code "2"], 0, 0⟩) :=
    ⟨[], .nil, fun _ _ => trivial⟩
  have first := (fresh.enqueue owned "x").advance rfl
  have second : Stands _ (fun _ => True) (App.resume ⟨"x", 0⟩ (.execute "1")
      { meanwhile := [.enqueue "y"]
        answer := some (show Simulator.Execution from .plain (.success "ok")) } _) :=
    first.resume owned rfl fun _ _ => trivial
  have crashed :
      Stands _ (fun _ => True) (App.resume ⟨"y", 1⟩ (.execute "2") (.undisturbed none) _) :=
    second.resume owned rfl fun _ _ => trivial
  rcases (crashed.enqueue owned "x").advance rfl with ⟨trace, thread, _⟩
  exact ⟨trace, _, thread, rfl, (announcements_complete thread).1⟩

end Interleaving
end AsmNotebook
