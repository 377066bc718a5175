import AsmNotebook.Proofs.Interleaving.Turns

namespace AsmNotebook
namespace Interleaving

/-!
# One cooperative thread

On one thread a task goes on until it waits, and nobody else acts before.  Of
all schedules this leaves those in which callers act only while every task
waits, which is what `OneThread` says.  A crew in which every task waits is
one that others can see, and `Crew.resting` reads it off the application.

The second half takes the work of the application, as callers have it done,
to such runs: wherever work waits, and whatever other tasks do meanwhile, the
application is one that `Stands` after a run on one thread.
-/

namespace Stage

/-- Whether a task that stands here waits: it has not been started, or its call has no answer yet. -/
def rests : Stage → Bool
  | owed => true
  | waiting _ _ _ => true
  | _ => false

theorem live_of_rests {stage : Stage} (rests : stage.rests = true) : stage.live = true := by
  cases stage with
  | owed | waiting => rfl
  | _ => cases rests

end Stage

/-- Every task waits. -/
def Crew.Rests (crew : Crew) : Prop :=
  ∀ stage ∈ crew.tasks, stage.rests = true

/-- Tasks that wait are live. -/
theorem Crew.Rests.live {crew : Crew} (rests : crew.Rests) :
    crew.tasks.filter Stage.live = crew.tasks := by
  apply List.filter_eq_self.2
  intro stage member
  exact Stage.live_of_rests (rests stage member)

/-- Steps one after another of which callers take theirs only while every task waits. -/
inductive OneThread : Crew → List Label → Crew → Prop
  | nil {crew : Crew} : OneThread crew [] crew
  | cons {crew next last : Crew} {label : Label} {trace : List Label}
      (step : Step crew label next) (yields : label.ofCaller = true → crew.Rests)
      (rest : OneThread next trace last) : OneThread crew (label :: trace) last

namespace OneThread

variable {crew next last : Crew} {label : Label} {trace before after : List Label}

theorem run (thread : OneThread crew trace last) : Run crew trace last := by
  induction thread with
  | nil => exact .nil
  | cons step _ _ inductionHypothesis => exact .cons step inductionHypothesis

theorem append (first : OneThread crew before next) (second : OneThread next after last) :
    OneThread crew (before ++ after) last := by
  induction first with
  | nil => exact second
  | cons step yields _ inductionHypothesis => exact .cons step yields (inductionHypothesis second)

/-- A run over two traces in a row passes through a crew between them. -/
theorem split (thread : OneThread crew (before ++ after) last) :
    ∃ middle, OneThread crew before middle ∧ OneThread middle after last := by
  induction before generalizing crew with
  | nil => exact ⟨crew, .nil, thread⟩
  | cons label before inductionHypothesis =>
    cases thread with
    | cons step yields rest =>
      rcases inductionHypothesis rest with ⟨middle, first, second⟩
      exact ⟨middle, .cons step yields first, second⟩

/-- A step of a caller, taken while every task waits. -/
theorem single (step : Step crew label next) (rests : crew.Rests) : OneThread crew [label] next :=
  .cons step (fun _ => rests) .nil

end OneThread

variable {notebook : Notebook} {start crew last : Crew} {trace : List Label}
variable {app app' : App} {allowed : Edit → Prop}

/-- Where no caller acts, tasks can go on. -/
theorem Run.oneThread (run : Run crew trace last)
    (own : ∀ label ∈ trace, label.ofCaller = false) : OneThread crew trace last := by
  induction run with
  | nil => exact .nil
  | cons step _ inductionHypothesis =>
    rw [List.forall_mem_cons] at own
    refine .cons step ?_ (inductionHypothesis own.2)
    intro caller
    cases own.1.symm.trans caller

/-- On one thread there is at most one task. -/
theorem OneThread.length_tasks_le (thread : OneThread crew trace last) (owned : Owned crew)
    (few : crew.tasks.length ≤ 1) : last.tasks.length ≤ 1 := by
  induction thread with
  | nil => exact few
  | @cons crew next last label trace step yields rest inductionHypothesis =>
    apply inductionHypothesis (owned.step step)
    cases step with
    | @enqueue app tasks cellId =>
      -- Tasks that wait are live, so there is none where the queue is idle.
      have rests : Crew.Rests ⟨app, tasks⟩ := yields rfl
      cases owned with
      | idle none _ =>
        have empty : tasks = [] := rests.live.symm.trans none
        rw [empty, owedBy]
        split <;> simp
      | busy _ _ draining _ =>
        rw [owedBy_of_draining draining, List.append_nil]
        exact few
    | @task _ _ _ _ moved before after _ =>
      cases moved <;> simp at few ⊢ <;> omega
    | edit | processor | announce | consult => exact few

/-- A new application has at most one task at any time. -/
theorem OneThread.length_tasks_le_one (thread : OneThread (.new notebook) trace crew) :
    crew.tasks.length ≤ 1 :=
  thread.length_tasks_le (owned_new notebook) (Nat.zero_le 1)

/-! ## Applications at rest -/

/-- The tasks that wait while the loop is at a phase. -/
def parked : LoopPhase → List Stage
  | .absent => []
  | .ready => [.owed]
  | .waiting entry number call => [.waiting entry number call]

/-- The application with its own loop, which waits. -/
def Crew.resting (app : App) : Crew where
  app := app
  tasks := parked app.phase

theorem Crew.resting_eq {phase : LoopPhase} (here : app.phase = phase) :
    Crew.resting app = ⟨app, parked phase⟩ := by
  rw [← here]
  rfl

theorem resting_rests (app : App) : (Crew.resting app).Rests := by
  intro stage member
  change stage ∈ parked app.phase at member
  cases phase : app.phase with
  | absent =>
    rw [phase] at member
    cases member
  | ready | waiting =>
    rw [phase] at member
    cases List.mem_singleton.1 member
    rfl

/-- A loop that waits or is gone stands where it waits. -/
theorem solo_eq_resting (rests : app.phase ≠ .ready) : Crew.solo app = .resting app := by
  cases phase : app.phase with
  | ready => exact absurd phase rests
  | absent | waiting => rw [Crew.solo_eq phase, Crew.resting_eq phase]; rfl

/-- A loop that has not been started owns the queue as one that has. -/
theorem Owned.solo (owned : Owned (.resting app)) : Owned (.solo app) := by
  cases phase : app.phase with
  | ready =>
    rw [Crew.resting_eq phase] at owned
    rw [Crew.solo_eq phase]
    cases owned with
    | idle none _ => cases none
    | busy stage one draining showing =>
      cases one
      exact .busy .ready rfl draining showing
  | absent | waiting =>
    rw [solo_eq_resting (by simp [phase])]
    exact owned

/-! ## What can happen between two rests -/

/-- Callers make allowed edits only. -/
def Confined (allowed : Edit → Prop) (trace : List Label) : Prop :=
  ∀ edit, .edit edit ∈ trace → allowed edit

/-- Other tasks make allowed edits only. -/
def Permitted (allowed : Edit → Prop) (actions : List App.Action) : Prop :=
  ∀ edit, .edit edit ∈ actions → allowed edit

theorem Permitted.of_subset {actions some : List App.Action} (permitted : Permitted allowed actions)
    (within : some ⊆ actions) : Permitted allowed some :=
  fun edit member => permitted edit (within member)

theorem Confined.append {before after : List Label} (first : Confined allowed before)
    (second : Confined allowed after) : Confined allowed (before ++ after) := by
  intro edit member
  rcases List.mem_append.1 member with front | back
  · exact first edit front
  · exact second edit back

/-- Where no caller acts, nothing is edited. -/
theorem confined_of_own (own : ∀ label ∈ trace, label.ofCaller = false) :
    Confined allowed trace := by
  intro edit member
  cases own _ member

theorem Silent.own (silent : Silent trace) : ∀ label ∈ trace, label.ofCaller = false := by
  intro label member
  have own := silent label member
  cases label with
  | enqueue | edit | processor | announce | consult => cases own
  | _ => rfl

/-- The application is at rest after steps on one thread of which all edits were allowed ones. -/
def Stands (start : Crew) (allowed : Edit → Prop) (app : App) : Prop :=
  ∃ trace, OneThread start trace (.resting app) ∧ Confined allowed trace

namespace Stands

theorem owned (stands : Stands start allowed app) (before : Owned start) :
    Owned (.resting app) := by
  rcases stands with ⟨_, thread, _⟩
  exact before.run thread.run

theorem caller {label : Label} (stands : Stands start allowed app)
    (step : Step (.resting app) label (.resting app'))
    (edits : ∀ edit, label = .edit edit → allowed edit) : Stands start allowed app' := by
  rcases stands with ⟨trace, thread, confined⟩
  refine ⟨trace ++ [label], thread.append (.single step (resting_rests app)), ?_⟩
  apply confined.append
  intro edit member
  exact edits edit (List.mem_singleton.1 member).symm

/-- The loop goes on until it comes to rest. -/
theorem loop {later : List Label} (stands : Stands start allowed app)
    (run : Run (.resting app) later (.resting app'))
    (own : ∀ label ∈ later, label.ofCaller = false) : Stands start allowed app' := by
  rcases stands with ⟨trace, thread, confined⟩
  exact ⟨trace ++ later, thread.append (run.oneThread own), confined.append (confined_of_own own)⟩

theorem enqueue (stands : Stands start allowed app) (before : Owned start) (cellId : String) :
    Stands start allowed (app.enqueue cellId).1 := by
  have owned := (stands.owned before).solo
  have queued : Step ⟨app, parked app.phase⟩ (.enqueue ⟨cellId, app.nextTicket⟩)
      ⟨(app.enqueue cellId).1, parked app.phase ++ owedBy cellId app⟩ := .enqueue cellId
  suffices step : Step (.resting app) (.enqueue ⟨cellId, app.nextTicket⟩)
      (.resting (app.enqueue cellId).1) by
    apply stands.caller step
    intro edit same
    cases same
  by_cases absent : app.phase = .absent
  · rcases owned.enqueue_absent absent cellId with ⟨owed, phase⟩
    rw [owed, absent] at queued
    rw [Crew.resting_eq absent, Crew.resting_eq phase]
    exact queued
  · rcases owned.enqueue_present absent cellId with ⟨none, phase⟩
    rw [none, List.append_nil] at queued
    rw [Crew.resting_eq phase]
    exact queued

theorem act (stands : Stands start allowed app) (before : Owned start) (action : App.Action)
    (edits : ∀ edit, action = .edit edit → allowed edit) :
    Stands start allowed (app.act action).1 := by
  cases action with
  | edit edit =>
    apply stands.caller (.edit edit)
    intro other same
    cases same
    exact edits edit rfl
  | enqueue cellId => exact stands.enqueue before cellId
  | processor action =>
    apply stands.caller (.processor action)
    intro edit same
    cases same
  | announce =>
    apply stands.caller .announce
    intro edit same
    cases same

theorem attend (stands : Stands start allowed app) (before : Owned start)
    {actions : List App.Action} (permitted : Permitted allowed actions) :
    Stands start allowed (app.attend actions) := by
  induction actions generalizing app with
  | nil => exact stands
  | cons action actions inductionHypothesis =>
    apply inductionHypothesis
    · apply stands.act before
      rintro edit rfl
      exact permitted edit List.mem_cons_self
    · intro edit member
      exact permitted edit (List.mem_cons_of_mem _ member)

theorem consult (stands : Stands start allowed app) (question : String) :
    Stands start allowed (app.recordCall (.ask question)).1 := by
  apply stands.caller (.consult question)
  intro edit same
  cases same

/-- A loop that is about to start takes out runs until it comes to rest. -/
theorem advance (stands : Stands start allowed app) (ready : app.phase = .ready) :
    Stands start allowed app.advance := by
  rcases advance_run app ready with ⟨⟨trace, silent, run⟩, rests⟩
  rw [Crew.solo_eq ready, solo_eq_resting rests] at run
  have spawned : Run (.resting app) [.spawn] ⟨app, tasksOf .ready⟩ := by
    rw [Crew.resting_eq ready]
    exact .move .spawn
  apply stands.loop (spawned.append run)
  rw [List.singleton_append, List.forall_mem_cons]
  exact ⟨rfl, silent.own⟩

/-- A loop that waits goes on after its call, whatever becomes of it, until it comes to rest. -/
theorem resume {entry : QueueEntry} {number : Nat} {call : ServiceCall}
    (stands : Stands start allowed app) (before : Owned start)
    (waiting : app.phase = .waiting entry number call) {attendance : App.Attendance call}
    (permitted : Permitted allowed attendance.meanwhile) :
    Stands start allowed (app.resume entry call attendance) := by
  have present : app.phase ≠ .absent := by simp [waiting]
  have attended := stands.attend before permitted
  have still := (attend_phase (stands.owned before).solo present attendance.meanwhile).trans waiting
  have rests : (app.attend attendance.meanwhile).phase ≠ .ready := by simp [still]
  unfold App.resume
  split
  · rcases crash_run still with ⟨gone, trace, own, crashed⟩
    rw [solo_eq_resting rests, solo_eq_resting (by simp [gone])] at crashed
    apply attended.loop crashed
    rw [List.forall_mem_cons, List.forall_mem_cons]
    exact ⟨rfl, rfl, own⟩
  · next answer _ =>
    rcases answered_run still answer with ⟨rested, trace, silent, answered, _⟩
    rw [solo_eq_resting rests, solo_eq_resting rested] at answered
    apply attended.loop answered
    rw [List.forall_mem_cons]
    exact ⟨rfl, silent.own⟩

end Stands

end Interleaving
end AsmNotebook
