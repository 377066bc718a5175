import AsmNotebook.App.Run
import AsmNotebook.Proofs.Ends
import AsmNotebook.Proofs.Interleaving.OneLoop
import AsmNotebook.Proofs.Interleaving.Tickets

namespace AsmNotebook
namespace Interleaving

/-!
# The loop of the application is one of the schedules

The application runs on one thread: its loop is a single task, and the phase
of the application says where that task stands.  The lemmas of this module
take each operation of the application apart into steps of the relation,
which shows that the application does nothing the relation does not allow,
and carries every statement about all runs over to the code that runs.
-/

/-- The tasks that a phase of the loop stands for. -/
def tasksOf : LoopPhase → List Stage
  | .absent => []
  | .ready => [.ready]
  | .waiting entry number call => [.waiting entry number call]

/-- The application with its own loop. -/
def Crew.solo (app : App) : Crew where
  app := app
  tasks := tasksOf app.phase

variable {app app' : App}

/-- The application whose loop is at a phase. -/
theorem Crew.solo_eq {phase : LoopPhase} (here : app.phase = phase) :
    Crew.solo app = ⟨app, tasksOf phase⟩ := by
  rw [← here]
  rfl

/-- Without a loop the queue is idle and empty. -/
theorem Owned.absent (owned : Owned (.solo app)) (absent : app.phase = .absent) :
    app.queue = .empty := by
  rw [Crew.solo_eq absent] at owned
  cases owned with
  | idle none empty => exact empty
  | busy stage one draining showing => cases one

/-- A loop owns the queue. -/
theorem Owned.present (owned : Owned (.solo app)) (present : app.phase ≠ .absent) :
    app.queue.draining = true := by
  cases phase : app.phase with
  | absent => exact absurd phase present
  | ready | waiting =>
    rw [Crew.solo_eq phase] at owned
    cases owned with
    | idle none empty => cases none
    | busy stage one draining showing => exact draining

/-- A step of the only task, with another stage after it. -/
theorem Run.move {stage next : Stage} {label : Label}
    (advance : Advance app stage label app' (some next)) :
    Run ⟨app, [stage]⟩ [label] ⟨app', [next]⟩ :=
  .single (.task [] [] advance)

/-- The last step of the only task. -/
theorem Run.stop {stage : Stage} {label : Label} (advance : Advance app stage label app' none) :
    Run ⟨app, [stage]⟩ [label] ⟨app', []⟩ :=
  .single (.task [] [] advance)

/-- Whether a step is the loop's own and needs no answer. -/
def Label.silent : Label → Bool
  | .spawn => true
  | .leave => true
  | .dequeue _ => true
  | .pass _ => true
  | .begin _ _ => true
  | .dispatch _ _ => true
  | .store _ _ _ => true
  | .release _ => true
  | .finish _ _ => true
  | _ => false

/-- Whether a step neither edits nor involves a service. -/
def Label.undisturbing : Label → Bool
  | .enqueue _ => true
  | .announce => true
  | label => label.silent

/-- Steps that the loop takes on its own. -/
def Silent (trace : List Label) : Prop :=
  ∀ label ∈ trace, label.silent = true

theorem Silent.nil : Silent [] := fun _ member =>
  absurd member List.not_mem_nil

theorem Silent.append {before after : List Label} (first : Silent before)
    (second : Silent after) : Silent (before ++ after) := by
  intro label member
  rcases List.mem_append.1 member with front | back
  · exact first label front
  · exact second label back

theorem Silent.undisturbing {trace : List Label} (silent : Silent trace) :
    ∀ label ∈ trace, label.undisturbing = true := by
  intro label member
  have own := silent label member
  cases label <;> first | exact own | cases own

/-- The loop queues nothing. -/
theorem Silent.enqueued {trace : List Label} (silent : Silent trace) : enqueued trace = [] := by
  refine List.flatMap_eq_nil_iff.2 fun label member => ?_
  have own := silent label member
  cases label with
  | enqueue => cases own
  | _ => rfl

/-- Where there is no loop, an enqueue owes the queue one. -/
theorem Owned.enqueue_absent (owned : Owned (.solo app)) (absent : app.phase = .absent)
    (cellId : String) : owedBy cellId app = [.owed] ∧ (app.enqueue cellId).1.phase = .ready := by
  have idle : app.queue.draining = false := congrArg ExecutionQueue.draining (owned.absent absent)
  constructor
  · simp [owedBy, ExecutionQueue.enqueue, idle]
  · rw [App.enqueue_eq, idle]
    rfl

/-- Where there is a loop, an enqueue leaves it where it is. -/
theorem Owned.enqueue_present (owned : Owned (.solo app)) (present : app.phase ≠ .absent)
    (cellId : String) : owedBy cellId app = [] ∧ (app.enqueue cellId).1.phase = app.phase := by
  have draining := owned.present present
  constructor
  · exact owedBy_of_draining draining
  · rw [App.enqueue_eq, draining]
    rfl

/-- An enqueue of a caller, and the start of the loop if there is none. -/
theorem enqueue_run (owned : Owned (.solo app)) (cellId : String) :
    ∃ start, Silent start ∧
      Run (.solo app) (.enqueue ⟨cellId, app.nextTicket⟩ :: start)
        (.solo (app.enqueue cellId).1) := by
  have queued : Step ⟨app, tasksOf app.phase⟩ (.enqueue ⟨cellId, app.nextTicket⟩)
      ⟨(app.enqueue cellId).1, tasksOf app.phase ++ owedBy cellId app⟩ := .enqueue cellId
  by_cases absent : app.phase = .absent
  · rcases owned.enqueue_absent absent cellId with ⟨owed, phase⟩
    rw [owed, absent] at queued
    rw [Crew.solo_eq absent, Crew.solo_eq phase]
    exact ⟨[.spawn], by simp [Silent, Label.silent], .cons queued (.move .spawn)⟩
  · rcases owned.enqueue_present absent cellId with ⟨none, phase⟩
    rw [none, List.append_nil] at queued
    rw [Crew.solo_eq phase]
    exact ⟨[], .nil, .single queued⟩

theorem act_run (owned : Owned (.solo app)) (action : App.Action) :
    ∃ trace, Run (.solo app) trace (.solo (app.act action).1) := by
  cases action with
  | edit edit => exact ⟨_, .single (.edit edit)⟩
  | enqueue cellId =>
    rcases enqueue_run owned cellId with ⟨start, _, run⟩
    exact ⟨_, run⟩
  | processor action => exact ⟨_, .single (.processor action)⟩
  | announce => exact ⟨_, .single .announce⟩

/-- A loop that waits does so after the steps of other tasks. -/
theorem act_phase (owned : Owned (.solo app)) (present : app.phase ≠ .absent)
    (action : App.Action) : (app.act action).1.phase = app.phase := by
  cases action with
  | enqueue cellId => exact (owned.enqueue_present present cellId).2
  | edit | processor | announce => rfl

theorem attend_run (owned : Owned (.solo app)) (actions : List App.Action) :
    ∃ trace, Run (.solo app) trace (.solo (app.attend actions)) := by
  induction actions generalizing app with
  | nil => exact ⟨[], .nil⟩
  | cons action actions inductionHypothesis =>
    rcases act_run owned action with ⟨before, first⟩
    rcases inductionHypothesis (owned.run first) with ⟨after, rest⟩
    exact ⟨before ++ after, first.append rest⟩

theorem attend_phase (owned : Owned (.solo app)) (present : app.phase ≠ .absent)
    (actions : List App.Action) : (app.attend actions).phase = app.phase := by
  induction actions generalizing app with
  | nil => rfl
  | cons action actions inductionHypothesis =>
    rcases act_run owned action with ⟨_, first⟩
    have phase := act_phase owned present action
    exact (inductionHypothesis (owned.run first) (phase ▸ present)).trans phase

/-- The end of a run, from the stage at which its outcome is known. -/
theorem finish_run (entry : QueueEntry) (outcome : RunOutcome) (app : App) :
    Run ⟨app, [.ended entry outcome]⟩ [.release entry, .finish entry outcome]
      (.solo (app.finish entry outcome)) :=
  (Run.move .release).append (.move .finish)

theorem complete_run (entry : QueueEntry) (dispatch : Dispatch) (app : App) :
    ∃ outcome, Run ⟨app, [.dispatched entry dispatch]⟩
      [.store entry dispatch outcome, .release entry, .finish entry outcome]
      (.solo (app.complete entry dispatch)) :=
  ⟨_, (Run.move .store).append (finish_run entry _ _)⟩

/-- The loop takes steps of its own, and stands before another entry only if its fuel is used up. -/
theorem advanceFrom_run (fuel : Nat) (app : App) (ready : app.phase = .ready) :
    (∃ trace, Silent trace ∧ Run (.solo app) trace (.solo (app.advanceFrom fuel))) ∧
      (app.queue.pending.length < fuel → (app.advanceFrom fuel).phase ≠ .ready) := by
  induction fuel generalizing app with
  | zero => exact ⟨⟨[], .nil, .nil⟩, nofun⟩
  | succ fuel inductionHypothesis =>
    rw [Crew.solo_eq ready]
    unfold App.advanceFrom
    split
    · next gone found =>
      rcases App.take_none found with ⟨queue, rfl, _⟩
      exact ⟨⟨[.leave], by simp [Silent, Label.silent], .stop (.leave found)⟩, nofun⟩
    · next taken entry found =>
      have first : Run ⟨app, [.ready]⟩ [.dequeue entry] ⟨taken, [.taken entry]⟩ :=
        .move (.dequeue found)
      split
      · next begun passed =>
        have turn := first.append ((Run.move (.pass passed)).append
          (finish_run entry .skipped begun))
        rcases inductionHypothesis (begun.finish entry .skipped) rfl with
          ⟨⟨trace, silent, rest⟩, gone⟩
        refine ⟨⟨_, .append ?_ silent, turn.append rest⟩, fun enough => gone ?_⟩
        · simp [Silent, Label.silent]
        have lengths := congrArg List.length turn.fifo
        simp [removed, enqueued, Label.removes, Label.adds, Crew.solo] at lengths
        omega
      · next begun source started =>
        have second := first.append (Run.move (.begin started))
        split
        · next output routed =>
          rcases complete_run entry (.plain output) begun with ⟨outcome, third⟩
          have turn := second.append ((Run.move (.reply routed)).append third)
          rcases inductionHypothesis (begun.complete entry (.plain output)) rfl with
            ⟨⟨trace, silent, rest⟩, gone⟩
          refine ⟨⟨_, .append ?_ silent, turn.append rest⟩, fun enough => gone ?_⟩
          · simp [Silent, Label.silent]
          have lengths := congrArg List.length turn.fifo
          simp [removed, enqueued, Label.removes, Label.adds, Crew.solo] at lengths
          omega
        · next call routed =>
          refine ⟨⟨_, ?_, second.append (Run.move (.call routed))⟩, fun _ ready => ?_⟩
          · simp [Silent, Label.silent]
          · cases ready

theorem advance_run (app : App) (ready : app.phase = .ready) :
    (∃ trace, Silent trace ∧ Run (.solo app) trace (.solo app.advance)) ∧ app.advance.phase ≠ .ready :=
  have turn := advanceFrom_run (app.queue.pending.length + 1) app ready
  ⟨turn.1, turn.2 (Nat.lt_succ_self _)⟩

theorem cancel_run (entries : List QueueEntry) (app : App) :
    Run ⟨app, [.cancelling entries]⟩ (entries.map .cancel ++ [.vanish]) ⟨app.cancel entries, []⟩ := by
  induction entries generalizing app with
  | nil => exact .stop .vanish
  | cons entry entries inductionHypothesis =>
    have first : Run ⟨app, [.cancelling (entry :: entries)]⟩ [.cancel entry]
        ⟨app.settle entry.ticket .skipped, [.cancelling entries]⟩ := .move .cancel
    exact first.append (inductionHypothesis _)

theorem cancels_own (entries : List QueueEntry) :
    ∀ label ∈ entries.map Label.cancel ++ [.vanish], label.ofCaller = false := by
  intro label member
  rcases List.mem_append.1 member with cancelled | last
  · rcases List.mem_map.1 cancelled with ⟨_, _, rfl⟩
    rfl
  · cases List.mem_singleton.1 last
    rfl

theorem cancel_phase (entries : List QueueEntry) (app : App) :
    (app.cancel entries).phase = app.phase := by
  induction entries generalizing app with
  | nil => rfl
  | cons entry entries inductionHypothesis =>
    exact inductionHypothesis (app.settle entry.ticket .skipped)

theorem crash_run {entry : QueueEntry} {number : Nat} {call : ServiceCall}
    (waiting : app.phase = .waiting entry number call) :
    (app.crash entry).phase = .absent ∧
      ∃ trace, (∀ label ∈ trace, label.ofCaller = false) ∧
        Run (.solo app) (.crash entry :: .drop entry :: trace) (.solo (app.crash entry)) := by
  rw [Crew.solo_eq waiting]
  have dropped : Run ⟨app, [.waiting entry number call]⟩ [.crash entry, .drop entry]
      ⟨app.settle entry.ticket .skipped, [.unwinding entry]⟩ :=
    (Run.move .crash).append (.move .drop)
  unfold App.crash
  split
  · next idle cellId others found =>
    have phase : ((idle.recover cellId).cancel others).phase = .absent := by
      rcases App.abandon_eq found with ⟨rfl, _⟩
      exact cancel_phase others _
    have rest := (Run.move .recover).append (cancel_run others (idle.recover cellId))
    refine ⟨phase, .abandon entry others :: .recover cellId :: (others.map .cancel ++ [.vanish]),
      ?_, ?_⟩
    · rw [List.forall_mem_cons, List.forall_mem_cons]
      exact ⟨rfl, rfl, cancels_own others⟩
    · rw [Crew.solo_eq phase]
      exact dropped.append ((Run.move (.abandon found)).append rest)
  · next idle others found =>
    have phase : (idle.cancel others).phase = .absent := by
      rcases App.abandon_eq found with ⟨rfl, _⟩
      exact cancel_phase others _
    refine ⟨phase, .abandon entry others :: (others.map .cancel ++ [.vanish]), ?_, ?_⟩
    · rw [List.forall_mem_cons]
      exact ⟨rfl, cancels_own others⟩
    · rw [Crew.solo_eq phase]
      exact dropped.append ((Run.move (.abandonIdle found)).append (cancel_run others idle))

/-- With the answer to its call the loop ends the run and goes on. -/
theorem answered_run {entry : QueueEntry} {number : Nat} {call : ServiceCall}
    (waiting : app.phase = .waiting entry number call) (answer : call.Answer) :
    ((app.complete entry (conclude call answer)).advance).phase ≠ .ready ∧
      ∃ trace, Silent trace ∧
        Run (.solo app) (.answer entry call answer :: trace)
          (.solo (app.complete entry (conclude call answer)).advance) ∧
        ∃ outcome, (entry, outcome) ∈ settled trace := by
  rw [Crew.solo_eq waiting]
  have answered : Run ⟨app, [.waiting entry number call]⟩ [.answer entry call answer]
      ⟨app, [.dispatched entry (conclude call answer)]⟩ := .move (.answer answer)
  rcases complete_run entry (conclude call answer) app with ⟨outcome, completed⟩
  rcases advance_run (app.complete entry (conclude call answer)) rfl with
    ⟨⟨after, silent, advanced⟩, rests⟩
  have turn := answered.append (completed.append advanced)
  refine ⟨rests, _ ++ after, .append ?_ silent, turn, outcome, ?_⟩
  · simp [Silent, Label.silent]
  · simp [settled, Label.settles]

/-- A loop that waits goes on with the end of the run that it waits for, and comes to wait again or
goes. -/
theorem resume_run (owned : Owned (.solo app)) {entry : QueueEntry} {number : Nat}
    {call : ServiceCall} (waiting : app.phase = .waiting entry number call)
    (attendance : App.Attendance call) :
    (app.resume entry call attendance).phase ≠ .ready ∧
      ∃ trace, Run (.solo app) trace (.solo (app.resume entry call attendance)) ∧
        ∃ outcome, (entry, outcome) ∈ settled trace := by
  have present : app.phase ≠ .absent := by simp [waiting]
  rcases attend_run owned attendance.meanwhile with ⟨before, attended⟩
  have still := (attend_phase owned present attendance.meanwhile).trans waiting
  unfold App.resume
  split
  · rcases crash_run still with ⟨gone, trace, _, crashed⟩
    exact ⟨by simp [gone], _, attended.append crashed, .skipped, by simp [settled, Label.settles]⟩
  · next answer _ =>
    rcases answered_run still answer with ⟨rests, trace, _, answered, outcome, ends⟩
    refine ⟨rests, _, attended.append answered, outcome, ?_⟩
    rw [settled, List.flatMap_append]
    exact List.mem_append_right _ ends

/-- What a turn of the loop leads to.  The loop that was about to take out a run, or waited for the
end of one, has come to wait or is gone, and the run that it waited for has ended. -/
structure Turned (app app' : App) (trace : List Label) : Prop where
  run : Run (.solo app) trace (.solo app')
  rests : app'.phase ≠ .ready
  ends : ∀ {entry number call}, app.phase = .waiting entry number call →
    ∃ outcome, (entry, outcome) ∈ settled trace

theorem turn_ends (owned : Owned (.solo app)) :
    app.turn.Ends fun app' => ∃ trace, Turned app app' trace := by
  unfold App.turn
  split
  · next absent => exact ⟨[], .nil, by simp [absent], by simp [absent]⟩
  · next ready =>
    rcases advance_run app ready with ⟨⟨trace, _, run⟩, rests⟩
    exact ⟨trace, run, rests, by simp [ready]⟩
  · next entry number call waiting =>
    intro attendance
    rcases resume_run owned waiting attendance with ⟨rests, trace, run, ends⟩
    refine ⟨trace, run, rests, fun same => ?_⟩
    cases waiting.symm.trans same
    exact ends

/-- Turns of the loop, each after steps of other tasks, are steps of the relation. -/
theorem takeTurns_ends (owned : Owned (.solo app)) (turns : List (List App.Action)) :
    (app.takeTurns turns).Ends fun app' => ∃ trace, Run (.solo app) trace (.solo app') := by
  induction turns generalizing app with
  | nil => exact ⟨[], .nil⟩
  | cons actions rest inductionHypothesis =>
    rcases attend_run owned actions with ⟨before, attended⟩
    rw [App.takeTurns, Dialogue.ends_bind]
    refine (turn_ends (owned.run attended)).mono ?_
    rintro turned ⟨_, turn⟩
    have first := attended.append turn.run
    refine (inductionHypothesis (owned.run first)).mono ?_
    rintro last ⟨_, later⟩
    exact ⟨_, first.append later⟩

end Interleaving
end AsmNotebook
