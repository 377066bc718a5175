import AsmNotebook.Proofs.Interleaving.Order
import Mathlib.Data.List.Nodup

namespace AsmNotebook
namespace Interleaving

/-!
# Every ticket is in one place

A ticket is given out by an enqueue.  From then on its entry waits in the
queue, is held by a task, or its run has ended, and never two of these.  The
statement is a permutation: `Run.ticketed` compares the tickets in all three
places with the numbers given out.  It counts what a step moves, so it does
not matter which task moves, or that the same cell is queued more than once.
-/

/-- Ends of runs that a step put on record. -/
def Label.settles : Label → List (QueueEntry × RunOutcome)
  | finish entry outcome => [(entry, outcome)]
  | drop entry => [(entry, .skipped)]
  | cancel entry => [(entry, .skipped)]
  | _ => []

/-- Ends of runs, in the order in which they were put on record. -/
def settled (trace : List Label) : List (QueueEntry × RunOutcome) :=
  trace.flatMap Label.settles

namespace Crew

/-- Entries whose runs have not ended: those that wait, and those that tasks hold. -/
def unsettled (crew : Crew) : List QueueEntry :=
  crew.app.queue.pending ++ crew.tasks.flatMap Stage.held

/-- Tickets in any of the three places. -/
def tickets (crew : Crew) : List Nat :=
  crew.unsettled.map QueueEntry.ticket ++ crew.app.outcomes.map Prod.fst

end Crew

/-- A task passes on what it held and took off the queue, except for the runs that it ends. -/
theorem Advance.flow {app app' : App} {stage : Stage} {label : Label} {next : Option Stage}
    (advance : Advance app stage label app' next) :
    label.settles.map Prod.fst ++ next.toList.flatMap Stage.held = stage.held ++ label.removes ∧
      app'.outcomes =
          app.outcomes ++ label.settles.map (fun settled => (settled.1.ticket, settled.2)) ∧
        app'.nextTicket = app.nextTicket := by
  cases advance with
  | leave found =>
    rcases App.take_none found with ⟨queue, rfl, _⟩
    exact ⟨rfl, (List.append_nil _).symm, rfl⟩
  | dequeue found =>
    rcases App.take_some found with ⟨rest, _, _, rfl⟩
    exact ⟨rfl, (List.append_nil _).symm, rfl⟩
  | pass found =>
    rcases App.begin_none found with ⟨rfl, _⟩
    exact ⟨rfl, (List.append_nil _).symm, rfl⟩
  | begin found =>
    rcases App.begin_some found with ⟨notebook, _, rfl⟩
    exact ⟨rfl, (List.append_nil _).symm, rfl⟩
  | @store entry dispatch =>
    unfold App.store
    cases dispatch.effect <;> exact ⟨rfl, (List.append_nil _).symm, rfl⟩
  | abandon found | abandonIdle found =>
    rcases App.abandon_eq found with ⟨rfl, _⟩
    exact ⟨by simp [Label.settles, Stage.held, Label.removes], (List.append_nil _).symm, rfl⟩
  | @cancel entry others =>
    refine ⟨?_, rfl, rfl⟩
    simp [Label.settles, Stage.held, Label.removes]
  | vanish => exact ⟨rfl, (List.append_nil _).symm, rfl⟩
  | finish | drop => exact ⟨rfl, rfl, rfl⟩
  | spawn | reply | call | answer | crash | release | recover =>
    refine ⟨?_, (List.append_nil _).symm, rfl⟩
    simp [Label.settles, Stage.held, Label.removes]

/-- The tickets given out so far are in one place each. -/
def Ticketed (crew : Crew) : Prop :=
  crew.tickets.Perm (List.range crew.app.nextTicket)

theorem Ticketed.step {crew crew' : Crew} {label : Label} (ticketed : Ticketed crew)
    (step : Step crew label crew') : Ticketed crew' := by
  cases step with
  | @enqueue app tasks cellId =>
    have held : (owedBy cellId app).flatMap Stage.held = [] :=
      List.flatMap_eq_nil_iff.2 fun stage member => by rw [eq_owed_of_mem member, Stage.held]
    have known := List.perm_iff_count.1 ticketed
    refine List.perm_iff_count.2 fun ticket => ?_
    have count := known ticket
    rw [App.enqueue_eq]
    simp [Crew.tickets, Crew.unsettled, held, ExecutionQueue.enqueue, App.showQueue, App.announce,
      List.range_succ, List.count_cons] at count ⊢
    omega
  | @task app app' stage _ next before after advance =>
    rcases advance.flow with ⟨kept, outcomes, same⟩
    have known := List.perm_iff_count.1 ticketed
    refine List.perm_iff_count.2 fun ticket => ?_
    have count := known ticket
    have pending := congrArg (fun entries => (entries.map QueueEntry.ticket).count ticket)
      advance.fifo.1
    have moved := congrArg (fun entries => (entries.map QueueEntry.ticket).count ticket) kept
    simp [Crew.tickets, Crew.unsettled, outcomes, same, Function.comp_def] at count pending moved ⊢
    omega
  | edit | processor | announce | consult => exact ticketed

/-- The record of outcomes grows by the ends of runs, one for one. -/
theorem Step.outcomes {crew crew' : Crew} {label : Label} (step : Step crew label crew') :
    crew'.app.outcomes =
      crew.app.outcomes ++ label.settles.map (fun settled => (settled.1.ticket, settled.2)) := by
  cases step with
  | enqueue cellId =>
    rw [App.enqueue_eq]
    exact (List.append_nil _).symm
  | task before after advance => exact advance.flow.2.1
  | edit | processor | announce | consult => exact (List.append_nil _).symm

theorem Run.outcomes {crew last : Crew} {trace : List Label} (run : Run crew trace last) :
    last.app.outcomes =
      crew.app.outcomes ++ (settled trace).map (fun settled => (settled.1.ticket, settled.2)) := by
  induction run with
  | nil => exact (List.append_nil _).symm
  | cons step _ inductionHypothesis =>
    rw [inductionHypothesis, step.outcomes, List.append_assoc, ← List.map_append]
    rfl

theorem Run.ticketed {notebook : Notebook} {crew : Crew} {trace : List Label}
    (run : Run (.new notebook) trace crew) : Ticketed crew :=
  run.invariant (List.Perm.refl _) fun step ticketed => ticketed.step step

/-- Tickets are numbered in the order in which their entries come. -/
theorem Step.tickets_in_order {crew crew' : Crew} {label : Label} (step : Step crew label crew') :
    List.range crew.app.nextTicket ++ label.adds.map QueueEntry.ticket =
      List.range crew'.app.nextTicket := by
  cases step with
  | enqueue cellId =>
    rw [App.enqueue_eq]
    exact List.range_succ.symm
  | task before after advance =>
    rw [advance.fifo.2, advance.flow.2.2]
    exact List.append_nil _
  | edit | processor | announce | consult => exact List.append_nil _

theorem Run.tickets_in_order {crew last : Crew} {trace : List Label} (run : Run crew trace last) :
    List.range crew.app.nextTicket ++ (enqueued trace).map QueueEntry.ticket =
      List.range last.app.nextTicket := by
  induction run with
  | nil => exact List.append_nil _
  | cons step _ inductionHypothesis =>
    rw [← inductionHypothesis, ← step.tickets_in_order, List.append_assoc, ← List.map_append]
    rfl

theorem Run.nextTicket_le {crew last : Crew} {trace : List Label} (run : Run crew trace last) :
    crew.app.nextTicket ≤ last.app.nextTicket := by
  have lengths := congrArg List.length run.tickets_in_order
  simp at lengths
  omega

/-- A run that has ended stays ended, with the same outcome. -/
theorem Run.outcome?_some {crew last : Crew} {trace : List Label} (run : Run crew trace last)
    {ticket : Nat} {outcome : RunOutcome} (ended : crew.app.outcome? ticket = some outcome) :
    last.app.outcome? ticket = some outcome := by
  unfold App.outcome? at ended ⊢
  rcases Option.map_eq_some_iff.1 ended with ⟨first, found, same⟩
  rw [run.outcomes, List.find?_append, found]
  exact congrArg some same

/-- No run ends twice. -/
theorem Ticketed.once {crew : Crew} (ticketed : Ticketed crew) :
    (crew.app.outcomes.map Prod.fst).Nodup :=
  (List.nodup_append.1 (ticketed.nodup_iff.2 List.nodup_range)).2.1

/-- The outcome on record for a ticket is the one that is looked up. -/
theorem Ticketed.outcome?_of_mem {crew : Crew} (ticketed : Ticketed crew) {ticket : Nat}
    {outcome : RunOutcome} (onRecord : (ticket, outcome) ∈ crew.app.outcomes) :
    crew.app.outcome? ticket = some outcome := by
  have known : crew.app.outcome? ticket ≠ none := fun none =>
    App.outcome?_eq_none_iff.1 none (List.mem_map_of_mem onRecord)
  rcases Option.ne_none_iff_exists'.1 known with ⟨outcome', found⟩
  have same := List.inj_on_of_nodup_map ticketed.once (App.mem_of_outcome? found) onRecord rfl
  rw [found]
  exact congrArg (fun entry => some entry.2) same

/-- The run of a ticket has not ended exactly while its entry waits or is held. -/
theorem Ticketed.outcome?_eq_none_iff {crew : Crew} (ticketed : Ticketed crew) {ticket : Nat}
    (issued : ticket < crew.app.nextTicket) :
    crew.app.outcome? ticket = none ↔ ticket ∈ crew.unsettled.map QueueEntry.ticket := by
  have apart := (List.nodup_append.1 (ticketed.nodup_iff.2 List.nodup_range)).2.2
  have somewhere : ticket ∈ crew.tickets := ticketed.mem_iff.2 (List.mem_range.2 issued)
  rw [App.outcome?_eq_none_iff]
  rcases List.mem_append.1 somewhere with unsettled | settled
  · exact iff_of_true (fun member => apart _ unsettled _ member rfl) unsettled
  · exact iff_of_false (fun absent => absent settled) fun member => apart _ member _ settled rfl

/-- What a task holds has left the queue. -/
def HeldRemoved (crew : Crew) (trace : List Label) : Prop :=
  ∀ stage ∈ crew.tasks, stage.held ⊆ removed trace

theorem HeldRemoved.step {crew crew' : Crew} {label : Label} {trace : List Label}
    (left : HeldRemoved crew trace) (step : Step crew label crew') :
    HeldRemoved crew' (trace ++ [label]) := by
  have removed_snoc : removed (trace ++ [label]) = removed trace ++ label.removes := by
    simp [removed]
  intro stage member
  rw [removed_snoc]
  cases step with
  | @task app app' moving _ next before after advance =>
    rcases mem_after_task member with other | rfl
    · exact List.Subset.trans (left stage (mem_before_task other)) (List.subset_append_left _ _)
    · intro entry inHand
      have origin : entry ∈ moving.held ++ label.removes := by
        rw [← advance.flow.1]
        exact List.mem_append_right _ (by simpa using inHand)
      rcases List.mem_append.1 origin with kept | takenOff
      · exact List.mem_append_left _ (left moving (by simp) kept)
      · exact List.mem_append_right _ takenOff
  | @enqueue app tasks cellId =>
    rcases List.mem_append.1 member with old | owed
    · exact List.Subset.trans (left stage old) (List.subset_append_left _ _)
    · rcases eq_owed_of_mem owed with rfl
      exact List.nil_subset _
  | edit | processor | announce | consult =>
    exact List.Subset.trans (left stage member) (List.subset_append_left _ _)

/-- An entry that a task holds came before all entries that wait. -/
theorem Run.held_lt_waiting {notebook : Notebook} {crew : Crew} {trace : List Label}
    (run : Run (.new notebook) trace crew) {stage : Stage} (atWork : stage ∈ crew.tasks)
    {held waiting : QueueEntry} (inHand : held ∈ stage.held)
    (waits : waiting ∈ crew.app.queue.pending) : held.ticket < waiting.ticket := by
  have left : HeldRemoved crew trace :=
    run.history (fun _ member => absurd member List.not_mem_nil) fun _ step left => left.step step
  have order : ((removed trace ++ crew.app.queue.pending).map QueueEntry.ticket).Pairwise
      (· < ·) := by
    have came : removed trace ++ crew.app.queue.pending = enqueued trace := run.fifo
    have numbered : (enqueued trace).map QueueEntry.ticket = List.range crew.app.nextTicket :=
      run.tickets_in_order
    rw [came, numbered]
    exact List.pairwise_lt_range
  rw [List.map_append] at order
  exact (List.pairwise_append.1 order).2.2 _ (List.mem_map_of_mem (left stage atWork inHand)) _
    (List.mem_map_of_mem waits)

end Interleaving
end AsmNotebook
