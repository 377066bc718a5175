import AsmNotebook.Proofs.Interleaving.Basic

namespace AsmNotebook
namespace Interleaving

/-!
# First in, first out

Entries come to the queue by an enqueue only.  They leave it one at a time by
a dequeue, or all at once when the queue is given up.  `Run.fifo` compares the
entries that left, in the order in which they did, with those that came.
-/

namespace Label

/-- Entries that a step put into the queue. -/
def adds : Label → List QueueEntry
  | enqueue entry => [entry]
  | _ => []

/-- Entries that a step took off the queue. -/
def removes : Label → List QueueEntry
  | dequeue entry => [entry]
  | abandon _ others => others
  | _ => []

end Label

/-- Entries that came to the queue, in order. -/
def enqueued (trace : List Label) : List QueueEntry :=
  trace.flatMap Label.adds

/-- Entries that were taken out or handed back, in order. -/
def removed (trace : List Label) : List QueueEntry :=
  trace.flatMap Label.removes

theorem Advance.fifo {app app' : App} {stage : Stage} {label : Label} {next : Option Stage}
    (advance : Advance app stage label app' next) :
    label.removes ++ app'.queue.pending = app.queue.pending ∧ label.adds = [] := by
  cases advance with
  | leave found =>
    rcases App.take_none found with ⟨queue, rfl, ⟨_, rfl⟩ | ⟨_, empty, rfl⟩⟩
    · exact ⟨rfl, rfl⟩
    · exact ⟨empty.symm, rfl⟩
  | dequeue found =>
    rcases App.take_some found with ⟨rest, _, pending, rfl⟩
    exact ⟨pending.symm, rfl⟩
  | pass found =>
    rcases App.begin_none found with ⟨rfl, _⟩
    exact ⟨rfl, rfl⟩
  | begin found =>
    rcases App.begin_some found with ⟨notebook, _, rfl⟩
    exact ⟨rfl, rfl⟩
  | store => exact ⟨congrArg ExecutionQueue.pending (App.store_queue _ _ _), rfl⟩
  | @release entry outcome =>
    refine ⟨?_, rfl⟩
    unfold App.release ExecutionQueue.complete
    split <;> rfl
  | abandon found | abandonIdle found =>
    rcases App.abandon_eq found with ⟨rfl, _, pending⟩
    exact ⟨(List.append_nil _).trans pending.symm, rfl⟩
  | spawn | reply | call | answer | crash | finish | drop | recover | cancel | vanish =>
    exact ⟨rfl, rfl⟩

theorem Step.fifo {crew crew' : Crew} {label : Label} (step : Step crew label crew') :
    label.removes ++ crew'.app.queue.pending = crew.app.queue.pending ++ label.adds := by
  cases step with
  | enqueue cellId =>
    rw [App.enqueue_eq]
    rfl
  | task before after advance =>
    rcases advance.fifo with ⟨left, none⟩
    rw [none, List.append_nil]
    exact left
  | edit | processor | announce | consult => exact (List.append_nil _).symm

/-- What left the queue, followed by what is in it, is what was in it, followed by what came. -/
theorem Run.fifo {crew last : Crew} {trace : List Label} (run : Run crew trace last) :
    removed trace ++ last.app.queue.pending = crew.app.queue.pending ++ enqueued trace := by
  induction run with
  | nil => exact (List.append_nil _).symm
  | @cons crew next last label trace step rest inductionHypothesis =>
    calc
      removed (label :: trace) ++ last.app.queue.pending =
          label.removes ++ (removed trace ++ last.app.queue.pending) := List.append_assoc ..
      _ = label.removes ++ next.app.queue.pending ++ enqueued trace := by
        rw [inductionHypothesis, List.append_assoc]
      _ = crew.app.queue.pending ++ enqueued (label :: trace) := by
        rw [step.fifo, List.append_assoc]
        rfl

end Interleaving
end AsmNotebook
