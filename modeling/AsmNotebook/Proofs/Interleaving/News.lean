import AsmNotebook.Proofs.Interleaving.Basic

namespace AsmNotebook
namespace Interleaving

/-!
# What a step announces

Every step makes the announcements that its label calls for, and no others.
A step whose announcements say nothing of the document leaves the notebook
alone.  So whoever follows the announcements knows of every change, and knows
of it after it happened.
-/

/-- What a step announces, given how the queue shows itself afterwards. -/
def Label.news (shown : QueueState) : Label → List Event
  | enqueue _ => [.queueChanged shown]
  | edit _ => [.cellsChanged]
  | processor _ => [.processorChanged]
  | announce => [.cellsChanged]
  | leave => [.queueChanged shown]
  | dequeue _ => [.queueChanged shown]
  | begin entry _ => [.started entry.cellId]
  | store entry stored (.completed count output) =>
    (stored.effect.map fun _ => Event.processorChanged).toList ++
      [.completed entry.cellId count output]
  | abandon _ _ => [.queueChanged shown]
  | recover _ => [.cellsChanged]
  | _ => []

variable {crew crew' last : Crew} {label : Label} {trace : List Label}
variable {app app' : App} {stage : Stage} {next : Option Stage}

theorem Advance.events (advance : Advance app stage label app' next) :
    app'.events = app.events ++ label.news app'.queue.state := by
  cases advance with
  | leave found =>
    rcases App.take_none found with ⟨queue, rfl, _⟩
    rfl
  | dequeue found =>
    rcases App.take_some found with ⟨rest, _, _, rfl⟩
    rfl
  | pass found =>
    rcases App.begin_none found with ⟨rfl, _⟩
    exact (List.append_nil _).symm
  | begin found =>
    rcases App.begin_some found with ⟨notebook, _, rfl⟩
    rfl
  | store =>
    rw [App.store_events, App.store_outcome]
    rfl
  | abandon found | abandonIdle found =>
    rcases App.abandon_eq found with ⟨rfl, _⟩
    rfl
  | recover => rfl
  | spawn | reply | call | answer | crash | release | finish | drop | cancel | vanish =>
    exact (List.append_nil _).symm

/-- A step adds its news to what was announced. -/
theorem Step.events (step : Step crew label crew') :
    crew'.app.events = crew.app.events ++ label.news crew'.app.queue.state := by
  cases step with
  | enqueue cellId =>
    rw [App.enqueue_eq]
    rfl
  | task before after advance => exact advance.events
  | consult => exact (List.append_nil _).symm
  | edit | processor | announce => rfl

/-- Whether a step announces that what is saved of the notebook may have changed. -/
def Label.touches (label : Label) (shown : QueueState) : Bool :=
  (label.news shown).any Event.touchesDocument

theorem Advance.notebook_of_silence (advance : Advance app stage label app' next)
    (silence : label.touches app'.queue.state = false) : app'.notebook = app.notebook := by
  cases advance with
  | leave found =>
    rcases App.take_none found with ⟨queue, rfl, _⟩
    rfl
  | dequeue found =>
    rcases App.take_some found with ⟨rest, _, _, rfl⟩
    rfl
  | pass found =>
    rcases App.begin_none found with ⟨rfl, _⟩
    rfl
  | begin | recover => exact absurd silence nofun
  | store =>
    rw [App.store_outcome] at silence
    simp [Label.touches, Label.news, Event.touchesDocument] at silence
  | abandon found | abandonIdle found =>
    rcases App.abandon_eq found with ⟨rfl, _⟩
    rfl
  | spawn | reply | call | answer | crash | release | finish | drop | cancel | vanish => rfl

/-- A step that announces nothing of the document leaves the notebook alone. -/
theorem Step.notebook_of_silence (step : Step crew label crew')
    (silence : label.touches crew'.app.queue.state = false) :
    crew'.app.notebook = crew.app.notebook := by
  cases step with
  | enqueue cellId =>
    rw [App.enqueue_eq]
    rfl
  | task before after advance => exact advance.notebook_of_silence silence
  | edit | announce => exact absurd silence nofun
  | processor | consult => rfl

end Interleaving
end AsmNotebook
