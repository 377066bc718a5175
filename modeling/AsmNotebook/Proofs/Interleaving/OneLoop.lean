import AsmNotebook.Proofs.Interleaving.Basic

namespace AsmNotebook
namespace Interleaving

/-!
# One loop at a time

The flag of the queue is set by a caller and cleared by a task, so no single
operation shows that the two agree.  `Owned` ties the flag, the live task and
the contents of the queue together, and every step keeps it.  Of each step
only one question is asked: `Advance.of_live` says what a live task hands on,
and `Advance.of_dead` that a task which gave the queue up does not touch it
again.
-/

/-- Either no task is live and the queue is idle and empty, or one task is live, the flag is set, and
the queue shows the cell that the task is at. -/
inductive Owned (crew : Crew) : Prop
  | idle (none : crew.tasks.filter Stage.live = []) (empty : crew.app.queue = .empty)
  | busy (stage : Stage) (one : crew.tasks.filter Stage.live = [stage])
      (draining : crew.app.queue.draining = true)
      (showing : crew.app.queue.executing = stage.cell?)

theorem owned_new (notebook : Notebook) : Owned (.new notebook) :=
  .idle rfl rfl

variable {app app' : App} {stage : Stage} {label : Label} {next : Option Stage}

/-- A live task that moves stays the owner of the queue, or leaves it idle and empty behind. -/
theorem Advance.of_live (advance : Advance app stage label app' next)
    (live : stage.live = true) (draining : app.queue.draining = true)
    (showing : app.queue.executing = stage.cell?) :
    (∃ stage', next = some stage' ∧ stage'.live = true ∧ app'.queue.draining = true ∧
        app'.queue.executing = stage'.cell?) ∨
      (next.toList.filter Stage.live = [] ∧ app'.queue = .empty) := by
  cases advance with
  | spawn => exact Or.inl ⟨_, rfl, rfl, draining, showing⟩
  | leave found =>
    rcases App.take_none found with ⟨queue, rfl, blocked | ⟨_, _, rfl⟩⟩
    · exact absurd showing blocked.1
    · exact Or.inr ⟨rfl, rfl⟩
  | dequeue found =>
    rcases App.take_some found with ⟨rest, _, _, rfl⟩
    exact Or.inl ⟨_, rfl, rfl, draining, rfl⟩
  | pass found =>
    rcases App.begin_none found with ⟨rfl, _⟩
    exact Or.inl ⟨_, rfl, rfl, draining, showing⟩
  | begin found =>
    rcases App.begin_some found with ⟨notebook, _, rfl⟩
    exact Or.inl ⟨_, rfl, rfl, draining, showing⟩
  | reply _ => exact Or.inl ⟨_, rfl, rfl, draining, showing⟩
  | call _ => exact Or.inl ⟨_, rfl, rfl, draining, showing⟩
  | answer _ => exact Or.inl ⟨_, rfl, rfl, draining, showing⟩
  | crash => exact Or.inl ⟨_, rfl, rfl, draining, showing⟩
  | store =>
    refine Or.inl ⟨_, rfl, rfl, ?_, ?_⟩
    · rw [App.store_queue]
      exact draining
    · rw [App.store_queue]
      exact showing
  | @release entry outcome =>
    have shown : app.queue.executing = some entry.cellId := showing
    refine Or.inl ⟨_, rfl, rfl, ?_, ?_⟩ <;>
      simp only [App.release, ExecutionQueue.complete, shown, if_true, Stage.cell?]
    exact draining
  | finish => exact Or.inl ⟨_, rfl, rfl, draining, showing⟩
  | drop => exact Or.inl ⟨_, rfl, rfl, draining, showing⟩
  | abandon found | abandonIdle found =>
    rcases App.abandon_eq found with ⟨rfl, _⟩
    exact Or.inr ⟨rfl, rfl⟩
  | recover => cases live
  | cancel => cases live
  | vanish => cases live

/-- A task that gave the queue up does not touch it again. -/
theorem Advance.of_dead (advance : Advance app stage label app' next)
    (dead : stage.live = false) :
    app'.queue = app.queue ∧ next.toList.filter Stage.live = [] := by
  cases advance with
  | recover => exact ⟨rfl, rfl⟩
  | cancel => exact ⟨rfl, rfl⟩
  | vanish => exact ⟨rfl, rfl⟩
  | _ => cases dead

/-- A live task is the only one, and the queue shows where it stands. -/
theorem Owned.alone {before after : List Stage} (owned : Owned ⟨app, before ++ stage :: after⟩)
    (live : stage.live = true) :
    before.filter Stage.live = [] ∧ after.filter Stage.live = [] ∧
      app.queue.draining = true ∧ app.queue.executing = stage.cell? := by
  cases owned with
  | idle none empty => simp [live] at none
  | busy owner one draining showing =>
    have split : before.filter Stage.live = [] ∧ stage = owner ∧ after.filter Stage.live = [] := by
      simpa [live, List.append_eq_singleton_iff] using one
    rcases split with ⟨front, rfl, back⟩
    exact ⟨front, back, draining, showing⟩

theorem Owned.task {before after : List Stage}
    (owned : Owned ⟨app, before ++ stage :: after⟩)
    (advance : Advance app stage label app' next) :
    Owned ⟨app', before ++ next.toList ++ after⟩ := by
  cases live : stage.live with
  | true =>
    rcases owned.alone live with ⟨front, back, draining, showing⟩
    rcases advance.of_live live draining showing with
      ⟨stage', rfl, live', draining', showing'⟩ | ⟨gone, empty⟩
    · exact .busy stage' (by simp [front, back, live']) draining' showing'
    · exact .idle (by simp only [List.filter_append, front, back, gone, List.append_nil]) empty
  | false =>
    rcases advance.of_dead live with ⟨same, dead⟩
    have others : (before ++ next.toList ++ after).filter Stage.live =
        (before ++ stage :: after).filter Stage.live := by
      simp [dead, live]
    cases owned with
    | idle none empty => exact .idle (others.trans none) (same.trans empty)
    | busy owner one draining showing =>
      exact .busy owner (others.trans one) (same ▸ draining) (same ▸ showing)

theorem owedBy_of_draining {cellId : String} (draining : app.queue.draining = true) :
    owedBy cellId app = [] := by
  simpa [owedBy, ExecutionQueue.enqueue] using draining

theorem Owned.enqueue {tasks : List Stage} (owned : Owned ⟨app, tasks⟩) (cellId : String) :
    Owned ⟨(app.enqueue cellId).1, tasks ++ owedBy cellId app⟩ := by
  rw [App.enqueue_eq]
  cases owned with
  | idle none empty =>
    have idle : app.queue.draining = false := congrArg ExecutionQueue.draining empty
    have owed : owedBy cellId app = [.owed] := by
      simp [owedBy, ExecutionQueue.enqueue, idle]
    refine .busy .owed ?_ rfl (congrArg ExecutionQueue.executing empty)
    rw [owed, List.filter_append, none]
    rfl
  | busy owner one draining showing =>
    refine .busy owner ?_ rfl showing
    rw [owedBy_of_draining draining, List.append_nil]
    exact one

theorem Owned.step {crew crew' : Crew} (owned : Owned crew) (step : Step crew label crew') :
    Owned crew' := by
  cases step with
  | enqueue cellId => exact owned.enqueue cellId
  | task before after advance => exact owned.task advance
  | edit | processor | announce | consult =>
    cases owned with
    | idle none empty => exact .idle none empty
    | busy owner one draining showing => exact .busy owner one draining showing

theorem Owned.run {crew crew' : Crew} {trace : List Label} (owned : Owned crew)
    (run : Run crew trace crew') : Owned crew' :=
  run.invariant owned fun step owned => owned.step step

end Interleaving
end AsmNotebook
