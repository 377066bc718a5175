import AsmNotebook.Proofs.AtRest
import AsmNotebook.Proofs.Lockstep
import AsmNotebook.Proofs.Notebook.Twins

namespace AsmNotebook
namespace Supplies

/-!
# Applications side by side

Two applications with notebooks that are alike, both at rest, are asked to do
the same.  They make the same calls, and if those are answered alike, they are
side by side again.  One of them may have made calls before, and they may
differ in everything that is not saved of a notebook: what is known of the
processor, what was announced, and how earlier runs ended.
-/

variable {supplies : Supplies} {earlier : List ServiceCall} {left right : App} {id id' : String}

/-- Two applications whose notebooks are alike, and which made the same calls but for earlier ones of
the left one. -/
structure Beside (supplies : Supplies) (earlier : List ServiceCall) (left right : App) : Prop where
  notebooks : supplies.Alike left.notebook right.notebook
  sound : left.notebook.Sound
  calls : left.calls = earlier ++ right.calls
  left_rests : left.AtRest
  right_rests : right.AtRest

namespace Beside

theorem change {α β : Type} (beside : supplies.Beside earlier left right)
    {f : Notebook → Notebook × α} {g : Notebook → Notebook × β}
    (notebooks : supplies.Alike (f left.notebook).1 (g right.notebook).1)
    (sound : (f left.notebook).1.Sound) :
    supplies.Beside earlier (left.change f).1 (right.change g).1 where
  notebooks := notebooks
  sound := sound
  calls := beside.calls
  left_rests := beside.left_rests.change f
  right_rests := beside.right_rests.change g

theorem edit (beside : supplies.Beside earlier left right) {first second : Edit}
    (edits : supplies.TwinEdits first second) :
    supplies.Beside earlier (left.edit first).1 (right.edit second).1 :=
  beside.change (beside.notebooks.edit edits) (beside.sound.edit first)

/-- Both sides make one more call. -/
theorem calls_append (beside : supplies.Beside earlier left right) (call : ServiceCall) :
    left.calls ++ [call] = earlier ++ (right.calls ++ [call]) := by
  rw [beside.calls, List.append_assoc]

theorem recordCall (beside : supplies.Beside earlier left right) (call : ServiceCall) :
    supplies.Beside earlier (left.recordCall call).1 (right.recordCall call).1 where
  notebooks := beside.notebooks
  sound := beside.sound
  calls := beside.calls_append call
  left_rests := beside.left_rests.recordCall call
  right_rests := beside.right_rests.recordCall call

/-- Runs of both sides have ended. -/
theorem of_ended {entry entry' : QueueEntry} {outcome outcome' : RunOutcome}
    {notebook notebook' : Notebook} {calls calls' : List ServiceCall} {after after' : App}
    (ended : App.Ended entry outcome notebook calls after)
    (ended' : App.Ended entry' outcome' notebook' calls' after')
    (notebooks : supplies.Alike notebook notebook') (sound : notebook.Sound)
    (same : calls = earlier ++ calls') : supplies.Beside earlier after after' where
  notebooks := by rwa [ended.notebook, ended'.notebook]
  sound := by rwa [ended.notebook]
  calls := by rw [ended.calls, ended'.calls, same]
  left_rests := ended.rests
  right_rests := ended'.rests

/-- Both sides run a text that was begun. -/
theorem run_begun (beside : supplies.Beside earlier left right) (twins : supplies.Twin id id')
    {source : String} {begun begun' : Notebook}
    (begins : left.notebook.begin? id = some (begun, source))
    (begins' : right.notebook.begin? id' = some (begun', source))
    (alike : supplies.Alike begun begun') :
    Work.InStep (fun ended ended' => supplies.Beside earlier ended.1 ended'.1) (left.run id)
      (right.run id') := by
  have sound := beside.sound.begin begins
  cases routed : route source with
  | done output =>
    rcases App.run_of_reply beside.left_rests begins routed with ⟨after, ran, ended⟩
    rcases App.run_of_reply beside.right_rests begins' routed with ⟨after', ran', ended'⟩
    rw [ran, ran']
    exact .done (.of_ended ended ended' (alike.complete twins output) (sound.complete id output)
      beside.calls)
  | call call =>
    rcases App.run_of_call_undisturbed beside.left_rests begins routed with
      ⟨waiting, number, next, ran, answered, after, died, ended⟩
    rcases App.run_of_call_undisturbed beside.right_rests begins' routed with
      ⟨waiting', number', next', ran', answered', after', died', ended'⟩
    rw [ran, ran']
    refine .attend fun answer => ?_
    cases answer with
    | none =>
      rw [died, died']
      exact .done (.of_ended ended ended' (alike.edit (.update twins App.recovery))
        (sound.edit (.update id App.recovery)) (beside.calls_append call))
    | some answer =>
      rcases answered answer with ⟨after, replied, ended⟩
      rcases answered' answer with ⟨after', replied', ended'⟩
      rw [replied, replied']
      exact .done (.of_ended ended ended' (alike.complete twins _) (sound.complete id _)
        (beside.calls_append call))

/-- A cell is run in step. -/
theorem run (beside : supplies.Beside earlier left right) (twins : supplies.Twin id id') :
    Work.InStep (fun ended ended' => supplies.Beside earlier ended.1 ended'.1) (left.run id)
      (right.run id') := by
  have found := beside.notebooks.begin? twins
  generalize begins : left.notebook.begin? id = one, begins' : right.notebook.begin? id' = other
    at found
  cases found with
  | none =>
    rw [App.run_of_passed begins, App.run_of_passed begins']
    exact .done beside
  | @some begun begun' same =>
    rcases begun with ⟨begun, source⟩
    rcases begun' with ⟨begun', source'⟩
    rcases same with ⟨alike, text⟩
    cases text
    exact beside.run_begun twins begins begins' alike

/-- Cells are run one after another in step. -/
theorem runEach {ids ids' : List String} (names : List.Forall₂ supplies.Twin ids ids')
    (beside : supplies.Beside earlier left right) :
    Work.InStep (fun ended ended' => supplies.Beside earlier ended.1 ended'.1) (left.runEach ids)
      (right.runEach ids') := by
  induction names generalizing left right with
  | nil => exact .done beside
  | cons twins _ inductionHypothesis =>
    refine (beside.run twins).bind fun ended ended' first => ?_
    exact (inductionHypothesis first).bind fun _ _ rest => .done rest

theorem runAll (beside : supplies.Beside earlier left right) :
    Work.InStep (fun ended ended' => supplies.Beside earlier ended.1 ended'.1) left.runAll
      right.runAll := by
  have runnable : List.Forall₂ supplies.TwinCells (left.notebook.cells.filter Cell.isRunnable)
      (right.notebook.cells.filter Cell.isRunnable) := by
    refine List.rel_filter ?_ beside.notebooks.cells
    intro cell cell' twins
    exact Bool.eq_iff_iff.1 twins.isRunnable
  apply runEach _ beside
  exact List.rel_map (fun _ _ twins => twins.id) runnable

/-- Both sides show the same failure for the same text. -/
theorem failed? (beside : supplies.Beside earlier left right) (twins : supplies.Twin id id') :
    left.failed? id = right.failed? id' := by
  have found := beside.notebooks.find? twins
  unfold App.failed?
  generalize left.notebook.find? id = cell, right.notebook.find? id' = cell' at found ⊢
  cases found with
  | none => rfl
  | some same =>
    rw [Option.bind_eq_bind, Option.bind_eq_bind]
    simp only [Option.bind_some, same.output, same.content]

/-- A failure is explained in step, and the same is said on both sides. -/
theorem explain (beside : supplies.Beside earlier left right) (twins : supplies.Twin id id') :
    Work.InStep
      (fun ended ended' => supplies.Beside earlier ended.1 ended'.1 ∧ ended.2 = ended'.2)
      (left.explain id) (right.explain id') := by
  have same := beside.failed? twins
  cases failed : left.failed? id with
  | none =>
    have failed' := same.symm.trans failed
    simp only [App.explain, failed, failed']
    exact .done ⟨beside, rfl⟩
  | some asked =>
    rcases asked with ⟨code, failure⟩
    rcases App.explain_of_failed failed with ⟨next, explains, said, refused, died⟩
    rcases App.explain_of_failed (same.symm.trans failed) with
      ⟨next', explains', said', refused', died'⟩
    have recorded := beside.recordCall (.ask (explanationPrompt code failure))
    rw [explains, explains']
    refine .attend fun answer => ?_
    rcases answer with _ | fault | text
    · rw [died, died']
      exact .done ⟨recorded, rfl⟩
    · rw [refused, refused']
      exact .done ⟨recorded, rfl⟩
    · rw [said, said']
      exact .done ⟨recorded.edit (.attach twins text), rfl⟩

end Beside

end Supplies
end AsmNotebook
