import AsmNotebook.Proofs.Interleaving.Story
import AsmNotebook.Proofs.Notebook.Identity

namespace AsmNotebook
namespace Interleaving

/-!
# Where a result goes

A run reads the text of its cell when it begins, and names the cell again when
its result is stored.  In between the notebook may be edited without limit.
The text is carried by the stage of the task, so no edit can change which
result is stored.  The cell is found again by its identifier, and identifiers
are never used twice, so a cell that has this identifier is the one that the
run began with.
-/

variable {notebook : Notebook} {crew crew' last : Crew} {label : Label} {trace : List Label}
variable {app app' : App} {stage : Stage} {next : Option Stage}
variable {entry : QueueEntry} {source : String} {dispatch : Dispatch} {outcome : RunOutcome}

theorem Advance.supplied (advance : Advance app stage label app' next) :
    Notebook.Supplied app.notebook app'.notebook := by
  rcases advance.notebook_cases with
    same | ⟨_, _, _, begun⟩ | ⟨_, _, _, _, stored⟩ | ⟨_, _, recovered⟩
  · exact .of_same (congrArg Notebook.ids same) (congrArg Notebook.nextId same)
  · exact Notebook.begin_supplied begun
  · exact stored ▸ Notebook.complete_supplied _ _ _
  · exact recovered ▸ Notebook.edit_supplied app.notebook (.update _ _)

/-- Every step leaves identifiers in their order or takes new ones from the supply. -/
theorem Step.supplied (step : Step crew label crew') :
    Notebook.Supplied crew.app.notebook crew'.app.notebook := by
  cases step with
  | enqueue cellId =>
    rw [App.enqueue_eq]
    exact Notebook.supplied_refl _
  | edit edit => exact Notebook.edit_supplied _ edit
  | task before after advance => exact advance.supplied
  | processor | announce | consult => exact Notebook.supplied_refl _

theorem Run.identified (run : Run crew trace last) (identified : crew.app.notebook.Identified) :
    last.app.notebook.Identified := by
  induction run with
  | nil => exact identified
  | cons step _ inductionHypothesis =>
    exact inductionHypothesis (identified.supplied step.supplied)

/-- An identifier was in use at the start of a run, or it comes from the supply. -/
theorem Run.origin (run : Run crew trace last) {id : String} (used : id ∈ last.app.notebook.ids) :
    id ∈ crew.app.notebook.ids ∨ ∃ n, crew.app.notebook.nextId ≤ n ∧ freshId n = id := by
  induction run with
  | nil => exact Or.inl used
  | cons step _ inductionHypothesis =>
    rcases inductionHypothesis used with old | ⟨n, ahead, same⟩
    · rcases step.supplied.origin old with older | ⟨n, ahead, _, same⟩
      · exact Or.inl older
      · exact Or.inr ⟨n, ahead, same⟩
    · exact Or.inr ⟨n, Nat.le_trans step.supplied.nextId_le ahead, same⟩

theorem Run.nextId_le (run : Run crew trace last) :
    crew.app.notebook.nextId ≤ last.app.notebook.nextId := by
  induction run with
  | nil => exact Nat.le_refl _
  | cons step _ inductionHypothesis =>
    exact Nat.le_trans step.supplied.nextId_le inductionHypothesis

/-- An identifier that is in use before and after is in use in between. -/
theorem Run.kept {middle : Crew} {first second : List Label} (run : Run crew first middle)
    (rest : Run middle second last) (identified : crew.app.notebook.Identified) {id : String}
    (before : id ∈ crew.app.notebook.ids) (after : id ∈ last.app.notebook.ids) :
    id ∈ middle.app.notebook.ids := by
  rcases rest.origin after with still | ⟨n, ahead, rfl⟩
  · exact still
  · exact absurd before (identified.fresh n (Nat.le_trans run.nextId_le ahead))

/-- A run begins with the text of its cell. -/
theorem Step.of_begin (step : Step crew (.begin entry source) crew') :
    crew.app.notebook.begin? entry.cellId = some (crew'.app.notebook, source) ∧
      .begun entry source ∈ crew'.tasks := by
  cases step with
  | task before after advance =>
    cases advance with
    | begin found =>
      rcases App.begin_some found with ⟨begun, same, rfl⟩
      exact ⟨same, by simp⟩

/-- A result is stored by the task that has it. -/
theorem Step.of_store (step : Step crew (.store entry dispatch outcome) crew') :
    .dispatched entry dispatch ∈ crew.tasks ∧
      (crew'.app, outcome) = crew.app.store entry.cellId dispatch := by
  cases step with
  | task before after advance =>
    cases advance with
    | store => exact ⟨by simp, rfl⟩

/-- While a text is with the router, its run does not touch the notebook. -/
theorem Step.notebook_of_dispatch (step : Step crew label crew')
    (own : label = .dispatch entry source ∨ ∃ call answer, label = .answer entry call answer) :
    crew'.app.notebook = crew.app.notebook := by
  rcases own with rfl | ⟨call, answer, rfl⟩
  · cases step with
    | task before after advance => cases advance <;> rfl
  · cases step with
    | task before after advance =>
      cases advance with
      | answer => rfl

theorem Lived.of_begun {past : List Label} (lived : Lived entry (.begun entry source) past) :
    past = [.enqueue entry, .dequeue entry, .begin entry source] := by
  cases lived
  rfl

theorem Lived.of_dispatched {past : List Label}
    (lived : Lived entry (.dispatched entry dispatch) past) :
    ∃ source answers, Answered entry source dispatch answers ∧
      past = [.enqueue entry, .dequeue entry, .begin entry source, .dispatch entry source] ++
        answers := by
  cases lived with
  | dispatched answered => exact ⟨_, _, answered, rfl⟩

theorem Answered.of_mem {answers : List Label} (answered : Answered entry source dispatch answers)
    (member : label ∈ answers) : ∃ call answer, label = .answer entry call answer := by
  cases answered with
  | replied => cases member
  | answered _ answer => exact ⟨_, answer, List.mem_singleton.1 member⟩

/-- The text that the router was given is the one that the run began with. -/
theorem Run.dispatched {past meanwhile : List Label} {begun atStore : Crew}
    (reached : Run (.new notebook) (past ++ [.begin entry source]) begun)
    (during : Run begun meanwhile atStore) (atWork : .begun entry source ∈ begun.tasks)
    (holds : .dispatched entry dispatch ∈ atStore.tasks) :
    ∃ answers, Answered entry source dispatch answers ∧
      story entry meanwhile = .dispatch entry source :: answers := by
  have first := (reached.told.held _ atWork entry (List.mem_singleton_self _)).of_begun
  rcases ((reached.append during).told.held _ holds entry (List.mem_singleton_self _)).of_dispatched
    with ⟨source', answers, answered, whole⟩
  rw [story_append, first] at whole
  have same : source = source' ∧ story entry meanwhile = .dispatch entry source' :: answers := by
    simpa using whole
  rcases same with ⟨rfl, rest⟩
  exact ⟨answers, answered, rest⟩

/-- The result of a run reaches the cell that the run began with, and no other. -/
structure Attributed (atBegin begun : Crew) (meanwhile : List Label) (atStore stored : Crew)
    (entry : QueueEntry) (source : String) (dispatch : Dispatch) (outcome : RunOutcome) :
    Prop where
  /-- The text is the one that the cell had when its run began. -/
  text : ∃ cell, atBegin.app.notebook.find? entry.cellId = some cell ∧ cell.isBlank = false ∧
    cell.content = source
  /-- The result is the one that the router returned for this text. -/
  result : ∃ answers, Answered entry source dispatch answers ∧
    story entry meanwhile = .dispatch entry source :: answers
  /-- The run begins with a change of its cell alone. -/
  begins : begun.app.notebook.cells = atBegin.app.notebook.cells.map fun cell =>
    if cell.id = entry.cellId then { cell with isRunning := true, output := none } else cell
  /-- Until its result is stored, the run does not touch the notebook. -/
  quiet : ∀ first label second middle next, meanwhile = first ++ label :: second →
    Run begun first middle → Step middle label next → Run next second atStore →
      entry ∈ label.entries → next.app.notebook = middle.app.notebook
  /-- No two cells have the same identifier when the result is stored. -/
  distinct : atStore.app.notebook.ids.Nodup
  /-- A cell that has the identifier then has had it ever since the run began. -/
  same : entry.cellId ∈ atStore.app.notebook.ids → ∀ first second middle,
    meanwhile = first ++ second → Run begun first middle → Run middle second atStore →
      entry.cellId ∈ middle.app.notebook.ids
  /-- The result is written to this cell alone. -/
  written : stored.app.notebook.cells = atStore.app.notebook.cells.map fun cell =>
    if cell.id = entry.cellId then
      { cell with
        output := some dispatch.output
        executionCount := some (atStore.app.notebook.executionCount + 1)
        isRunning := false }
    else cell
  /-- It is written nowhere where the cell is gone. -/
  gone : entry.cellId ∉ atStore.app.notebook.ids →
    stored.app.notebook.cells = atStore.app.notebook.cells
  /-- The count advances by one in any case. -/
  counted : stored.app.notebook.executionCount = atStore.app.notebook.executionCount + 1 ∧
    outcome = .completed stored.app.notebook.executionCount dispatch.output
  /-- The effect on the processor is applied in any case. -/
  applied : stored.app.processor =
    match dispatch.effect with
    | some effect => atStore.app.processor.act effect.action
    | none => atStore.app.processor

/-- The result that a run stores is the one for the text that its cell had when the run began.  It is
written to that cell, if it is still there, and nowhere else. -/
theorem result_attributed {past meanwhile : List Label} {atBegin begun atStore stored : Crew}
    (identified : notebook.Identified) (before : Run (.new notebook) past atBegin)
    (begins : Step atBegin (.begin entry source) begun) (during : Run begun meanwhile atStore)
    (stores : Step atStore (.store entry dispatch outcome) stored) :
    Attributed atBegin begun meanwhile atStore stored entry source dispatch outcome := by
  have reached : Run (.new notebook) (past ++ [.begin entry source]) begun := before.snoc begins
  have identified_begin : atBegin.app.notebook.Identified := before.identified identified
  have identified_begun : begun.app.notebook.Identified := reached.identified identified
  have identified_store : atStore.app.notebook.Identified := during.identified identified_begun
  rcases begins.of_begin with ⟨found, atWork⟩
  rcases Notebook.begin?_eq_some found with ⟨cell, there, readable, content, changed⟩
  rcases stores.of_store with ⟨holds, stored_eq⟩
  have app_eq : stored.app = (atStore.app.store entry.cellId dispatch).1 :=
    congrArg Prod.fst stored_eq
  have outcome_eq : outcome = (atStore.app.store entry.cellId dispatch).2 :=
    congrArg Prod.snd stored_eq
  have notebook_eq : stored.app.notebook =
      (atStore.app.notebook.complete entry.cellId dispatch.output).1 := by
    rw [app_eq, App.store_notebook]
  have written : stored.app.notebook.cells = atStore.app.notebook.cells.map fun cell =>
      if cell.id = entry.cellId then
        { cell with
          output := some dispatch.output
          executionCount := some (atStore.app.notebook.executionCount + 1)
          isRunning := false }
      else cell := by
    rw [notebook_eq]
    exact Notebook.modifyFirst_eq_map _ _ identified_store.distinct
  rcases reached.dispatched during atWork holds with ⟨answers, answered, told⟩
  refine
    { text := ⟨cell, there, readable, content⟩
      result := ⟨answers, answered, told⟩
      begins := ?_
      quiet := ?_
      distinct := identified_store.distinct
      same := ?_
      written := written
      gone := ?_
      counted := ?_
      applied := ?_ }
  · rw [changed]
    exact Notebook.modifyFirst_eq_map _ _ identified_begin.distinct
  · rintro first label second middle next rfl _ step _ concerned
    have member : label ∈ story entry (first ++ label :: second) := by
      simp [story, concerned]
    rw [told] at member
    apply step.notebook_of_dispatch
    rcases List.mem_cons.1 member with dispatching | answering
    · exact Or.inl dispatching
    · exact Or.inr (answered.of_mem answering)
  · intro still first second middle _ run rest
    have used := Notebook.mem_ids_of_begin? found
    exact run.kept rest identified_begun used still
  · intro absent
    rw [written]
    exact Notebook.map_of_absent absent
  · rw [notebook_eq, outcome_eq]
    exact ⟨rfl, rfl⟩
  · rw [app_eq]
    exact App.store_processor _ _ _

/-- A cell is deleted, and another one added, while its text is with the router. -/
theorem result_attributed_deleted_cell :
    Notebook.Identified ⟨[.new "x" .code "1", .new "y" .code "2"], 0, 0⟩ ∧
      ∃ past meanwhile atBegin begun atStore stored dispatch outcome,
        Run (.new ⟨[.new "x" .code "1", .new "y" .code "2"], 0, 0⟩) past atBegin ∧
          Step atBegin (.begin ⟨"x", 0⟩ "1") begun ∧ Run begun meanwhile atStore ∧
          Step atStore (.store ⟨"x", 0⟩ dispatch outcome) stored ∧
          atStore.app.notebook.ids = ["y", freshId 0] ∧
          stored.app.notebook.executionCount = 1 ∧ stored.app.processor.registers = .empty ∧
          Attributed atBegin begun meanwhile atStore stored ⟨"x", 0⟩ "1" dispatch outcome := by
  have identified : Notebook.Identified ⟨[.new "x" .code "1", .new "y" .code "2"], 0, 0⟩ :=
    Notebook.identified_of_short (by decide) (by decide)
  have routed : route "1" = .call (.execute "1") := rfl
  have run : ∃ past meanwhile atBegin begun atStore stored dispatch outcome,
      Run (.new ⟨[.new "x" .code "1", .new "y" .code "2"], 0, 0⟩) past atBegin ∧
        Step atBegin (.begin ⟨"x", 0⟩ "1") begun ∧ Run begun meanwhile atStore ∧
        Step atStore (.store ⟨"x", 0⟩ dispatch outcome) stored ∧
        atStore.app.notebook.ids = ["y", freshId 0] ∧
        stored.app.notebook.executionCount = 1 ∧ stored.app.processor.registers = .empty :=
    ⟨_, _, _, _, _, _, _, _,
      .cons (.enqueue "x") (.cons (.task [] [] .spawn) (.single (.task [] [] (.dequeue rfl)))),
      .task [] [] (.begin rfl),
      .cons (.task [] [] (.call routed)) (.cons (.edit (.delete "x"))
        (.cons (.edit (.add .code none)) (.single (.task [] []
          (.answer (show Simulator.Execution from
            ⟨.success "ok", some ⟨some .empty, none, none⟩⟩)))))),
      .task [] [] .store, rfl, rfl, rfl⟩
  rcases run with ⟨past, meanwhile, atBegin, begun, atStore, stored, dispatch, outcome, before,
    begins, during, stores, ids, count, registers⟩
  exact ⟨identified, past, meanwhile, atBegin, begun, atStore, stored, dispatch, outcome, before,
    begins, during, stores, ids, count, registers,
    result_attributed identified before begins during stores⟩

end Interleaving
end AsmNotebook
