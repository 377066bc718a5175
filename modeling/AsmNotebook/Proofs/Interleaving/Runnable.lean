import AsmNotebook.Prompt.Loop
import AsmNotebook.Proofs.Interleaving.Calls
import AsmNotebook.Proofs.Interleaving.Suspension
import AsmNotebook.Proofs.Notebook.Kinds

namespace AsmNotebook

theorem Cell.isRunnable_iff {cell : Cell} (readable : cell.isBlank = false) :
    cell.isRunnable = true ↔ cell.kind = .code := by
  simp [Cell.isRunnable, readable]

namespace Interleaving

/-!
# Cells whose texts are dispatched

To run all cells means to run those that are code and not blank.  A run of one
cell passes a blank cell over, when it is asked for and again when it begins,
but neither time does it ask for the kind.  So a text that is dispatched is the
one of a cell that was not blank when its run began, and prose is dispatched
like code if anybody asks for it.

The kind is known only where somebody else has made sure of it: where a code
cell was asked for and no kind was changed since, the cell whose text is
dispatched is one that can be run.
-/

variable {notebook : Notebook} {crew crew' last : Crew} {label : Label} {trace : List Label}
variable {app app' : App} {stage : Stage} {next : Option Stage}
variable {entry : QueueEntry} {source id : String} {kind : CellKind} {cell : Cell}

/-! ## Kinds along a run -/

theorem Advance.hasKind (advance : Advance app stage label app' next)
    (has : Notebook.HasKind id kind app.notebook) : Notebook.HasKind id kind app'.notebook := by
  rcases advance.notebook_cases with
    same | ⟨_, _, _, begun⟩ | ⟨_, _, _, _, stored⟩ | ⟨_, _, recovered⟩
  · exact same ▸ has
  · exact has.begin begun
  · exact stored ▸ has.complete _ _
  · exact recovered ▸ has.edit (.update _ _) rfl

theorem Step.hasKind (step : Step crew label crew')
    (keeps : ∀ edit, label = .edit edit → edit.KeepsKinds)
    (has : Notebook.HasKind id kind crew.app.notebook) :
    Notebook.HasKind id kind crew'.app.notebook := by
  cases step with
  | enqueue cellId =>
    rw [App.enqueue_notebook]
    exact has
  | edit edit => exact has.edit edit (keeps edit rfl)
  | task before after advance => exact advance.hasKind has
  | processor | announce | consult => exact has

/-- What is found under an identifier stays of its kind while no kind is changed. -/
theorem Run.hasKind (run : Run crew trace last) (keeps : Confined Edit.KeepsKinds trace)
    (has : Notebook.HasKind id kind crew.app.notebook) :
    Notebook.HasKind id kind last.app.notebook := by
  induction run with
  | nil => exact has
  | cons step _ inductionHypothesis =>
    apply inductionHypothesis
    · intro edit member
      exact keeps edit (List.mem_cons_of_mem _ member)
    · apply step.hasKind _ has
      rintro edit rfl
      exact keeps edit List.mem_cons_self

/-! ## From asking to dispatching -/

theorem Run.enqueued_of_begun (run : Run (.new notebook) trace crew)
    (atWork : .begun entry source ∈ crew.tasks) : .enqueue entry ∈ trace := by
  have whole := (run.told.held _ atWork entry (List.mem_singleton_self _)).of_begun
  have asked : .enqueue entry ∈ story entry trace := whole ▸ List.mem_cons_self
  exact (List.mem_filter.1 asked).1

/-- A run that was asked for once begins after that. -/
theorem Run.begun_meanwhile {before meanwhile : List Label}
    (run : Run (.new notebook) (before ++ .enqueue entry :: meanwhile) crew)
    (atWork : .begun entry source ∈ crew.tasks) : .begin entry source ∈ meanwhile := by
  have whole := (run.told.held _ atWork entry (List.mem_singleton_self _)).of_begun
  have concerned : story entry (.enqueue entry :: meanwhile) =
      .enqueue entry :: story entry meanwhile := by
    simp [story, Label.entries]
  rw [story_append, concerned] at whole
  cases earlier : story entry before with
  | nil =>
    rw [earlier] at whole
    have rest : story entry meanwhile = [.dequeue entry, .begin entry source] := by
      simpa using whole
    have begins : .begin entry source ∈ story entry meanwhile := by simp [rest]
    exact (List.mem_filter.1 begins).1
  | cons first more =>
    rw [earlier] at whole
    have tail : more ++ .enqueue entry :: story entry meanwhile =
        [.dequeue entry, .begin entry source] := (List.cons.inj whole).2
    have again : .enqueue entry ∈ more ++ .enqueue entry :: story entry meanwhile := by simp
    rw [tail] at again
    simp at again

/-- A run begins with a cell that is there and not blank. -/
theorem Step.read_of_begin (step : Step crew (.begin entry source) crew') :
    ∃ cell, crew.app.notebook.find? entry.cellId = some cell ∧ cell.isBlank = false ∧
      cell.content = source := by
  rcases Notebook.begin?_eq_some step.of_begin.1 with ⟨cell, found, readable, content, _⟩
  exact ⟨cell, found, readable, content⟩

/-- In a new application something was done, and in the course of it a run of an entry began with the
text of a cell. -/
def Read (notebook : Notebook) (done : List Label) (entry : QueueEntry) (source : String)
    (cell : Cell) : Prop :=
  ∃ before after atBegin begun, done = before ++ .begin entry source :: after ∧
    Run (.new notebook) before atBegin ∧ Step atBegin (.begin entry source) begun ∧
      atBegin.app.notebook.find? entry.cellId = some cell ∧ cell.isBlank = false ∧
        cell.content = source

theorem Run.read (run : Run (.new notebook) trace crew)
    (atWork : .begun entry source ∈ crew.tasks) : ∃ cell, Read notebook trace entry source cell := by
  rcases List.append_of_mem (run.enqueued_of_begun atWork) with ⟨before, meanwhile, rfl⟩
  rcases List.append_of_mem (run.begun_meanwhile atWork) with ⟨first, second, rfl⟩
  rw [← List.cons_append, ← List.append_assoc] at run ⊢
  rcases run.at_label with ⟨atBegin, begun, upTo, begins, _⟩
  rcases begins.read_of_begin with ⟨cell, found, readable, content⟩
  exact ⟨cell, _, _, atBegin, begun, rfl, upTo, begins, found, readable, content⟩

/-- Where a code cell was asked for and no kind is changed, the text is the one of a code cell. -/
theorem Run.read_code {before meanwhile : List Label} {asked : Crew}
    (identified : notebook.Identified) (first : Run (.new notebook) before asked)
    (during : Run asked (.enqueue entry :: meanwhile) crew)
    (found : asked.app.notebook.find? entry.cellId = some cell) (code : cell.kind = .code)
    (keeps : Confined Edit.KeepsKinds meanwhile) (atWork : .begun entry source ∈ crew.tasks) :
    ∃ cell, Read notebook (before ++ .enqueue entry :: meanwhile) entry source cell ∧
      cell.kind = .code := by
  rcases List.append_of_mem ((first.append during).begun_meanwhile atWork) with
    ⟨upTo, rest, rfl⟩
  rw [← List.cons_append] at during
  rcases during.at_label with ⟨atBegin, begun, between, begins, _⟩
  have has := Notebook.hasKind_of_find? (first.identified identified) found
  rw [code] at has
  have still := between.hasKind (by
    intro edit member
    rcases List.mem_cons.1 member with same | member
    · cases same
    · exact keeps edit (List.mem_append_left _ member)) has
  rcases begins.read_of_begin with ⟨cell', found', readable, content⟩
  refine ⟨cell', ⟨before ++ .enqueue entry :: upTo, rest, atBegin, begun, ?_, first.append between,
    begins, found', readable, content⟩, still.of_find? found'⟩
  simp

/-- A run that was taken out begins if its cell is there and not blank. -/
theorem exists_begin (atWork : .taken entry ∈ crew.tasks)
    (found : crew.app.notebook.find? entry.cellId = some cell) (readable : cell.isBlank = false) :
    ∃ begun, Step crew (.begin entry cell.content) begun := by
  have begins : ∃ begun, crew.app.begin entry = (begun, some cell.content) := by
    simp [App.begin, Notebook.begin?, found, readable]
  rcases begins with ⟨begun, begins⟩
  rcases List.append_of_mem atWork with ⟨before, after, tasks⟩
  have step : Step ⟨crew.app, before ++ .taken entry :: after⟩ _ _ :=
    .task before after (.begin begins)
  exact ⟨_, tasks ▸ step⟩

/-- Every text that a run began with can be dispatched. -/
theorem exists_dispatch (atWork : .begun entry source ∈ crew.tasks) :
    ∃ dispatched, Step crew (.dispatch entry source) dispatched := by
  rcases List.append_of_mem atWork with ⟨before, after, tasks⟩
  cases routed : route source with
  | done output =>
    have step : Step ⟨crew.app, before ++ .begun entry source :: after⟩ _ _ :=
      .task before after (.reply routed)
    exact ⟨_, tasks ▸ step⟩
  | call call =>
    have step : Step ⟨crew.app, before ++ .begun entry source :: after⟩ _ _ :=
      .task before after (.call routed)
    exact ⟨_, tasks ▸ step⟩

/-- Whose texts are dispatched in the course of a run. -/
structure TextsRead (notebook : Notebook) (trace : List Label) (crew : Crew) : Prop where
  /-- Calls are made for texts that are dispatched and for questions of callers. -/
  calls : crew.app.calls = trace.flatMap Label.calls
  /-- A text is the one of a cell that was not blank when its run began, so the cell could be run
  exactly if it was code. -/
  read : ∀ before entry source after, trace = before ++ .dispatch entry source :: after →
    ∃ cell, Read notebook before entry source cell ∧
      (cell.isRunnable = true ↔ cell.kind = .code)
  /-- It could be run if a code cell was asked for and no kind was changed since. -/
  code : notebook.Identified → ∀ before entry meanwhile source after asked cell,
    trace = before ++ .enqueue entry :: (meanwhile ++ .dispatch entry source :: after) →
      Run (.new notebook) before asked →
        Run asked (.enqueue entry :: (meanwhile ++ .dispatch entry source :: after)) crew →
          asked.app.notebook.find? entry.cellId = some cell → cell.kind = .code →
            Confined Edit.KeepsKinds meanwhile →
              ∃ cell, Read notebook (before ++ .enqueue entry :: meanwhile) entry source cell ∧
                cell.isRunnable = true
  /-- The kind is not asked for: a run that was taken out begins with every cell that is not blank, -/
  begins : ∀ entry cell, .taken entry ∈ crew.tasks →
    crew.app.notebook.find? entry.cellId = some cell → cell.isBlank = false →
      ∃ begun, Step crew (.begin entry cell.content) begun
  /-- and what it began with is dispatched. -/
  dispatches : ∀ entry source, .begun entry source ∈ crew.tasks →
    ∃ dispatched, Step crew (.dispatch entry source) dispatched

/-- The application is at rest after steps on one thread that dispatched such texts. -/
def TextsReadAt (notebook : Notebook) (app : App) : Prop :=
  ∃ trace, OneThread (.new notebook) trace (.resting app) ∧
    TextsRead notebook trace (.resting app)

theorem Read.isRunnable_iff {done : List Label} (read : Read notebook done entry source cell) :
    cell.isRunnable = true ↔ cell.kind = .code := by
  rcases read with ⟨_, _, _, _, _, _, _, _, readable, _⟩
  exact Cell.isRunnable_iff readable

theorem Run.textsRead (run : Run (.new notebook) trace crew) : TextsRead notebook trace crew where
  calls := run.calls
  read := by
    rintro before entry source after rfl
    rcases run.at_label with ⟨middle, _, upTo, dispatches, _⟩
    rcases upTo.read dispatches.of_dispatch with ⟨cell, read⟩
    exact ⟨cell, read, read.isRunnable_iff⟩
  code := by
    intro identified before entry meanwhile source after asked cell _ first during found code keeps
    rw [← List.cons_append] at during
    rcases during.at_label with ⟨middle, _, upTo, dispatches, _⟩
    rcases first.read_code identified upTo found code keeps dispatches.of_dispatch with
      ⟨cell', read, code'⟩
    exact ⟨cell', read, read.isRunnable_iff.2 code'⟩
  begins := fun _ _ atWork found readable => exists_begin atWork found readable
  dispatches := fun _ _ atWork => exists_dispatch atWork

/-- A text that is dispatched is the one of a cell that was not blank when its run began.  The cell
could be run if it was code, as it was where a code cell was asked for and no kind was changed.
This is so after any steps of any tasks, and on one thread wherever a job of a caller waits. -/
theorem texts_read (notebook : Notebook) :
    (∀ {trace crew}, Run (.new notebook) trace crew → TextsRead notebook trace crew) ∧
      ∀ {trace app}, OneThread (.new notebook) trace (.resting app) → ∀ job : Job,
        (job.work app).Visits (fun _ => True) (TextsReadAt notebook)
          fun ended => TextsReadAt notebook ended.1 := by
  refine ⟨Run.textsRead, ?_⟩
  intro trace app thread job
  have read : ∀ app, Stands (.new notebook) (fun _ => True) app → TextsReadAt notebook app := by
    rintro app ⟨later, thread', _⟩
    exact ⟨later, thread', thread'.run.textsRead⟩
  have visits := job_visits job (fun _ _ => trivial) (fun _ => trivial)
    ⟨trace, thread, fun _ _ => trivial⟩ (owned_new notebook)
  exact visits.mono read fun ended => read ended.1

/-- A code cell is asked for, and before it is run a cell of prose is added and the cell is changed to
another program. -/
theorem texts_read_of_changed_program :
    ∃ before cell, Read ⟨[.new "m" .markdown "# Title", .new "c" .code "NOP"], 0, 0⟩ before ⟨"c", 0⟩
      "HLT" cell ∧ cell.isRunnable = true := by
  have identified : Notebook.Identified
      ⟨[.new "m" .markdown "# Title", .new "c" .code "NOP"], 0, 0⟩ :=
    Notebook.identified_of_short (by decide) (by decide)
  have routed : route "HLT" = .call (.execute "HLT") := rfl
  have run : ∃ crew, Run (.new ⟨[.new "m" .markdown "# Title", .new "c" .code "NOP"], 0, 0⟩)
      (.enqueue ⟨"c", 0⟩ :: ([.edit (.add .markdown none), .edit (.setContent "c" "HLT"), .spawn,
        .dequeue ⟨"c", 0⟩, .begin ⟨"c", 0⟩ "HLT"] ++ [.dispatch ⟨"c", 0⟩ "HLT"])) crew :=
    ⟨_, .cons (.enqueue "c") (.cons (.edit (.add .markdown none))
      (.cons (.edit (.setContent "c" "HLT")) (.cons (.task [] [] .spawn)
        (.cons (.task [] [] (.dequeue rfl)) (.cons (.task [] [] (.begin rfl))
          (.single (.task [] [] (.call routed))))))))⟩
  rcases run with ⟨crew, run⟩
  have keeps : Confined Edit.KeepsKinds [.edit (.add .markdown none),
      .edit (.setContent "c" "HLT"), .spawn, .dequeue ⟨"c", 0⟩, .begin ⟨"c", 0⟩ "HLT"] := by
    intro edit member
    have either : edit = .add .markdown none ∨ edit = .setContent "c" "HLT" := by
      simpa using member
    rcases either with rfl | rfl <;> trivial
  have read := ((texts_read _).1 run).code identified [] ⟨"c", 0⟩ _ "HLT" [] _
    (.new "c" .code "NOP") rfl .nil run rfl rfl keeps
  exact ⟨_, read⟩

/-- A cell of prose is dispatched when it is asked for, and at the prompt its text goes to the
simulator. -/
theorem prose_dispatched :
    (Cell.new "m" .markdown "# Title").isRunnable = false ∧
      (∃ trace crew, OneThread (.new ⟨[.new "m" .markdown "# Title"], 0, 0⟩) trace crew ∧
        .begin ⟨"m", 0⟩ "# Title" ∈ trace ∧ .dispatch ⟨"m", 0⟩ "# Title" ∈ trace ∧
          crew.app.calls = [.execute "# Title"]) ∧
        ∃ waiting next, Prompt.execute
            (Prompt.start (.new ⟨[.new "m" .markdown "# Title"], 0, 0⟩)) (.run 0) =
          .ask (.attend waiting) next ∧ waiting.call = .execute "# Title" := by
  have routed : route "# Title" = .call (.execute "# Title") := rfl
  have thread : ∃ trace crew,
      OneThread (.new ⟨[.new "m" .markdown "# Title"], 0, 0⟩) trace crew ∧
        .begin ⟨"m", 0⟩ "# Title" ∈ trace ∧ .dispatch ⟨"m", 0⟩ "# Title" ∈ trace ∧
          crew.app.calls = [.execute "# Title"] :=
    ⟨[.enqueue ⟨"m", 0⟩, .spawn, .dequeue ⟨"m", 0⟩, .begin ⟨"m", 0⟩ "# Title",
      .dispatch ⟨"m", 0⟩ "# Title"], _,
      .cons (.enqueue "m") (fun _ _ member => absurd member List.not_mem_nil)
      (.cons (.task [] [] .spawn) nofun (.cons (.task [] [] (.dequeue rfl)) nofun
        (.cons (.task [] [] (.begin rfl)) nofun
          (.cons (.task [] [] (.call routed)) nofun .nil)))), by simp, by simp, rfl⟩
  exact ⟨rfl, thread, _, _, rfl, rfl⟩

end Interleaving
end AsmNotebook
