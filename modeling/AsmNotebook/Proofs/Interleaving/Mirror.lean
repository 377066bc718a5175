import AsmNotebook.Proofs.Dispatch
import AsmNotebook.Proofs.Interleaving.Attribution

namespace AsmNotebook
namespace Interleaving

/-!
# The processor is the history of its changes

What is known of the processor changes in two ways: by an action of a caller,
and by the effect that comes with the result of a run.  `Label.acts` lists the
changes that a step asks for, and the processor is the one after power-on with
all changes of the trace made in order.  Runs that were skipped or died ask
for none, and a result that finds its cell gone asks for all the same.

The effect is formed by the router from the answer to the one call of a run.
`Effected` says what it has to be, from the text and that answer alone.
-/

/-- Changes of the processor that a step asks for. -/
def Label.acts : Label → List ProcessorAction
  | processor action => [action]
  | store _ stored _ => (stored.effect.map ProcessorEffect.action).toList
  | _ => []

variable {notebook : Notebook} {crew crew' last : Crew} {label : Label} {trace : List Label}
variable {app app' : App} {stage : Stage} {next : Option Stage}
variable {entry : QueueEntry} {source : String} {dispatch : Dispatch} {outcome : RunOutcome}

theorem Advance.mirror (advance : Advance app stage label app' next) :
    app'.processor = label.acts.foldl Processor.act app.processor := by
  cases advance with
  | leave found =>
    rcases App.take_none found with ⟨queue, rfl, _⟩
    rfl
  | dequeue found =>
    rcases App.take_some found with ⟨rest, _, _, rfl⟩
    rfl
  | pass found =>
    rcases App.begin_none found with ⟨rfl, _⟩
    rfl
  | begin found =>
    rcases App.begin_some found with ⟨begun, _, rfl⟩
    rfl
  | @store entry dispatch =>
    rw [App.store_processor, Label.acts]
    cases dispatch.effect <;> rfl
  | abandon found | abandonIdle found =>
    rcases App.abandon_eq found with ⟨rfl, _⟩
    rfl
  | spawn | reply | call | answer | crash | release | finish | drop | recover | cancel | vanish =>
    rfl

/-- A step makes the changes that it asks for. -/
theorem Step.mirror (step : Step crew label crew') :
    crew'.app.processor = label.acts.foldl Processor.act crew.app.processor := by
  cases step with
  | enqueue cellId =>
    rw [App.enqueue_eq]
    rfl
  | task before after advance => exact advance.mirror
  | edit | processor | announce | consult => rfl

theorem Run.mirror (run : Run crew trace last) :
    last.app.processor = (trace.flatMap Label.acts).foldl Processor.act crew.app.processor := by
  induction run with
  | nil => rfl
  | cons step _ inductionHypothesis =>
    rw [inductionHypothesis, List.flatMap_cons, List.foldl_append, step.mirror]

/-- What the execution of a text should do to the processor, given the answers that it got.  Code
forwards the report that came with its answer, if that has a section, a reset that succeeds resets,
and nothing else has an effect. -/
inductive Effected (entry : QueueEntry) (source : String) :
    List Label → Option ProcessorEffect → Prop
  | forwarded {execution : Simulator.Execution} {update : ProcessorUpdate}
      (code : isCode source = true) (reported : execution.update = some update)
      (nonempty : update.isEmpty = false) :
      Effected entry source [.answer entry (.execute (Text.trim source)) execution]
        (some (.apply update))
  | unreported {execution : Simulator.Execution} (code : isCode source = true)
      (nothing : ∀ update, execution.update = some update → update.isEmpty = true) :
      Effected entry source [.answer entry (.execute (Text.trim source)) execution] none
  | reset {execution : Simulator.Execution} (resets : isReset source = true)
      (succeeded : execution.output.isFailure = false) :
      Effected entry source [.answer entry .reset execution] (some .reset)
  | refused {execution : Simulator.Execution} (resets : isReset source = true)
      (failed : execution.output.isFailure = true) :
      Effected entry source [.answer entry .reset execution] none
  | other {answers : List Label} (command : isCode source = false)
      (harmless : isReset source = false) : Effected entry source answers none

/-- A text and its answers call for one effect. -/
theorem Effected.unique {answers : List Label} {first second : Option ProcessorEffect}
    (one : Effected entry source answers first) (other : Effected entry source answers second) :
    first = second := by
  cases one with
  | forwarded code reported nonempty =>
    cases other with
    | forwarded _ reported' _ => rw [Option.some.inj (reported.symm.trans reported')]
    | unreported _ nothing => cases nonempty.symm.trans (nothing _ reported)
    | other command _ => cases code.symm.trans command
  | unreported code nothing =>
    cases other with
    | forwarded _ reported nonempty => cases nonempty.symm.trans (nothing _ reported)
    | unreported | other => rfl
  | reset resets succeeded =>
    cases other with
    | reset => rfl
    | refused _ failed => cases succeeded.symm.trans failed
    | other _ harmless => cases resets.symm.trans harmless
  | refused resets failed =>
    cases other with
    | reset _ succeeded => cases succeeded.symm.trans failed
    | refused | other => rfl
  | other command harmless =>
    cases other with
    | forwarded code => cases code.symm.trans command
    | reset resets => cases resets.symm.trans harmless
    | unreported | refused | other => rfl

theorem Effected.of_code (code : isCode source = true) (execution : Simulator.Execution) :
    Effected entry source [.answer entry (.execute (Text.trim source)) execution]
      (conclude (.execute (Text.trim source)) execution).effect := by
  cases reported : execution.update with
  | none =>
    have none : (conclude (.execute (Text.trim source)) execution).effect = none := by
      simp [conclude, reported]
    rw [none]
    exact .unreported code (by simp [reported])
  | some update =>
    cases empty : update.isEmpty with
    | true =>
      have none : (conclude (.execute (Text.trim source)) execution).effect = none := by
        simp [conclude, reported, empty]
      rw [none]
      exact .unreported code (by simp [reported, empty])
    | false =>
      have some_update : (conclude (.execute (Text.trim source)) execution).effect =
          some (.apply update) := by
        simp [conclude, reported, empty]
      rw [some_update]
      exact .forwarded code reported empty

theorem Effected.of_reset (resets : isReset source = true) (execution : Simulator.Execution) :
    Effected entry source [.answer entry .reset execution] (conclude .reset execution).effect := by
  cases failed : execution.output.isFailure with
  | true =>
    have none : (conclude .reset execution).effect = none := by simp [conclude, failed]
    rw [none]
    exact .refused resets failed
  | false =>
    have some_reset : (conclude .reset execution).effect = some .reset := by
      simp [conclude, failed]
    rw [some_reset]
    exact .reset resets failed

/-- A text that goes neither to a run of code nor to a reset has no effect. -/
theorem Effected.of_other {route' : Route} {answers : List Label} (routed : route source = route')
    (unrun : ∀ code, route' ≠ .call (.execute code)) (unreset : route' ≠ .call .reset) :
    Effected entry source answers none := by
  refine .other (Bool.eq_false_iff.2 fun code => ?_) (Bool.eq_false_iff.2 fun resets => ?_)
  · exact unrun _ (routed.symm.trans (route_of_code code))
  · exact unreset (routed.symm.trans (route_eq_reset_iff.2 resets))

/-- What the router returns has the effect that it should have. -/
theorem Answered.effected {answers : List Label}
    (answered : Answered entry source dispatch answers) :
    Effected entry source answers dispatch.effect := by
  cases answered with
  | replied routed => exact .of_other routed (fun _ => nofun) nofun
  | @answered call routed answer =>
    cases call with
    | execute code =>
      rcases route_eq_execute_iff.1 routed with ⟨plain, rfl⟩
      exact .of_code plain answer
    | reset => exact .of_reset (route_eq_reset_iff.1 routed) answer
    | assemble | docs | timing | ask => exact .of_other routed (fun _ => nofun) nofun

/-- The text of a stored result and the answers that it came from, by the story of its entry. -/
theorem Run.answered_of_store {before after : List Label}
    (run : Run (.new notebook) (before ++ .store entry dispatch outcome :: after) crew) :
    ∃ source answers, Answered entry source dispatch answers ∧
      story entry before =
        [.enqueue entry, .dequeue entry, .begin entry source, .dispatch entry source] ++
          answers := by
  rcases run.at_label with ⟨middle, _, first, step, _⟩
  have lived := first.told.held _ step.of_store.1 entry (List.mem_singleton_self _)
  exact lived.of_dispatched

/-- Whether the answers to code are those of the client of the simulator. -/
def Label.normalized : Label → Prop
  | answer _ (.execute code) execution => Simulator.Normalized code execution
  | _ => True

theorem Effected.of_isFailure {answers : List Label}
    (answered : Answered entry source dispatch answers)
    (normalized : ∀ label ∈ answers, label.normalized)
    (failed : dispatch.output.isFailure = true) : dispatch.effect = none := by
  cases answered with
  | replied => rfl
  | @answered call routed answer =>
    have formed := normalized _ (List.mem_singleton_self _)
    cases call with
    | execute code =>
      have unreported := Simulator.Normalized.update_of_isFailure formed failed
      simp [conclude, unreported]
    | reset =>
      have refused : (Simulator.Execution.output answer).isFailure = true := failed
      simp [conclude, refused]
    | assemble | docs | timing | ask => rfl

/-- What is known of the processor after a run. -/
structure Mirrored (notebook : Notebook) (trace : List Label) (crew : Crew) : Prop where
  /-- The processor is the one after power-on, changed by the actions of callers and the effects of
  the results stored so far, in order. -/
  history : crew.app.processor = (trace.flatMap Label.acts).foldl Processor.act .powerOn
  /-- The effect of a stored result is the one that its text and the answer to it call for. -/
  effects : ∀ before entry dispatch outcome after,
    trace = before ++ .store entry dispatch outcome :: after →
      ∃ source answers,
        story entry before =
            [.enqueue entry, .dequeue entry, .begin entry source, .dispatch entry source] ++
              answers ∧
          ∀ effect, Effected entry source answers effect ↔ effect = dispatch.effect
  /-- With answers from the client of the simulator, a failure, and a text that is neither code nor
  a reset, leave the processor alone. -/
  untouched : (∀ label ∈ trace, label.normalized) →
    ∀ before entry source dispatch outcome after,
      trace = before ++ .store entry dispatch outcome :: after → .begin entry source ∈ before →
        (dispatch.output.isFailure = true ∨ isCode source = false ∧ isReset source = false) →
          ∀ {middle stored}, Step middle (.store entry dispatch outcome) stored →
            stored.app.processor = middle.app.processor

theorem Run.untouched {before after : List Label}
    (run : Run (.new notebook) (before ++ .store entry dispatch outcome :: after) crew)
    (normalized : ∀ label ∈ before, label.normalized) (began : .begin entry source ∈ before)
    (harmless : dispatch.output.isFailure = true ∨
      isCode source = false ∧ isReset source = false) : dispatch.effect = none := by
  rcases run.answered_of_store with ⟨source', answers, answered, told⟩
  have in_story : ∀ {label : Label}, label ∈ story entry before ↔
      label ∈ before ∧ entry ∈ label.entries := by simp [story]
  rcases harmless with failed | ⟨command, unreset⟩
  · refine Effected.of_isFailure answered (fun label member => ?_) failed
    have within : label ∈ story entry before := told ▸ List.mem_append_right _ member
    exact normalized label (in_story.1 within).1
  · have within : .begin entry source ∈ story entry before :=
      in_story.2 ⟨began, List.mem_singleton_self _⟩
    have same : source = source' := by
      rw [told] at within
      rcases List.mem_append.1 within with own | answer
      · simpa using own
      · rcases answered.of_mem answer with ⟨_, _, none⟩
        cases none
    exact answered.effected.unique (.other (same ▸ command) (same ▸ unreset))

/-- The processor is the history of its changes along every run. -/
theorem processor_mirrors_history (run : Run (.new notebook) trace crew) :
    Mirrored notebook trace crew where
  history := run.mirror
  effects := by
    rintro before entry dispatch outcome after rfl
    rcases run.answered_of_store with ⟨source, answers, answered, told⟩
    refine ⟨source, answers, told, fun effect => ⟨fun effected => ?_, ?_⟩⟩
    · exact effected.unique answered.effected
    · rintro rfl
      exact answered.effected
  untouched := by
    rintro normalized before entry source dispatch outcome after rfl began harmless middle stored
      step
    have formed : ∀ label ∈ before, label.normalized := fun label member =>
      normalized label (List.mem_append_left _ member)
    have none := run.untouched formed began harmless
    rw [step.mirror, Label.acts, none]
    rfl

/-- A run of code whose cell is deleted meanwhile changes the processor all the same, and one whose
request fails, with any client, leaves it alone. -/
theorem processor_mirrors_history_deleted_cell :
    (∃ trace crew, Run (.new ⟨[.new "x" .code "1", .new "y" .code "2"], 0, 0⟩) trace crew ∧
      .edit (.delete "x") ∈ trace ∧ crew.app.notebook.ids = ["y"] ∧
      crew.app.processor.registers = .empty ∧
      Mirrored ⟨[.new "x" .code "1", .new "y" .code "2"], 0, 0⟩ trace crew) ∧
    ∀ (client : Simulator.Client) (fault : Web.TransportFault),
      ∃ before middle dispatch outcome stored,
        Run (.new ⟨[.new "x" .code "1"], 0, 0⟩) before middle ∧
        .answer ⟨"x", 0⟩ (.execute "1") (client.execution "1" (.error fault)) ∈ before ∧
        Step middle (.store ⟨"x", 0⟩ dispatch outcome) stored ∧
        stored.app.processor = middle.app.processor := by
  have routed : route "1" = .call (.execute "1") := rfl
  constructor
  · have run : ∃ trace crew,
        Run (.new ⟨[.new "x" .code "1", .new "y" .code "2"], 0, 0⟩) trace crew ∧
          .edit (.delete "x") ∈ trace ∧ crew.app.notebook.ids = ["y"] ∧
          crew.app.processor.registers = .empty :=
      ⟨_, _, .cons (.processor .clearMemory) (.cons (.enqueue "x") (.cons (.task [] [] .spawn)
        (.cons (.task [] [] (.dequeue rfl)) (.cons (.task [] [] (.begin rfl))
          (.cons (.task [] [] (.call routed)) (.cons (.edit (.delete "x"))
            (.cons (.task [] [] (.answer (show Simulator.Execution from
              ⟨.success "ok", some ⟨some .empty, none, none⟩⟩)))
              (.single (.task [] [] .store))))))))), by simp, rfl, rfl⟩
    rcases run with ⟨trace, crew, run, deleted, ids, registers⟩
    exact ⟨trace, crew, run, deleted, ids, registers, processor_mirrors_history run⟩
  · intro client fault
    have run : ∃ middle, Run (.new ⟨[.new "x" .code "1"], 0, 0⟩)
        [.enqueue ⟨"x", 0⟩, .spawn, .dequeue ⟨"x", 0⟩, .begin ⟨"x", 0⟩ "1",
          .dispatch ⟨"x", 0⟩ "1",
          .answer ⟨"x", 0⟩ (.execute "1") (client.execution "1" (.error fault))] middle ∧
        ∃ outcome stored, Step middle
          (.store ⟨"x", 0⟩ (conclude (.execute "1") (client.execution "1" (.error fault))) outcome)
            stored :=
      ⟨_, .cons (.enqueue "x") (.cons (.task [] [] .spawn) (.cons (.task [] [] (.dequeue rfl))
        (.cons (.task [] [] (.begin rfl)) (.cons (.task [] [] (.call routed))
          (.single (.task [] [] (.answer _))))))), _, _, .task [] [] .store⟩
    rcases run with ⟨middle, run, outcome, stored, store⟩
    have formed := client.execution_normalized "1" (.error fault)
    have mirrored := processor_mirrors_history (run.snoc store)
    have untouched := mirrored.untouched (by simpa [Label.normalized] using formed) _ ⟨"x", 0⟩ "1"
      _ outcome [] rfl (by simp) (Or.inl rfl) store
    exact ⟨_, middle, _, outcome, stored, run, by simp, store, untouched⟩

end Interleaving
end AsmNotebook
