import AsmNotebook.Proofs.Grammar
import AsmNotebook.Proofs.Interleaving.Attribution

namespace AsmNotebook

open Text (AllBlank)

/-- The call that a text leads to, if it leads to one. -/
def Route.call? : Route → Option ServiceCall
  | done _ => none
  | call placed => some placed

namespace Interleaving

/-!
# What a step calls

The journal of calls grows in two ways: a text is dispatched that leads to a
call, or a caller consults the assistant.  An entry is dispatched once at
most, so its run makes one call at most, and it is the one that the grammar of
cells gives for the text.  What is returned for the text is then the output of
the grammar, or is formed from the answer to that call.
-/

/-- Calls that a step makes. -/
def Label.calls : Label → List ServiceCall
  | dispatch _ source => (route source).call?.toList
  | consult question => [.ask question]
  | _ => []

variable {notebook : Notebook} {crew crew' last : Crew} {label : Label} {trace : List Label}
variable {app app' : App} {stage : Stage} {next : Option Stage}
variable {entry : QueueEntry} {source : String} {dispatch : Dispatch}

theorem Advance.calls (advance : Advance app stage label app' next) :
    app'.calls = app.calls ++ label.calls := by
  cases advance with
  | leave found =>
    rcases App.take_none found with ⟨queue, rfl, _⟩
    exact (List.append_nil _).symm
  | dequeue found =>
    rcases App.take_some found with ⟨rest, _, _, rfl⟩
    exact (List.append_nil _).symm
  | pass found =>
    rcases App.begin_none found with ⟨rfl, _⟩
    exact (List.append_nil _).symm
  | begin found =>
    rcases App.begin_some found with ⟨notebook, _, rfl⟩
    exact (List.append_nil _).symm
  | reply routed | call routed =>
    rw [Label.calls, routed]
    simp [Route.call?, App.place, App.recordCall]
  | @store entry dispatch =>
    unfold App.store
    cases dispatch.effect <;> exact (List.append_nil _).symm
  | abandon found | abandonIdle found =>
    rcases App.abandon_eq found with ⟨rfl, _⟩
    exact (List.append_nil _).symm
  | spawn | answer | crash | release | finish | drop | recover | cancel | vanish =>
    exact (List.append_nil _).symm

/-- A step adds its calls to the journal. -/
theorem Step.calls (step : Step crew label crew') :
    crew'.app.calls = crew.app.calls ++ label.calls := by
  cases step with
  | enqueue cellId =>
    rw [App.enqueue_calls]
    exact (List.append_nil _).symm
  | task before after advance => exact advance.calls
  | consult question => rfl
  | edit | processor | announce => exact (List.append_nil _).symm

theorem Run.calls (run : Run crew trace last) :
    last.app.calls = crew.app.calls ++ trace.flatMap Label.calls := by
  induction run with
  | nil => exact (List.append_nil _).symm
  | cons step _ inductionHypothesis =>
    rw [inductionHypothesis, step.calls, List.flatMap_cons, List.append_assoc]

/-- A text is dispatched by the task that has it. -/
theorem Step.of_dispatch (step : Step crew (.dispatch entry source) crew') :
    .begun entry source ∈ crew.tasks := by
  cases step with
  | task before after advance => cases advance <;> simp

/-- The calls of the run of an entry. -/
def callsFor (entry : QueueEntry) (trace : List Label) : List ServiceCall :=
  (story entry trace).flatMap Label.calls

theorem callsFor_snoc_of_silent (silent : entry ∈ label.entries → label.calls = []) :
    callsFor entry (trace ++ [label]) = callsFor entry trace := by
  unfold callsFor
  by_cases concerned : entry ∈ label.entries
  · rw [story_snoc_of_mem concerned, List.flatMap_append]
    simp [silent concerned]
  · rw [story_snoc_of_not_mem concerned]

/-- No run makes more than one call. -/
theorem Run.callsFor_length_le (run : Run (.new notebook) trace last) (entry : QueueEntry) :
    (callsFor entry trace).length ≤ 1 := by
  refine @Run.history _ _ _ (fun _ past => (callsFor entry past).length ≤ 1) run (Nat.zero_le 1) ?_
  intro middle next label before reached step once
  cases label with
  | dispatch entry' source =>
    by_cases concerned : entry = entry'
    · -- Nothing was called before, since its story has only come to the beginning.
      subst concerned
      have holds := reached.told.held _ step.of_dispatch entry (List.mem_singleton_self _)
      unfold callsFor
      rw [story_snoc_of_mem (List.mem_singleton_self _), holds.of_begun]
      cases route source <;> simp [Label.calls, Route.call?]
    · rw [callsFor_snoc_of_silent]
      · exact once
      · intro member
        exact absurd (List.mem_singleton.1 member) concerned
  | consult =>
    rw [callsFor_snoc_of_silent fun member => absurd member List.not_mem_nil]
    exact once
  | _ =>
    rw [callsFor_snoc_of_silent fun _ => rfl]
    exact once

theorem Answered.calls {answers : List Label} (answered : Answered entry source dispatch answers) :
    answers.flatMap Label.calls = [] := by
  cases answered <;> rfl

/-- What is returned has an effect only by its answer. -/
theorem Answered.effect_iff {answers : List Label} {effect : ProcessorEffect}
    (answered : Answered entry source dispatch answers) :
    dispatch.effect = some effect ↔
      ∃ call answer, route source = .call call ∧ answers = [.answer entry call answer] ∧
        Effective call answer effect := by
  cases answered with
  | replied =>
    constructor
    · intro effected
      cases effected
    · rintro ⟨_, _, -, none, -⟩
      cases none
  | @answered call routed answer =>
    rw [conclude_effect_iff]
    constructor
    · intro effective
      exact ⟨call, answer, routed, rfl, effective⟩
    · rintro ⟨call', answer', -, same, effective⟩
      cases same
      exact effective

/-- Everything that is said of a content by the grammar of cells. -/
structure FollowsGrammar (content : String) : Prop where
  /-- The trimmed text splits in exactly one way. -/
  splits : ∃! parts : List Char × List Char × List Char,
    Command.Splits (Text.trimChars content.toList) parts.1 parts.2.1 parts.2.2
  /-- The text leads where the grammar says, and nowhere else. -/
  leads : ∀ route', Leads (Text.trimChars content.toList) route' ↔ route content = route'
  /-- White space around it can be exchanged. -/
  outer : ∀ {front core back front' back'}, AllBlank front → AllBlank back →
    AllBlank front' → AllBlank back' → content = String.ofList (front ++ core ++ back) →
      route (String.ofList (front' ++ core ++ back')) = route content
  /-- The white space behind the name of a command can be exchanged for other white space. -/
  gap : ∀ {name gap argument gap'}, (Text.trimChars content.toList).head? = some '@' →
    Command.Splits (Text.trimChars content.toList) name gap argument → AllBlank gap' →
      gap' ≠ [] → route (String.ofList (name ++ gap' ++ argument)) = route content
  /-- The journal of calls holds what the steps call for. -/
  journal : ∀ {crew last trace}, Run crew trace last →
    last.app.calls = crew.app.calls ++ trace.flatMap Label.calls
  /-- No run makes more than one call. -/
  once : ∀ {notebook trace last}, Run (.new notebook) trace last → ∀ entry,
    (callsFor entry trace).length ≤ 1
  /-- What is returned for the text is the output that it leads to, or is formed from the answer to
  the one call that it leads to. -/
  dispatched : ∀ {notebook past meanwhile begun atStore entry dispatch},
    Run (.new notebook) (past ++ [.begin entry content]) begun → .begun entry content ∈ begun.tasks →
      Run begun meanwhile atStore → .dispatched entry dispatch ∈ atStore.tasks →
        callsFor entry meanwhile = (route content).call?.toList ∧
          ∃ answers, Answered entry content dispatch answers ∧
            story entry meanwhile = .dispatch entry content :: answers
  /-- It has an effect exactly if the answer is one that has. -/
  effect : ∀ {entry dispatch answers effect}, Answered entry content dispatch answers →
    (dispatch.effect = some effect ↔
      ∃ call answer, route content = .call call ∧ answers = [.answer entry call answer] ∧
        Effective call answer effect)

/-- Every content is routed as the grammar of cells says. -/
theorem grammar_followed (content : String) : FollowsGrammar content := by
  refine
    { splits := ?_
      leads := fun _ => leads_iff
      outer := ?_
      gap := fun marked splits blank filled => route_of_gap marked splits blank filled
      journal := Run.calls
      once := Run.callsFor_length_le
      dispatched := ?_
      effect := Answered.effect_iff }
  · have splits := Command.splits_of_trimmed (Text.trimmed_trimChars content.toList).end
    refine ⟨(_, _, _), splits, ?_⟩
    rintro ⟨name, gap, argument⟩ splits'
    rcases splits'.unique splits with ⟨rfl, rfl, rfl⟩
    rfl
  · rintro front core back front' back' blank blank' blank'' blank''' rfl
    rw [route_append blank'' blank''', route_append blank blank']
  · intro notebook past meanwhile begun atStore entry dispatch reached atWork during holds
    rcases reached.dispatched during atWork holds with ⟨answers, answered, told⟩
    refine ⟨?_, answers, answered, told⟩
    rw [callsFor, told, List.flatMap_cons, answered.calls, List.append_nil]
    rfl

end Interleaving
end AsmNotebook
