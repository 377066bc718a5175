import AsmNotebook.Proofs.Interleaving.Attribution
import AsmNotebook.Proofs.Interleaving.Turns
import AsmNotebook.Proofs.Notebook.Kept

namespace AsmNotebook

/-!
# Where an explanation goes

To explain a failure is to read it, to wait for the assistant, and to attach
what the assistant said to the failure that the cell shows by then.  Nothing
is compared in between.  So the explanation belongs to the failure that it was
asked for exactly as long as no step renews the output of the cell: a run of
the cell that begins or stores its result, a change of the output by a caller,
or outputs being cleared.

`Label.renewal?` lists these steps.  All other steps, to attach another
explanation among them, leave the failure of a cell as it is up to its
explanation.

`Explaining` says what a caller does who has a failure explained, with any
steps of other tasks in between, and `explain_ends` that the application does
just this, whether the assistant answers at once or leaves the loop any number
of turns.
-/

/-- A failure without what was said about it: its kind, title, message and detail. -/
def Failure.bare (failure : Failure) : Failure :=
  { failure with explanation := none }

/-- An output without what was said about it. -/
def Output.bare : Output → Output
  | .failure told => .failure told.bare
  | output => output

theorem Output.bare_eq_failure {output : Output} {failure : Failure}
    (same : output.bare = .failure failure) :
    ∃ original, output = .failure original ∧ original.bare = failure := by
  cases output with
  | failure original =>
    cases same
    exact ⟨original, rfl, rfl⟩
  | success | warning | answer | documentation | timing | listing | help => cases same

theorem Notebook.explained_bare (explanation : String) (cell : Cell) :
    (explained explanation cell).output.map Output.bare = cell.output.map Output.bare := by
  unfold explained
  split
  · next failure shown =>
    rw [shown]
    rfl
  · rfl

namespace Interleaving

/-- What a step puts in the place of the output of a cell, if it renews it. -/
def Label.renewal? (cellId : String) : Label → Option (Option Output)
  | .begin entry _ => if entry.cellId = cellId then some none else none
  | .store entry stored _ => if entry.cellId = cellId then some (some stored.output) else none
  | .edit (.update id change) => if id = cellId then change.output else none
  | .edit .clearOutputs => some none
  | _ => none

variable {crew crew' last : Crew} {label : Label} {trace : List Label}
variable {app app' : App} {stage : Stage} {next : Option Stage}
variable {notebook : Notebook} {cellId : String} {cell after : Cell}

/-- Across a step, the output of a cell is renewed by it or stays, but for explanations. -/
def Renewed (label : Label) (before after : Cell) : Prop :=
  after.output.map Output.bare = ((label.renewal? before.id).getD before.output).map Output.bare

/-- A change of one cell renews its output, or that of none, if this is what the label says. -/
theorem renewed_of_modify {id : String} {f : Cell → Cell} {output : Option (Option Output)}
    (before : notebook.find? cellId = some cell)
    (found : (notebook.modify id f).find? cellId = some after)
    (renews : ∀ other, label.renewal? other = if id = other then output else none)
    (keeps : ∀ cell, (f cell).id = cell.id)
    (writes : ∀ cell : Cell, (f cell).output.map Output.bare =
      (output.getD cell.output).map Output.bare) : Renewed label cell after := by
  rw [Notebook.find?_modify id cellId keeps, before] at found
  rw [Renewed, renews]
  by_cases named : cell.id = id
  · have same : f cell = after := by simpa [named] using found
    rw [if_pos named.symm, ← same]
    exact writes cell
  · have same : cell = after := by simpa [named] using found
    rw [if_neg (Ne.symm named), same]
    rfl

theorem Renewed.of_same (other : label.renewal? cell.id = none) (same : after = cell) :
    Renewed label cell after := by
  rw [Renewed, other, same]
  rfl

theorem renewed_edit (identified : notebook.Identified) (edit : Edit)
    (before : notebook.find? cellId = some cell)
    (found : (notebook.edit edit).1.find? cellId = some after) :
    Renewed (.edit edit) cell after := by
  have identified' := identified.supplied (Notebook.edit_supplied notebook edit)
  cases edit with
  | add kind position =>
    exact .of_same rfl ((Notebook.add_keeps kind position notebook).same_cell identified identified'
      before found)
  | delete id =>
    exact .of_same rfl ((Notebook.delete_keeps id notebook).same_cell identified identified'
      before found)
  | clear =>
    exact .of_same rfl ((Notebook.clear_keeps notebook).same_cell identified identified'
      before found)
  | importCells entries =>
    exact .of_same rfl ((Notebook.importCells_keeps entries notebook).same_cell identified
      identified' before found)
  | importText text =>
    exact .of_same rfl ((Notebook.importText_keeps text notebook).same_cell identified identified'
      before found)
  | setContent id content =>
    exact renewed_of_modify before found (fun _ => (ite_self _).symm) (fun _ => rfl) (fun _ => rfl)
  | update id change =>
    exact renewed_of_modify before found (fun _ => rfl) (fun _ => rfl) (fun _ => rfl)
  | attach id explanation =>
    exact renewed_of_modify before found (fun _ => (ite_self _).symm)
      (Notebook.explained_id explanation) (Notebook.explained_bare explanation)
  | clearOutputs =>
    have cleared : (notebook.clearOutputs).find? cellId =
        (notebook.find? cellId).map fun cell => { cell with output := none } := List.find?_map
    rw [Notebook.edit, cleared, before] at found
    cases found
    rfl

theorem Advance.renewed (advance : Advance app stage label app' next)
    (identified : app.notebook.Identified) (before : app.notebook.find? cellId = some cell)
    (found : app'.notebook.find? cellId = some after) : Renewed label cell after := by
  cases advance with
  | leave gone =>
    rcases App.take_none gone with ⟨queue, rfl, _⟩
    exact .of_same rfl (Option.some.inj (found.symm.trans before))
  | dequeue taken =>
    rcases App.take_some taken with ⟨rest, _, _, rfl⟩
    exact .of_same rfl (Option.some.inj (found.symm.trans before))
  | pass passed =>
    rcases App.begin_none passed with ⟨rfl, _⟩
    exact .of_same rfl (Option.some.inj (found.symm.trans before))
  | begin started =>
    rcases App.begin_some started with ⟨begun, same, rfl⟩
    rcases Notebook.begin?_eq_some same with ⟨_, _, _, _, rfl⟩
    exact renewed_of_modify before found (fun _ => rfl) (fun _ => rfl) (fun _ => rfl)
  | store =>
    rw [App.store_notebook] at found
    exact renewed_of_modify before found (fun _ => rfl) (fun _ => rfl) (fun _ => rfl)
  | abandon given | abandonIdle given =>
    rcases App.abandon_eq given with ⟨rfl, _⟩
    exact .of_same rfl (Option.some.inj (found.symm.trans before))
  | recover =>
    exact renewed_of_modify before found (fun _ => (ite_self _).symm) (fun _ => rfl) (fun _ => rfl)
  | spawn | reply | call | answer | crash | release | finish | drop | cancel | vanish =>
    exact .of_same rfl (Option.some.inj (found.symm.trans before))

/-- A step renews the output of a cell by what its label says, or leaves it as it is but for
explanations. -/
theorem Step.renewed (step : Step crew label crew') (identified : crew.app.notebook.Identified)
    (before : crew.app.notebook.find? cellId = some cell)
    (found : crew'.app.notebook.find? cellId = some after) : Renewed label cell after := by
  cases step with
  | enqueue cellId =>
    rw [App.enqueue_notebook] at found
    exact .of_same rfl (Option.some.inj (found.symm.trans before))
  | edit edit => exact renewed_edit identified edit before found
  | task front back advance => exact advance.renewed identified before found
  | processor | announce | consult =>
    exact .of_same rfl (Option.some.inj (found.symm.trans before))

/-- While no step renews the output of a cell, it stays as it is but for explanations. -/
theorem Run.kept_output (run : Run crew trace last) (identified : crew.app.notebook.Identified)
    (before : crew.app.notebook.find? cellId = some cell)
    (found : last.app.notebook.find? cellId = some after)
    (quiet : ∀ label ∈ trace, label.renewal? cellId = none) :
    after.output.map Output.bare = cell.output.map Output.bare := by
  induction run generalizing cell with
  | nil => rw [Option.some.inj (found.symm.trans before)]
  | @cons crew next last label trace step rest inductionHypothesis =>
    have identified' := identified.supplied step.supplied
    have still : cellId ∈ next.app.notebook.ids :=
      (Run.single step).kept rest identified (Notebook.mem_ids_of_find? before)
        (Notebook.mem_ids_of_find? found)
    rcases Notebook.exists_find? still with ⟨between, there⟩
    have first := step.renewed identified before there
    rw [Renewed, Notebook.id_of_find? before, quiet label List.mem_cons_self] at first
    rw [inductionHypothesis identified' there found fun label member =>
      quiet label (List.mem_cons_of_mem _ member)]
    exact first

/-- The last step of a run that renews the output of a cell decides what it is, but for
explanations. -/
theorem Run.renewed_output {before later : List Label} {output : Option Output}
    (run : Run crew (before ++ label :: later) last)
    (identified : crew.app.notebook.Identified) (there : cellId ∈ crew.app.notebook.ids)
    (found : last.app.notebook.find? cellId = some after)
    (renewal : label.renewal? cellId = some output)
    (quiet : ∀ label ∈ later, label.renewal? cellId = none) :
    after.output.map Output.bare = output.map Output.bare := by
  rcases run.at_label with ⟨middle, next, first, step, rest⟩
  have identified' := first.identified identified
  have used := Notebook.mem_ids_of_find? found
  rcases Notebook.exists_find? (first.kept (.cons step rest) identified there used) with
    ⟨cell, present⟩
  rcases Notebook.exists_find? ((first.snoc step).kept rest identified there used) with
    ⟨between, present'⟩
  have renewed := step.renewed identified' present present'
  rw [Renewed, Notebook.id_of_find? present, renewal] at renewed
  rw [rest.kept_output (identified'.supplied step.supplied) present' found quiet]
  exact renewed

theorem failed?_eq_some_iff {code : String} {failure : Failure} :
    app.failed? cellId = some (code, failure) ↔
      ∃ cell, app.notebook.find? cellId = some cell ∧ cell.output = some (.failure failure) ∧
        cell.content = code := by
  unfold App.failed?
  cases app.notebook.find? cellId with
  | none => simp
  | some cell =>
    cases shown : cell.output with
    | none => simp [shown]
    | some output => cases output <;> simp [shown, Output.failure?, and_comm]

/-- An explanation goes to the failure that the cell shows, -/
theorem failed?_attach {code : String} {failure : Failure}
    (failed : app.failed? cellId = some (code, failure)) (text : String) :
    (app.edit (.attach cellId text)).1.failed? cellId =
      some (code, { failure with explanation := some text }) := by
  rcases failed?_eq_some_iff.1 failed with ⟨cell, there, shown, content⟩
  have found := Notebook.find?_modify cellId cellId (Notebook.explained_id text) app.notebook
  rw [there, Option.map_some, if_pos (Notebook.id_of_find? there)] at found
  refine failed?_eq_some_iff.2 ⟨Notebook.explained text cell, found, ?_, ?_⟩
  · simp [Notebook.explained, shown]
  · simpa [Notebook.explained, shown] using content

/-- nowhere if it shows none, -/
theorem notebook_attach_of_none (none : app.failed? cellId = none) (text : String) :
    (app.edit (.attach cellId text)).1.notebook = app.notebook := by
  apply Notebook.modify_eq_self
  intro cell there
  unfold Notebook.explained
  split
  · next failure shown =>
    have failed := failed?_eq_some_iff.2 ⟨cell, there, shown, rfl⟩
    cases failed.symm.trans none
  · rfl

/-- and to no other cell. -/
theorem find?_attach_of_ne {other : String} (different : other ≠ cellId) (text : String) :
    (app.edit (.attach cellId text)).1.notebook.find? other = app.notebook.find? other := by
  have found := Notebook.find?_modify cellId other (Notebook.explained_id text) app.notebook
  refine found.trans ?_
  cases there : app.notebook.find? other with
  | none => rfl
  | some cell =>
    simp [Notebook.id_of_find? there, different]

/-- While no step renews the output of a cell, the failure that it shows stays the one that was
read. -/
theorem Run.kept_failure {code code' : String} {failure found : Failure}
    (run : Run crew trace last) (identified : crew.app.notebook.Identified)
    (reads : crew.app.failed? cellId = some (code, failure))
    (failed : last.app.failed? cellId = some (code', found))
    (quiet : ∀ label ∈ trace, label.renewal? cellId = none) : found.bare = failure.bare := by
  rcases failed?_eq_some_iff.1 reads with ⟨cell, there, shown, _⟩
  rcases failed?_eq_some_iff.1 failed with ⟨after, present, output, _⟩
  have kept := run.kept_output identified there present quiet
  rw [output, shown] at kept
  exact Output.failure.inj (Option.some.inj kept)

/-- A failure that a cell shows is the one that the last renewal of its output put in place. -/
theorem Run.renewed_failure {before later : List Label} {output : Option Output} {code : String}
    {found : Failure} (run : Run crew (before ++ label :: later) last)
    (identified : crew.app.notebook.Identified) (there : cellId ∈ crew.app.notebook.ids)
    (failed : last.app.failed? cellId = some (code, found))
    (renewal : label.renewal? cellId = some output)
    (quiet : ∀ label ∈ later, label.renewal? cellId = none) :
    ∃ other, output = some (.failure other) ∧ other.bare = found.bare := by
  rcases failed?_eq_some_iff.1 failed with ⟨after, present, shown, _⟩
  have renewed := run.renewed_output identified there present renewal quiet
  rw [shown] at renewed
  rcases Option.map_eq_some_iff.1 renewed.symm with ⟨other, rfl, bare⟩
  rcases Output.bare_eq_failure bare with ⟨original, rfl, same⟩
  exact ⟨original, rfl, same⟩

/-- What a caller does who has a failure explained.  It reads the failure of a cell and the text,
asks the assistant with a prompt that is built of these, and attaches what the assistant said. -/
structure Explaining (cellId code : String) (failure : Failure) (text : String) (atRead : Crew)
    (meanwhile : List Label) (answered explained : Crew) : Prop where
  reads : atRead.app.failed? cellId = some (code, failure)
  during : Run atRead meanwhile answered
  asks : .consult (explanationPrompt code failure) ∈ meanwhile
  attaches : Step answered (.edit (.attach cellId text)) explained

/-- To have the application explain a failure is to take these steps, unless there is no failure or
the assistant has nothing to say. -/
theorem explain_ends (owned : Owned (.solo app)) (cellId : String) :
    (app.explain cellId).Ends fun ended =>
      (∃ trace, Run (.solo app) trace (.solo ended.1)) ∧
        ∀ text, ended.2 = .ok text → ∃ code failure meanwhile answered,
          Explaining cellId code failure text (.solo app) meanwhile answered (.solo ended.1) := by
  unfold App.explain
  split
  · exact ⟨⟨[], .nil⟩, fun _ => nofun⟩
  · next code failure reads =>
    have asked : Run (.solo app) [.consult (explanationPrompt code failure)]
        (.solo (app.recordCall (.ask (explanationPrompt code failure))).1) :=
      .single (.consult _)
    intro attendance
    rw [Dialogue.ends_bind]
    refine (takeTurns_ends (owned.run asked) attendance.turns).mono ?_
    rintro turned ⟨turns, taken⟩
    have before := asked.append taken
    rcases attend_run (owned.run before) attendance.meanwhile with ⟨others, attended⟩
    have during := before.append attended
    dsimp only
    split
    · exact ⟨⟨_, during⟩, fun _ => nofun⟩
    · exact ⟨⟨_, during⟩, fun _ => nofun⟩
    · next text _ =>
      have attaches : Step (.solo (turned.attend attendance.meanwhile))
          (.edit (.attach cellId text))
          (.solo ((turned.attend attendance.meanwhile).edit (.attach cellId text)).1) := .edit _
      refine ⟨⟨_, during.snoc attaches⟩, fun said same => ?_⟩
      cases same
      exact ⟨code, failure, _, _, reads, during, by simp, attaches⟩

/-- Where an explanation goes. -/
structure Explained (cellId : String) (failure : Failure) (text : String) (meanwhile : List Label)
    (answered explained : Crew) : Prop where
  /-- It goes to the failure that the cell shows by then, -/
  written : ∀ code found, answered.app.failed? cellId = some (code, found) →
    explained.app.failed? cellId = some (code, { found with explanation := some text })
  /-- nowhere if the cell shows none, -/
  unwritten : answered.app.failed? cellId = none →
    explained.app.notebook = answered.app.notebook
  /-- and to no other cell. -/
  alone : ∀ other, other ≠ cellId →
    explained.app.notebook.find? other = answered.app.notebook.find? other
  /-- This is the failure that was read, if no step renewed the output of the cell. -/
  same : (∀ label ∈ meanwhile, label.renewal? cellId = none) →
    ∀ code found, answered.app.failed? cellId = some (code, found) → found.bare = failure.bare
  /-- Otherwise it is the one that the last of these steps put in place. -/
  renewed : ∀ before label later output, meanwhile = before ++ label :: later →
    label.renewal? cellId = some output → (∀ label ∈ later, label.renewal? cellId = none) →
      ∀ code found, answered.app.failed? cellId = some (code, found) →
        ∃ other, output = some (.failure other) ∧ other.bare = found.bare

theorem Explaining.explained {code : String} {failure : Failure} {text : String}
    {atRead answered explained : Crew} {meanwhile : List Label}
    (explaining : Explaining cellId code failure text atRead meanwhile answered explained)
    (identified : atRead.app.notebook.Identified) :
    Explained cellId failure text meanwhile answered explained := by
  rcases explaining with ⟨reads, during, _, attaches⟩
  have attached : explained.app = (answered.app.edit (.attach cellId text)).1 := by
    cases attaches with
    | edit => rfl
    | task before after advance => cases advance
  refine
    { written := ?_
      unwritten := ?_
      alone := ?_
      same := ?_
      renewed := ?_ }
  · intro code found failed
    rw [attached]
    exact failed?_attach failed text
  · intro none
    rw [attached]
    exact notebook_attach_of_none none text
  · intro other different
    rw [attached]
    exact find?_attach_of_ne different text
  · intro quiet code found failed
    exact during.kept_failure identified reads failed quiet
  · rintro before label later output rfl renewal quiet code found failed
    rcases failed?_eq_some_iff.1 reads with ⟨cell, there, _⟩
    exact during.renewed_failure identified (Notebook.mem_ids_of_find? there) failed renewal quiet

/-- An explanation goes to the failure that the last renewal of the cell's output left, and to the
one that it was asked for only if there was none.  This is so whatever other tasks do between the
question and the answer, and the application attaches explanations in no other way. -/
theorem explanation_follows_renewals {atRead : Crew}
    (identified : atRead.app.notebook.Identified) (cellId : String) :
    (∀ {code failure text meanwhile answered explained},
        Explaining cellId code failure text atRead meanwhile answered explained →
          Explained cellId failure text meanwhile answered explained) ∧
      ∀ app, atRead = .solo app → Owned atRead →
        (app.explain cellId).Ends fun ended =>
          (∃ trace, Run atRead trace (.solo ended.1)) ∧
            ∀ text, ended.2 = .ok text → ∃ code failure meanwhile answered,
              Explaining cellId code failure text atRead meanwhile answered (.solo ended.1) ∧
                Explained cellId failure text meanwhile answered (.solo ended.1) := by
  refine ⟨fun explaining => explaining.explained identified, ?_⟩
  rintro app rfl owned
  refine (explain_ends owned cellId).mono ?_
  rintro ended ⟨reached, told⟩
  refine ⟨reached, fun text said => ?_⟩
  rcases told text said with ⟨code, failure, meanwhile, answered, explaining⟩
  exact ⟨code, failure, meanwhile, answered, explaining, explaining.explained identified⟩

/-- A cell whose text names no command, with a failure of an earlier text. -/
def misnamed : Notebook where
  cells := [{ Cell.new "x" .code "@bogus" with output := some (.fail .domain none "bad" none) }]
  executionCount := 0
  nextId := 0

/-- The application in which a run of that cell is queued. -/
def misnamedQueued : App :=
  ((App.new misnamed).enqueue "x").1

theorem misnamed_identified : Notebook.Identified misnamed :=
  Notebook.identified_of_short (by decide) (by decide)

theorem misnamedQueued_owned : Owned (.solo misnamedQueued) := by
  have blank : Owned (.solo (.new misnamed)) := owned_new misnamed
  rcases enqueue_run blank "x" with ⟨_, _, queued⟩
  exact blank.run queued

/-- The cell is run while the assistant is asked, and the explanation of the first failure goes
where the run left the second one. -/
theorem explanation_follows_renewals_of_run :
    Notebook.Identified misnamedQueued.notebook ∧ Owned (.solo misnamedQueued) ∧
      ∃ code failure meanwhile answered explained,
        Explaining "x" code failure "because" (.solo misnamedQueued) meanwhile answered explained ∧
          Explained "x" failure "because" meanwhile answered explained := by
  have identified : (Crew.solo misnamedQueued).app.notebook.Identified := misnamed_identified
  have follows := explanation_follows_renewals identified "x"
  have ended := follows.2 misnamedQueued rfl misnamedQueued_owned
    { turns := [[]], meanwhile := [], answer := some (.ok "because") }
  rcases ended.2 "because" rfl with ⟨code, failure, meanwhile, answered, explaining, _⟩
  exact ⟨identified, misnamedQueued_owned, code, failure, meanwhile, answered, _, explaining,
    follows.1 explaining⟩

/-- A world in which the loop takes a turn before the assistant answers. -/
def slowAssistant (errands : (errand : Errand) → errand.Reply) :
    Unit → (query : Query) → Unit × query.Reply
  | (), .attend ⟨_, _, .ask _⟩ =>
    ((), { turns := [[]], meanwhile := [], answer := some (.ok "because") })
  | (), .attend _ => ((), .undisturbed none)
  | (), .errand errand => ((), errands errand)

/-- So an explanation may be attached to a failure that it was not asked for. -/
theorem explanation_of_another_failure : ∃ failure explained found,
    misnamedQueued.failed? "x" = some ("@bogus", failure) ∧
      (∀ errands, Dialogue.run (slowAssistant errands) () (misnamedQueued.explain "x") =
        ((), explained, .ok "because")) ∧
      explained.calls = [.ask (explanationPrompt "@bogus" failure)] ∧
      explained.failed? "x" = some ("@bogus", found) ∧ found.explanation = some "because" ∧
      found.bare ≠ failure.bare := by
  refine ⟨_, _, _, rfl, fun _ => rfl, rfl, rfl, rfl, ?_⟩
  intro same
  have kinds : FailureKind.unknownCommand = .domain := congrArg (fun bare => bare.kind) same
  cases kinds

end Interleaving
end AsmNotebook
