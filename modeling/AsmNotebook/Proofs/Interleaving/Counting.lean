import AsmNotebook.Proofs.Interleaving.Attribution
import AsmNotebook.Proofs.Interleaving.News
import AsmNotebook.Proofs.Notebook.Numbering
import Mathlib.Data.List.DropRight

namespace AsmNotebook
namespace Interleaving

/-!
# The count of executions

The count of a notebook is a number in the notebook, changed in one place and
given up in others.  `tally` says what it should be, from the steps alone: the
completions since the count was started over last, added to the first count
where it never was.  One step changes both in the same way, wherever the
start falls, also between the begin of an execution and its completion.

The count has 32 bits.  What is said here is said of runs along which the
tally stays below that.
-/

namespace Label

/-- Whether a step completes an execution. -/
def completes : Label → Bool
  | store _ _ _ => true
  | _ => false

/-- Whether a step starts the count over. -/
def restarts : Label → Bool
  | edit e => e.restarts
  | _ => false

/-- Whether a step sets the count of a cell by hand. -/
def setsCount : Label → Bool
  | edit e => e.setsCount
  | _ => false

end Label

/-- Completed executions since the count was started over, and the first count where it was not. -/
def tally (first : Nat) (trace : List Label) : Nat :=
  (if trace.any Label.restarts then 0 else first) +
    (trace.rtakeWhile fun label => !label.restarts).countP Label.completes

theorem tally_nil (first : Nat) : tally first [] = first :=
  rfl

theorem tally_snoc_of_restarts {label : Label} (restarts : label.restarts = true) (first : Nat)
    (trace : List Label) : tally first (trace ++ [label]) = 0 := by
  simp [tally, restarts]

theorem tally_snoc_of_not_restarts {label : Label} (stays : label.restarts = false) (first : Nat)
    (trace : List Label) :
    tally first (trace ++ [label]) = tally first trace + if label.completes then 1 else 0 := by
  simp only [tally, List.any_append, List.any_cons, stays, List.any_nil, Bool.or_false,
    List.rtakeWhile_concat, Bool.not_false, if_true, List.countP_append, List.countP_singleton]
  omega

variable {notebook : Notebook} {crew crew' last : Crew} {label : Label} {trace : List Label}
variable {app app' : App} {stage : Stage} {next : Option Stage}

theorem Advance.executionCount (advance : Advance app stage label app' next) :
    label.restarts = false ∧
      app'.notebook.executionCount =
        if label.completes then app.notebook.executionCount + 1
        else app.notebook.executionCount := by
  cases advance with
  | leave found =>
    rcases App.take_none found with ⟨queue, rfl, _⟩
    exact ⟨rfl, rfl⟩
  | dequeue found =>
    rcases App.take_some found with ⟨rest, _, _, rfl⟩
    exact ⟨rfl, rfl⟩
  | pass found =>
    rcases App.begin_none found with ⟨rfl, _⟩
    exact ⟨rfl, rfl⟩
  | begin found =>
    rcases App.begin_some found with ⟨begun, same, rfl⟩
    rcases Notebook.begin?_eq_some same with ⟨_, _, _, _, rfl⟩
    exact ⟨rfl, rfl⟩
  | store =>
    rw [App.store_notebook]
    exact ⟨rfl, rfl⟩
  | abandon found | abandonIdle found =>
    rcases App.abandon_eq found with ⟨rfl, _⟩
    exact ⟨rfl, rfl⟩
  | spawn | reply | call | answer | crash | release | finish | drop | recover | cancel | vanish =>
    exact ⟨rfl, rfl⟩

/-- A step starts the count over, advances it by one, or leaves it. -/
theorem Step.executionCount (step : Step crew label crew') :
    crew'.app.notebook.executionCount =
      if label.restarts then 0
      else if label.completes then crew.app.notebook.executionCount + 1
      else crew.app.notebook.executionCount := by
  cases step with
  | enqueue cellId =>
    rw [App.enqueue_eq]
    rfl
  | edit edit => exact Notebook.executionCount_edit _ edit
  | task before after advance =>
    rcases advance.executionCount with ⟨stays, same⟩
    rw [stays]
    exact same
  | processor | announce | consult => rfl

/-- The count is what the steps make it, up to its 32 bits. -/
theorem Run.executionCount (run : Run (.new notebook) trace crew) :
    crew.app.notebook.executionCount =
      UInt32.ofNat (tally notebook.executionCount.toNat trace) := by
  apply run.history
  · rw [tally_nil, UInt32.ofNat_toNat]
    rfl
  · intro middle next label before _ step same
    rw [step.executionCount, same]
    cases restarts : label.restarts with
    | true =>
      rw [tally_snoc_of_restarts restarts]
      rfl
    | false =>
      rw [tally_snoc_of_not_restarts restarts]
      cases label.completes with
      | true => exact (UInt32.ofNat_add _ _).symm
      | false => rfl

/-- No more is counted than the first count and one for each step. -/
theorem tally_le (first : Nat) (trace : List Label) : tally first trace ≤ first + trace.length := by
  have counted := List.countP_le_length (p := Label.completes)
    (l := trace.rtakeWhile fun label => !label.restarts)
  have shorter := (List.rtakeWhile_suffix (fun label => !Label.restarts label) trace).length_le
  unfold tally
  split <;> omega

/-- Along a run the tally stays within the 32 bits of the count. -/
def Bounded (first : Nat) (trace : List Label) : Prop :=
  ∀ before, before <+: trace → tally first before < UInt32.size

theorem Bounded.of_append {first : Nat} {before after : List Label}
    (bounded : Bounded first (before ++ after)) : Bounded first before := fun early early_le =>
  bounded early (early_le.trans (List.prefix_append _ _))

theorem bounded_of_short {first : Nat} (short : first + trace.length < UInt32.size) :
    Bounded first trace := by
  intro before early
  have counted := tally_le first before
  have shorter := early.length_le
  omega

theorem Run.executionCount_toNat (run : Run (.new notebook) trace crew)
    (bounded : Bounded notebook.executionCount.toNat trace) :
    crew.app.notebook.executionCount.toNat = tally notebook.executionCount.toNat trace := by
  rw [run.executionCount]
  exact UInt32.toNat_ofNat_of_lt' (bounded trace (List.prefix_refl trace))

theorem Advance.numbered (advance : Advance app stage label app' next)
    (numbered : app.notebook.Numbered)
    (room : label.completes = true → app.notebook.executionCount.toNat + 1 < UInt32.size) :
    app'.notebook.Numbered := by
  rcases advance.notebook_cases with
    same | ⟨_, _, _, begun⟩ | ⟨_, _, _, rfl, stored⟩ | ⟨cellId, _, recovered⟩
  · exact same ▸ numbered
  · exact numbered.renumbered (Notebook.begin_renumbered begun)
  · exact stored ▸ numbered.complete (room rfl) _ _
  · have unset : Edit.setsCount (.update cellId
        { CellUpdate.none with isRunning := some false }) = false := rfl
    exact recovered ▸ numbered.renumbered (Notebook.edit_renumbered app.notebook unset)

theorem Step.numbered (step : Step crew label crew') (numbered : crew.app.notebook.Numbered)
    (unset : label.setsCount = false)
    (room : label.completes = true → crew.app.notebook.executionCount.toNat + 1 < UInt32.size) :
    crew'.app.notebook.Numbered := by
  cases step with
  | enqueue cellId =>
    rw [App.enqueue_eq]
    exact numbered
  | edit edit => exact numbered.renumbered (Notebook.edit_renumbered _ unset)
  | task before after advance => exact advance.numbered numbered room
  | processor | announce | consult => exact numbered

/-- Counts on cells stay distinct and within the count of the notebook. -/
theorem Run.numbered (run : Run (.new notebook) trace crew) (numbered : notebook.Numbered)
    (unset : ∀ label ∈ trace, label.setsCount = false)
    (bounded : Bounded notebook.executionCount.toNat trace) : crew.app.notebook.Numbered := by
  revert unset bounded
  apply run.history
  · exact fun _ _ => numbered
  · intro middle next label before first step kept unset bounded
    have unset_before : ∀ label ∈ before, label.setsCount = false := fun other member =>
      unset other (List.mem_append_left _ member)
    refine step.numbered (kept unset_before bounded.of_append)
      (unset label (List.mem_append_right _ (List.mem_singleton_self _))) fun completes => ?_
    have stays : label.restarts = false := by
      cases label <;> first | rfl | cases completes
    have room := bounded _ (List.prefix_refl _)
    rw [tally_snoc_of_not_restarts stays, completes, if_pos rfl] at room
    rw [first.executionCount_toNat bounded.of_append]
    exact room

/-- The execution of an entry was completed, and its count is the one of the notebook right after
that. -/
def CompletedWith (notebook : Notebook) (trace : List Label) (crew : Crew) (entry : QueueEntry)
    (count : UInt32) (output : Output) : Prop :=
  ∃ before dispatch after middle stored,
    trace = before ++ .store entry dispatch (.completed count output) :: after ∧
      Run (.new notebook) before middle ∧
      Step middle (.store entry dispatch (.completed count output)) stored ∧
      Run stored after crew ∧ stored.app.notebook.executionCount = count

theorem Step.count_of_store {entry : QueueEntry} {dispatch : Dispatch} {count : UInt32}
    {output : Output} (step : Step crew (.store entry dispatch (.completed count output)) crew') :
    crew'.app.notebook.executionCount = count := by
  have stored := step.of_store.2
  have outcome := congrArg Prod.snd stored
  rw [App.store_outcome] at outcome
  rw [step.executionCount]
  exact (RunOutcome.completed.inj outcome).1.symm

theorem Run.completedWith (run : Run (.new notebook) trace crew) {entry : QueueEntry}
    {dispatch : Dispatch} {count : UInt32} {output : Output}
    (stored : .store entry dispatch (.completed count output) ∈ trace) :
    CompletedWith notebook trace crew entry count output := by
  rcases List.mem_iff_append.1 stored with ⟨before, after, rfl⟩
  rcases run.at_label with ⟨middle, next, first, step, rest⟩
  exact ⟨before, dispatch, after, middle, next, rfl, first, step, rest, step.count_of_store⟩

/-- A completed outcome on record was stored. -/
theorem Run.completedWith_of_outcome (run : Run (.new notebook) trace crew) {ticket : Nat}
    {count : UInt32} {output : Output}
    (ended : (ticket, .completed count output) ∈ crew.app.outcomes) :
    ∃ entry, entry.ticket = ticket ∧ CompletedWith notebook trace crew entry count output := by
  rcases run.told.settled _ ended with ⟨entry, same, fate⟩
  refine ⟨entry, same, ?_⟩
  generalize told : story entry trace = past at fate
  cases fate with
  | @completed source dispatch answers answered _ =>
    have within : .store entry dispatch (.completed count dispatch.output) ∈ story entry trace := by
      simp [told]
    exact run.completedWith (List.mem_filter.1 within).1

theorem store_of_news {shown : QueueState} {cellId : String} {count : UInt32} {output : Output}
    (announced : .completed cellId count output ∈ label.news shown) :
    ∃ entry dispatch, entry.cellId = cellId ∧
      label = .store entry dispatch (.completed count output) := by
  cases label with
  | store entry dispatch outcome =>
    cases outcome with
    | skipped => cases announced
    | completed count output =>
      simp [Label.news] at announced
      rcases announced with ⟨rfl, rfl, rfl⟩
      exact ⟨entry, dispatch, rfl, rfl⟩
  | _ => simp [Label.news] at announced

/-- An announced completion was stored. -/
theorem Run.completedWith_of_event (run : Run (.new notebook) trace crew) {cellId : String}
    {count : UInt32} {output : Output}
    (announced : .completed cellId count output ∈ crew.app.events) :
    ∃ entry, entry.cellId = cellId ∧ CompletedWith notebook trace crew entry count output := by
  have stored : ∃ entry dispatch, entry.cellId = cellId ∧
      .store entry dispatch (.completed count output) ∈ trace := by
    revert announced
    apply run.history
    · exact fun none => absurd none List.not_mem_nil
    · intro middle next label before _ step earlier announced
      rw [step.events] at announced
      rcases List.mem_append.1 announced with old | new
      · rcases earlier old with ⟨entry, dispatch, same, member⟩
        exact ⟨entry, dispatch, same, List.mem_append_left _ member⟩
      · rcases store_of_news new with ⟨entry, dispatch, same, rfl⟩
        exact ⟨entry, dispatch, same, List.mem_append_right _ (List.mem_singleton_self _)⟩
  rcases stored with ⟨entry, dispatch, same, member⟩
  exact ⟨entry, same, run.completedWith member⟩

/-- No step of a run that was skipped moves the count. -/
theorem Run.still_of_skipped (run : Run (.new notebook) trace crew) {ticket : Nat}
    (ended : (ticket, .skipped) ∈ crew.app.outcomes) :
    ∃ entry, entry.ticket = ticket ∧
      ∀ label ∈ story entry trace, label.completes = false ∧ label.restarts = false := by
  rcases run.told.settled _ ended with ⟨entry, same, fate⟩
  refine ⟨entry, same, ?_⟩
  generalize story entry trace = past at fate
  cases fate <;> simp [Label.completes, Label.restarts]

/-- What is known of the count of executions after a run. -/
structure Counted (notebook : Notebook) (trace : List Label) (crew : Crew) : Prop where
  /-- The count is the number of completions since it was started over, and the first count where it
  was not. -/
  law : crew.app.notebook.executionCount.toNat = tally notebook.executionCount.toNat trace
  /-- It is started over by a clear and by an import that succeeds. -/
  restarts : ∀ (edited : Notebook) (edit : Edit), edit.restarts = true ↔
    edit = .clear ∨
      (∃ entries count, edit = .importCells entries ∧ (edited.importCells entries).2 = .ok count) ∨
      ∃ text count, edit = .importText text ∧ (edited.importText text).2 = .ok count
  /-- Every completed outcome has the count right after its own completion. -/
  outcomes : ∀ ticket count output, (ticket, .completed count output) ∈ crew.app.outcomes →
    ∃ entry, entry.ticket = ticket ∧ CompletedWith notebook trace crew entry count output
  /-- So has every announced completion. -/
  events : ∀ cellId count output, .completed cellId count output ∈ crew.app.events →
    ∃ entry, entry.cellId = cellId ∧ CompletedWith notebook trace crew entry count output
  /-- All other steps leave the count. -/
  still : ∀ {middle label next}, Step middle label next → label.completes = false →
    label.restarts = false → next.app.notebook.executionCount = middle.app.notebook.executionCount
  /-- A run that was skipped, by a blank cell or by a crash, consists of such steps. -/
  skipped : ∀ ticket, (ticket, .skipped) ∈ crew.app.outcomes →
    ∃ entry, entry.ticket = ticket ∧
      ∀ label ∈ story entry trace, label.completes = false ∧ label.restarts = false
  /-- Counts on cells stay distinct and within the count of the notebook. -/
  numbered : notebook.Numbered → crew.app.notebook.Numbered

/-- The count of executions is the number of completions since it was started over, whatever is
edited while a cell is executing, and cells never share a count. -/
theorem executions_counted (run : Run (.new notebook) trace crew)
    (unset : ∀ label ∈ trace, label.setsCount = false)
    (bounded : Bounded notebook.executionCount.toNat trace) : Counted notebook trace crew where
  law := run.executionCount_toNat bounded
  restarts := Notebook.restarts_iff
  outcomes := fun _ _ _ ended => run.completedWith_of_outcome ended
  events := fun _ _ _ announced => run.completedWith_of_event announced
  still := by
    intro middle label next step incomplete stays
    rw [step.executionCount, stays, incomplete]
    rfl
  skipped := fun _ ended => run.still_of_skipped ended
  numbered := fun numbered => run.numbered numbered unset bounded

/-- The notebook is cleared while its cell is executing, so the completion is the first one. -/
theorem executions_counted_cleared_meanwhile :
    ∃ trace crew, Run (.new ⟨[⟨"x", .code, "1", none, some 3, false⟩], 5, 0⟩) trace crew ∧
      (∀ label ∈ trace, label.setsCount = false) ∧ Bounded 5 trace ∧ .edit .clear ∈ trace ∧
      crew.app.outcomes = [(0, .completed 1 (.success "ok"))] ∧
      Counted ⟨[⟨"x", .code, "1", none, some 3, false⟩], 5, 0⟩ trace crew := by
  have routed : route "1" = .call (.execute "1") := rfl
  have run : ∃ trace crew, Run (.new ⟨[⟨"x", .code, "1", none, some 3, false⟩], 5, 0⟩) trace crew ∧
      (∀ label ∈ trace, label.setsCount = false) ∧ trace.length = 10 ∧ .edit .clear ∈ trace ∧
      crew.app.outcomes = [(0, .completed 1 (.success "ok"))] :=
    ⟨_, _, .cons (.enqueue "x") (.cons (.task [] [] .spawn) (.cons (.task [] [] (.dequeue rfl))
      (.cons (.task [] [] (.begin rfl)) (.cons (.task [] [] (.call routed)) (.cons (.edit .clear)
        (.cons (.task [] [] (.answer (show Simulator.Execution from .plain (.success "ok"))))
          (.cons (.task [] [] .store) (.cons (.task [] [] .release)
            (.single (.task [] [] .finish)))))))))),
      by simp [Label.setsCount, Edit.setsCount], rfl, by simp, rfl⟩
  rcases run with ⟨trace, crew, run, unset, length, cleared, outcomes⟩
  have bounded : Bounded 5 trace := bounded_of_short (by rw [length]; decide)
  exact ⟨trace, crew, run, unset, bounded, cleared, outcomes, executions_counted run unset bounded⟩

end Interleaving
end AsmNotebook
