import AsmNotebook.Proofs.Interleaving.Progress
import AsmNotebook.Proofs.Interleaving.Story
import AsmNotebook.Proofs.Interleaving.Waiting

namespace AsmNotebook
namespace Interleaving

/-!
# Nothing is lost, doubled or reordered

`Conserved` collects what the queue owes to every entry.  Entries leave in the
order in which they came, each has at most one end, and the end is one of the
four that `Fate` writes out.  That each comes to an end is again said without
a fair schedule: a task that is there can move, the moves of all tasks are
bounded by the number of entries, and once no task is there every entry has
had its end.
-/

namespace Stage

/-- The most steps that a task takes before it stands where it can take out an entry, and one to
leave. -/
def work : Stage → Nat
  | owed => 2
  | ready => 1
  | taken _ => 7
  | begun _ _ => 6
  | waiting _ _ _ => 5
  | dispatched _ _ => 4
  | ended _ _ => 3
  | released _ _ => 2
  | dying _ => 4
  | unwinding _ => 3
  | recovering _ others => others.length + 2
  | cancelling others => others.length + 1

end Stage

/-- The most steps that all tasks take if no entry comes any more. -/
def Crew.work (crew : Crew) : Nat :=
  7 * crew.app.queue.pending.length + (crew.tasks.map Stage.work).sum

variable {notebook : Notebook} {crew crew' last : Crew} {label : Label} {trace : List Label}
variable {app app' : App} {stage : Stage} {next : Option Stage}

theorem Advance.work_lt (advance : Advance app stage label app' next) :
    label.ofCaller = false ∧
      7 * app'.queue.pending.length + (next.toList.map Stage.work).sum <
        7 * app.queue.pending.length + stage.work := by
  have left := congrArg List.length advance.fifo.1
  rw [List.length_append] at left
  cases advance <;> simp [Label.ofCaller, Label.removes, Stage.work] at left ⊢ <;> omega

theorem Step.work_le (step : Step crew label crew') :
    (if label.ofCaller then 0 else 1) + crew'.work ≤ crew.work + 9 * label.adds.length := by
  cases step with
  | @enqueue app tasks cellId =>
    have owed : ((owedBy cellId app).map Stage.work).sum ≤ 2 := by
      unfold owedBy
      split <;> simp [Stage.work]
    rw [App.enqueue_eq]
    simp [Crew.work, Label.ofCaller, Label.adds, App.showQueue, App.announce,
      ExecutionQueue.enqueue]
    omega
  | task before after advance =>
    rcases advance.work_lt with ⟨own, less⟩
    simp [Crew.work, own] at less ⊢
    omega
  | edit | processor | announce | consult =>
    exact Nat.le_of_eq (Nat.zero_add _)

/-- Tasks take no more than nine steps for each entry. -/
theorem Run.work_le (run : Run crew trace last) :
    (trace.countP fun label => !label.ofCaller) + last.work ≤
      crew.work + 9 * (enqueued trace).length := by
  induction run with
  | nil => simp [enqueued]
  | @cons crew next last label trace step _ inductionHypothesis =>
    have first := step.work_le
    have entries : (enqueued (label :: trace)).length =
        label.adds.length + (enqueued trace).length := List.length_append
    rw [entries, List.countP_cons]
    cases own : label.ofCaller <;> simp [own] at first ⊢ <;> omega

/-- A task that is lost is lost with its call. -/
def CrashKnown (crew : Crew) (trace : List Label) : Prop :=
  ∀ stage ∈ crew.tasks, ∀ entry, stage = .dying entry ∨ stage = .unwinding entry →
    .crash entry ∈ trace

theorem Advance.crash_or_dying {stage' : Stage} {entry : QueueEntry}
    (advance : Advance app stage label app' (some stage'))
    (lost : stage' = .dying entry ∨ stage' = .unwinding entry) :
    label = .crash entry ∨ stage = .dying entry := by
  cases advance <;> simp_all

theorem CrashKnown.step (known : CrashKnown crew trace) (step : Step crew label crew') :
    CrashKnown crew' (trace ++ [label]) := by
  intro stage member entry lost
  cases step with
  | @task app app' moving _ next before after advance =>
    rcases mem_after_task member with other | rfl
    · exact List.mem_append_left _ (known stage (mem_before_task other) entry lost)
    · rcases advance.crash_or_dying lost with rfl | rfl
      · exact List.mem_append_right _ (List.mem_singleton_self _)
      · exact List.mem_append_left _ (known _ (by simp) entry (Or.inl rfl))
  | @enqueue app tasks cellId =>
    rcases List.mem_append.1 member with old | owed
    · exact List.mem_append_left _ (known stage old entry lost)
    · cases eq_owed_of_mem owed
      rcases lost with lost | lost <;> cases lost
  | edit | processor | announce | consult =>
    exact List.mem_append_left _ (known stage member entry lost)

/-- The queue is given up only after a call died. -/
theorem Run.crash_before_abandon {before after : List Label} {crashed : QueueEntry}
    {others : List QueueEntry}
    (run : Run (.new notebook) (before ++ .abandon crashed others :: after) crew) :
    .crash crashed ∈ before := by
  rcases run.at_label with ⟨middle, _, first, step, _⟩
  have known : CrashKnown middle before :=
    first.history (fun _ member => absurd member List.not_mem_nil) fun _ step known =>
      known.step step
  cases step with
  | task front back advance =>
    cases advance with
    | abandon | abandonIdle => exact known _ (by simp) crashed (Or.inr rfl)

/-- An entry is passed over only where its cell is blank or gone. -/
theorem Run.blank_at_pass {before after : List Label} {entry : QueueEntry}
    (run : Run crew (before ++ .pass entry :: after) last) :
    ∃ middle next, Run crew before middle ∧ Step middle (.pass entry) next ∧ Run next after last ∧
      ∀ cell, middle.app.notebook.find? entry.cellId = some cell → cell.isBlank = true := by
  rcases run.at_label with ⟨middle, next, first, step, rest⟩
  refine ⟨middle, next, first, step, rest, ?_⟩
  cases step with
  | task front back advance =>
    cases advance with
    | pass found => exact Notebook.begin?_eq_none_iff.1 (App.begin_none found).2

theorem Lived.came {entry : QueueEntry} {past : List Label} (lived : Lived entry stage past) :
    .enqueue entry ∈ past := by
  cases lived with
  | ended decided | released decided => cases decided <;> simp
  | _ => simp

theorem Fate.came {entry : QueueEntry} {outcome : RunOutcome} {past : List Label}
    (fate : Fate entry outcome past) : .enqueue entry ∈ past := by
  cases fate <;> simp

theorem mem_enqueued_of_story {entry : QueueEntry}
    (came : .enqueue entry ∈ story entry trace) : entry ∈ enqueued trace :=
  List.mem_flatMap.2 ⟨_, (List.mem_filter.1 came).1, List.mem_singleton_self _⟩

/-- An entry that waits or is held has come to the queue. -/
theorem Told.unsettled_came (told : Told crew trace) {entry : QueueEntry}
    (unsettled : entry ∈ crew.unsettled) : entry ∈ enqueued trace := by
  refine mem_enqueued_of_story ?_
  rcases List.mem_append.1 unsettled with waits | inHand
  · rw [told.waiting entry waits]
    exact List.mem_singleton_self _
  · rcases List.mem_flatMap.1 inHand with ⟨stage, member, held⟩
    exact (told.held stage member entry held).came

/-- Entries that came have different tickets. -/
theorem Run.eq_of_ticket (run : Run (.new notebook) trace crew) {first second : QueueEntry}
    (came : first ∈ enqueued trace) (came' : second ∈ enqueued trace)
    (same : first.ticket = second.ticket) : first = second := by
  have numbered : (enqueued trace).map QueueEntry.ticket = List.range crew.app.nextTicket :=
    run.tickets_in_order
  exact List.inj_on_of_nodup_map (numbered ▸ List.nodup_range) came came' same

/-- An entry that came is still under way, or its run has ended in one of the four ways. -/
theorem Run.ends (run : Run (.new notebook) trace crew) {entry : QueueEntry}
    (came : entry ∈ enqueued trace) :
    (entry ∈ crew.unsettled ∧ crew.app.outcome? entry.ticket = none) ∨
      ∃ outcome, crew.app.outcome? entry.ticket = some outcome ∧
        Fate entry outcome (story entry trace) := by
  have issued : entry.ticket < crew.app.nextTicket := by
    have given : entry.ticket ∈ (enqueued trace).map QueueEntry.ticket := List.mem_map_of_mem came
    have numbered : (enqueued trace).map QueueEntry.ticket = List.range crew.app.nextTicket :=
      run.tickets_in_order
    exact List.mem_range.1 (numbered ▸ given)
  cases ended : crew.app.outcome? entry.ticket with
  | none =>
    rcases List.mem_map.1 ((run.ticketed.outcome?_eq_none_iff issued).1 ended) with
      ⟨other, unsettled, same⟩
    have equal := run.eq_of_ticket (run.told.unsettled_came unsettled) came same
    exact Or.inl ⟨equal ▸ unsettled, rfl⟩
  | some outcome =>
    rcases run.told.settled _ (App.mem_of_outcome? ended) with ⟨other, same, fate⟩
    have equal := run.eq_of_ticket (mem_enqueued_of_story fate.came) came same
    exact Or.inr ⟨outcome, rfl, equal ▸ fate⟩

/-- An outcome on record is how the run of the entry with its ticket ended. -/
theorem Run.fate_of_outcome (run : Run (.new notebook) trace crew) {entry : QueueEntry}
    (came : entry ∈ enqueued trace) {outcome : RunOutcome}
    (known : crew.app.outcome? entry.ticket = some outcome) :
    Fate entry outcome (story entry trace) := by
  rcases run.ends came with ⟨_, unended⟩ | ⟨other, ended, fate⟩
  · cases known.symm.trans unended
  · cases known.symm.trans ended
    exact fate

/-- What the queue owes to the entries of a run. -/
structure Conserved (notebook : Notebook) (trace : List Label) (crew : Crew) : Prop where
  /-- Entries taken out or handed back, followed by those that wait, are those that came. -/
  order : removed trace ++ crew.app.queue.pending = enqueued trace
  /-- Tickets tell entries apart, also those of the same cell. -/
  numbered : (enqueued trace).map QueueEntry.ticket = List.range crew.app.nextTicket
  /-- No run ends twice. -/
  once : (crew.app.outcomes.map Prod.fst).Nodup
  /-- An entry is under way, or its story has one of the four ends. -/
  ends : ∀ entry ∈ enqueued trace,
    (entry ∈ crew.unsettled ∧ crew.app.outcome? entry.ticket = none) ∨
      ∃ outcome, crew.app.outcome? entry.ticket = some outcome ∧
        Fate entry outcome (story entry trace)
  /-- An entry is passed over because its cell is blank or gone when its turn comes. -/
  blank : ∀ before entry after, trace = before ++ .pass entry :: after →
    ∃ middle next, Run (.new notebook) before middle ∧ Step middle (.pass entry) next ∧
      Run next after crew ∧
      ∀ cell, middle.app.notebook.find? entry.cellId = some cell → cell.isBlank = true
  /-- Entries are handed back because a call died. -/
  crash : ∀ before crashed others after, trace = before ++ .abandon crashed others :: after →
    .crash crashed ∈ before
  /-- A task at work can move. -/
  moves : crew.tasks ≠ [] → ∃ label next, Step crew label next ∧ label.ofCaller = false
  /-- Tasks move a bounded number of times for each entry. -/
  bounded : (trace.countP fun label => !label.ofCaller) ≤ 9 * (enqueued trace).length
  /-- Without a task at work every entry has had its end. -/
  complete : crew.tasks = [] → ∀ entry ∈ enqueued trace, crew.app.outcome? entry.ticket ≠ none

theorem Run.conserved (run : Run (.new notebook) trace crew) : Conserved notebook trace crew where
  order := run.fifo
  numbered := run.tickets_in_order
  once := run.ticketed.once
  ends := fun _ came => run.ends came
  blank := by
    rintro before entry after rfl
    exact run.blank_at_pass
  crash := by
    rintro before crashed others after rfl
    exact run.crash_before_abandon
  moves := by
    intro some_task
    rcases List.exists_mem_of_ne_nil _ some_task with ⟨stage, atWork⟩
    rcases exists_task_step atWork with ⟨label, _, _, crew', advance, step⟩
    exact ⟨label, crew', step, advance.work_lt.1⟩
  bounded := by
    have most := run.work_le
    have start : (Crew.new notebook).work = 0 := rfl
    omega
  complete := by
    intro none entry came unended
    rcases run.ends came with ⟨unsettled, _⟩ | ⟨outcome, ended, _⟩
    · have idle : crew.app.queue = .empty := by
        cases (owned_new notebook).run run with
        | idle _ empty => exact empty
        | busy stage one _ _ => simp [none] at one
      simp [Crew.unsettled, none, idle, ExecutionQueue.empty] at unsettled
    · rw [ended] at unended
      cases unended

/-- What a caller knows after running a cell.  The outcome is the fate of the entry that the call
queued; nothing was queued where the cell was blank or missing. -/
def RunTold (trace : List Label) (app : App) (cellId : String) (ended : App × RunOutcome) : Prop :=
  ∃ later, Run (.solo app) later (.solo ended.1) ∧
    if app.canRun cellId then
      later.head? = some (.enqueue ⟨cellId, app.nextTicket⟩) ∧
        Fate ⟨cellId, app.nextTicket⟩ ended.2 (story ⟨cellId, app.nextTicket⟩ (trace ++ later))
    else later = [] ∧ ended = (app, .skipped)

/-- What a caller knows after running several cells at once, position by position. -/
def RunTogetherTold (trace : List Label) (app : App) (cellIds : List String)
    (ended : App × List RunOutcome) : Prop :=
  ended.2.length = cellIds.length ∧
    ∃ later, Run (.solo app) later (.solo ended.1) ∧
      ∀ (position : Nat) (cellId : String) (outcome : RunOutcome),
        cellIds[position]? = some cellId → ended.2[position]? = some outcome →
          ∃ ticket, (app.requestAll cellIds).2[position]? = some ticket ∧
            match ticket with
            | none => app.canRun cellId = false ∧ outcome = .skipped
            | some ticket =>
              Fate ⟨cellId, ticket⟩ outcome (story ⟨cellId, ticket⟩ (trace ++ later))

theorem run_told (reached : Run (.new notebook) trace (.solo app)) (cellId : String) :
    (app.run cellId).Ends (RunTold trace app cellId) := by
  refine (run_ends reached cellId).mono fun ended told => ?_
  rcases told with ⟨later, run, told⟩
  refine ⟨later, run, ?_⟩
  split
  · next runnable =>
    rw [if_pos runnable] at told
    rcases told with ⟨queued, known⟩
    refine ⟨queued, ?_⟩
    have came : ⟨cellId, app.nextTicket⟩ ∈ enqueued (trace ++ later) := by
      refine List.mem_flatMap.2 ⟨_, List.mem_append_right _ (List.mem_of_mem_head? queued), ?_⟩
      exact List.mem_singleton_self _
    exact (reached.append run).fate_of_outcome came known
  · next unrunnable =>
    rw [if_neg unrunnable] at told
    exact told

theorem runTogether_told (reached : Run (.new notebook) trace (.solo app))
    (cellIds : List String) :
    (app.runTogether cellIds).Ends (RunTogetherTold trace app cellIds) := by
  have lengths := (requestAll_run ((owned_new notebook).run reached) cellIds).1
  refine (runTogether_ends reached cellIds).mono fun ended told => ?_
  rcases told with ⟨queueing, later, run, entries, known⟩
  have same_length := congrArg List.length known
  rw [List.length_map, List.length_map] at same_length
  refine ⟨same_length.trans lengths, _, run, ?_⟩
  intro position cellId outcome here given
  have within : position < (app.requestAll cellIds).2.length := by
    rw [← same_length]
    exact (List.getElem?_eq_some_iff.1 given).1
  have asked := List.getElem?_eq_getElem within
  generalize (app.requestAll cellIds).2[position] = ticket at asked
  have paired : (cellId, ticket) ∈ cellIds.zip (app.requestAll cellIds).2 :=
    List.mem_of_getElem? (List.getElem?_zip_eq_some.2 ⟨here, asked⟩)
  have told := congrArg (·[position]?) known
  simp only [List.getElem?_map, asked, given, Option.map_some, Option.some.injEq] at told
  refine ⟨ticket, asked, ?_⟩
  cases ticket with
  | none => exact ⟨canRun_of_ticket paired, Option.some.inj told⟩
  | some ticket =>
    have mine : ⟨cellId, ticket⟩ ∈ requested cellIds (app.requestAll cellIds).2 :=
      List.mem_filterMap.2 ⟨_, paired, rfl⟩
    have came : ⟨cellId, ticket⟩ ∈ enqueued (trace ++ (queueing ++ later)) := by
      rw [← entries] at mine
      simp only [enqueued, List.flatMap_append, List.mem_append] at mine ⊢
      exact Or.inr (Or.inl mine)
    exact (reached.append run).fate_of_outcome came told.symm

/-- The queue loses, doubles and reorders nothing along any run, and a caller who waits for runs is
told how the runs of its own entries ended. -/
theorem nothing_lost (run : Run (.new notebook) trace crew) :
    Conserved notebook trace crew ∧
      ∀ app, crew = .solo app →
        (∀ cellId, (app.run cellId).Ends (RunTold trace app cellId)) ∧
          ∀ cellIds, (app.runTogether cellIds).Ends (RunTogetherTold trace app cellIds) := by
  refine ⟨run.conserved, ?_⟩
  rintro app rfl
  exact ⟨run_told run, runTogether_told run⟩

/-- A missing cell is queued twice.  Its first run has been passed over, and the second one waits. -/
theorem nothing_lost_repeated_cell :
    ∃ trace app, Run (.new ⟨[.new "b" .code "1"], 0, 0⟩) trace (.solo app) ∧
      enqueued trace = [⟨"a", 0⟩, ⟨"a", 1⟩] ∧ app.outcomes = [(0, .skipped)] ∧
        Conserved ⟨[.new "b" .code "1"], 0, 0⟩ trace (.solo app) ∧
          (app.run "b").Ends (RunTold trace app "b") := by
  have run : ∃ app, Run (.new ⟨[.new "b" .code "1"], 0, 0⟩)
      [.enqueue ⟨"a", 0⟩, .spawn, .enqueue ⟨"a", 1⟩, .dequeue ⟨"a", 0⟩, .pass ⟨"a", 0⟩,
        .release ⟨"a", 0⟩, .finish ⟨"a", 0⟩ .skipped] (.solo app) ∧
        app.outcomes = [(0, .skipped)] :=
    ⟨_, .cons (.enqueue "a") (.cons (.task [] [] .spawn) (.cons (.enqueue "a")
      (.cons (.task [] [] (.dequeue rfl)) (.cons (.task [] [] (.pass rfl))
        (finish_run ⟨"a", 0⟩ .skipped _))))), rfl⟩
  rcases run with ⟨app, run, outcomes⟩
  rcases nothing_lost run with ⟨conserved, told⟩
  exact ⟨_, app, run, rfl, outcomes, conserved, (told app rfl).1 "b"⟩

end Interleaving
end AsmNotebook
