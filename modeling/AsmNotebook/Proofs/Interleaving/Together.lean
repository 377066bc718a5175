import AsmNotebook.Proofs.Interleaving.Undisturbed
import AsmNotebook.Proofs.Interleaving.Waiting

namespace AsmNotebook
namespace Interleaving

/-!
# Runs at once do what runs one after another do

A caller may queue many runs at once and wait for all of them, or wait for
each one before it asks for the next.  The first way asks which cells can be
run before any of them runs.  The answers stay right, since running cells does
not change which cells can be run, so both ways have the meaning of the fold.

The application is followed in a quiet world: services answer every call, and
no other task does anything while a call waits.
-/

open AsmNotebook.Sequential

variable {σ : Type} (respond : Responder σ) (errand : σ → (errand : Errand) → σ × errand.Reply)

/-- A world in which every call is answered and nothing happens meanwhile. -/
def quietWorld : σ → (query : Query) → σ × query.Reply
  | services, .attend waiting =>
    let answered := respond services waiting.call
    (answered.1, .undisturbed (some answered.2))
  | services, .errand errand' => errand services errand'

/-- Follow work in a quiet world. -/
def follow {α : Type} (services : σ) (work : Work α) : σ × α :=
  Dialogue.run (quietWorld respond errand) services work

theorem follow_bind {α β : Type} (services : σ) (work : Work α) (f : α → Work β) :
    follow respond errand services (work.bind f) =
      follow respond errand (follow respond errand services work).1
        (f (follow respond errand services work).2) :=
  Dialogue.run_bind ..

/-- What holds at every end of some work holds where following it leads. -/
theorem ends_follow {α : Type} {holds : α → Prop} {work : Work α} (ends : work.Ends holds)
    {services services' : σ} {value : α}
    (followed : follow respond errand services work = (services', value)) : holds value := by
  have reached := ends.run (quietWorld respond errand) services
  change holds (follow respond errand services work).2 at reached
  rw [followed] at reached
  exact reached

/-- The application does steps that disturb nothing, and some entries come. -/
def Passage (entries : List QueueEntry) (services : σ) (app : App) (services' : σ) (app' : App) :
    Prop :=
  ∃ trace, Run (.solo app) trace (.solo app') ∧ enqueued trace = entries ∧
    Undisturbed respond services trace services'

variable {respond errand}
variable {notebook : Notebook} {app middle app' : App} {entries later : List QueueEntry}
  {services between services' : σ}

namespace Passage

theorem nothing : Passage respond [] services app services app :=
  ⟨[], .nil, rfl, .nil⟩

theorem trans (first : Passage respond entries services app between middle)
    (second : Passage respond later between middle services' app') :
    Passage respond (entries ++ later) services app services' app' := by
  rcases first with ⟨before, run, came, undisturbed⟩
  rcases second with ⟨after, rest, came', undisturbed'⟩
  refine ⟨before ++ after, run.append rest, ?_, undisturbed.append undisturbed'⟩
  rw [enqueued, List.flatMap_append]
  exact congr (congrArg _ came) came'

/-- What comes is executed in the end. -/
theorem settleUp (passage : Passage respond entries services app services' app')
    (owned : Owned (.solo app)) :
    (Crew.solo app').settleUp respond services' =
      entries.foldl (perform respond) ((Crew.solo app).settleUp respond services) := by
  rcases passage with ⟨trace, run, rfl, undisturbed⟩
  exact run.settleUp owned undisturbed

end Passage

/-- A turn of the loop queues nothing. -/
theorem turn_passage (followed : follow respond errand services app.turn = (services', app')) :
    Passage respond [] services app services' app' := by
  unfold App.turn at followed
  split at followed
  · cases followed
    exact .nothing
  · next ready =>
    cases followed
    rcases advance_run app ready with ⟨⟨trace, silent, run⟩, _⟩
    exact ⟨trace, run, silent.enqueued, .of_undisturbing silent.undisturbing⟩
  · next entry number call waiting =>
    cases followed
    rcases answered_run waiting (respond services call).2 with ⟨_, trace, silent, run, _⟩
    exact ⟨_, run, silent.enqueued, .answer (.of_undisturbing silent.undisturbing)⟩

theorem await_passage {α : Type} {there? : App → Option α} {value : Option α} (fuel : Nat)
    (followed : follow respond errand services (App.await there? fuel app) =
      (services', app', value)) :
    Passage respond [] services app services' app' := by
  induction fuel generalizing app services with
  | zero =>
    cases followed
    exact .nothing
  | succ fuel inductionHypothesis =>
    unfold App.await at followed
    split at followed
    · cases followed
      exact .nothing
    · rw [follow_bind] at followed
      exact (turn_passage rfl).trans (inductionHypothesis followed)

/-- An application that comes from a new one, and in which every run has ended. -/
structure Rested (notebook : Notebook) (app : App) : Prop where
  reached : ∃ trace, Run (.new notebook) trace (.solo app)
  ended : (Crew.solo app).unsettled = []

/-- A queue that is idle has no run that has not ended. -/
theorem rested_of_idle {trace : List Label} (reached : Run (.new notebook) trace (.solo app))
    (idle : app.queue.draining = false) : Rested notebook app := by
  refine ⟨⟨trace, reached⟩, ?_⟩
  have owned := (owned_new notebook).run reached
  cases phase : app.phase with
  | absent =>
    rw [Crew.solo_eq phase]
    exact congrArg (ExecutionQueue.pending · ++ []) (owned.absent phase)
  | ready | waiting =>
    have draining := owned.present (by simp [phase])
    cases idle.symm.trans draining

theorem Rested.outcome?_ne_none (rested : Rested notebook app) {ticket : Nat}
    (issued : ticket < app.nextTicket) : app.outcome? ticket ≠ none := by
  rcases rested with ⟨⟨trace, reached⟩, ended⟩
  intro unknown
  have unsettled := (reached.ticketed.outcome?_eq_none_iff issued).1 unknown
  rw [ended] at unsettled
  cases unsettled

theorem Rested.outcome?_of_mem (rested : Rested notebook app) {ticket : Nat} {outcome : RunOutcome}
    (onRecord : (ticket, outcome) ∈ (ledger app services).2) :
    app.outcome? ticket = some outcome := by
  rcases rested.reached with ⟨trace, reached⟩
  exact reached.ticketed.outcome?_of_mem onRecord

/-- If all that came has ended, the application is at rest again. -/
theorem Rested.again (rested : Rested notebook app)
    (passage : Passage respond entries services app services' app')
    (ended : ∀ entry ∈ entries, app'.outcome? entry.ticket ≠ none) : Rested notebook app' := by
  rcases passage with ⟨later, run, rfl, _⟩
  rcases rested.reached with ⟨trace, reached⟩
  have ticketed : Ticketed (.solo app') := (reached.append run).ticketed
  refine ⟨⟨_, reached.append run⟩, List.eq_nil_iff_forall_not_mem.2 fun entry waits => ?_⟩
  have unsettled : entry.ticket ∈ (Crew.solo app').unsettled.map QueueEntry.ticket :=
    List.mem_map_of_mem waits
  have issued : entry.ticket ∈ List.range app'.nextTicket :=
    ticketed.mem_iff.1 (List.mem_append_left _ unsettled)
  have unknown : app'.outcome? entry.ticket = none :=
    (ticketed.outcome?_eq_none_iff (List.mem_range.1 issued)).2 unsettled
  have given : entry.ticket ∈
      List.range app.nextTicket ++ (enqueued later).map QueueEntry.ticket :=
    run.tickets_in_order ▸ issued
  rcases List.mem_append.1 given with old | new
  · rcases Option.ne_none_iff_exists'.1 (rested.outcome?_ne_none (List.mem_range.1 old)) with
      ⟨outcome, known⟩
    have still : app'.outcome? entry.ticket = some outcome := run.outcome?_some known
    cases unknown.symm.trans still
  · rcases List.mem_map.1 new with ⟨other, came, same⟩
    exact ended other came (same ▸ unknown)

/-- The desk of a rested application is what its ledger will be. -/
theorem Rested.settleUp (rested : Rested notebook app) :
    (Crew.solo app).settleUp respond services = ledger app services :=
  settleUp_of_ended rested.ended

/-- A caller who queued entries and waits for their ends is told. -/
theorem await_told {α : Type} {there? : App → Option α} {value : Option α} {asked : App}
    {trace : List Label} (reached : Run (.new notebook) trace (.solo app))
    (queued : Passage respond entries services app services asked)
    (there_of_ended : ∀ app, (∀ entry ∈ entries, app.outcome? entry.ticket ≠ none) →
      there? app ≠ none)
    (followed : follow respond errand services (App.await there? asked.turnsNeeded asked) =
      (services', app', value)) :
    value ≠ none ∧ there? app' = value := by
  rcases queued with ⟨queueing, run, rfl, _⟩
  have suffices_ended : ∀ app, missing asked.nextTicket app = [] → there? app ≠ none := by
    intro app' ended
    refine there_of_ended app' fun entry mine unknown => ?_
    have issued : entry.ticket < asked.nextTicket := by
      refine List.mem_range.1 (run.tickets_in_order ▸ ?_)
      exact List.mem_append_right _ (List.mem_map_of_mem mine)
    have absent : entry.ticket ∉ missing asked.nextTicket app' := by simp [ended]
    exact absent (mem_missing.2 ⟨issued, unknown⟩)
  have reached' := reached.append run
  have told := ends_follow respond errand
    (await_ends asked.nextTicket suffices_ended reached' (Nat.le_refl _) (turnsLeft_le reached'))
    followed
  exact ⟨told.1, told.2.1⟩

/-- A caller who queued entries and waits for their ends finds them executed. -/
theorem await_settles {α : Type} {there? : App → Option α} {value : Option α} {asked : App}
    (rested : Rested notebook app) (queued : Passage respond entries services app services asked)
    (there_iff : ∀ app, there? app ≠ none ↔ ∀ entry ∈ entries, app.outcome? entry.ticket ≠ none)
    (followed : follow respond errand services (App.await there? asked.turnsNeeded asked) =
      (services', app', value)) :
    (value ≠ none ∧ there? app' = value) ∧ Rested notebook app' ∧
      ledger app' services' = entries.foldl (perform respond) (ledger app services) := by
  have whole : Passage respond entries services app services' app' :=
    List.append_nil entries ▸ queued.trans (await_passage _ followed)
  rcases rested.reached with ⟨trace, reached⟩
  have told := await_told reached queued (fun app => (there_iff app).2) followed
  have rested' := rested.again whole ((there_iff app').1 (told.2 ▸ told.1))
  refine ⟨told, rested', ?_⟩
  rw [← rested.settleUp, ← rested'.settleUp]
  exact whole.settleUp ((owned_new notebook).run reached)

/-- A caller who runs a cell finds it executed. -/
theorem run_executes (rested : Rested notebook app) {cellId : String} {outcome : RunOutcome}
    (followed : follow respond errand services (app.run cellId) = (services', app', outcome)) :
    Rested notebook app' ∧
      (desk app' services', outcome) = (desk app services).execute respond cellId := by
  unfold App.run at followed
  cases runnable : app.canRun cellId with
  | false =>
    rw [App.request_of_not_canRun runnable] at followed
    cases followed
    rw [App.canRun_eq, Option.isSome_eq_false_iff, Option.isNone_iff_eq_none] at runnable
    exact ⟨rested, (Desk.execute_none respond runnable).symm⟩
  | true =>
    rw [App.request_of_canRun runnable] at followed
    change follow respond errand services (Dialogue.bind _ _) = _ at followed
    rw [follow_bind] at followed
    rcases awaited : follow respond errand services (App.await (App.outcome? app.nextTicket)
        (app.enqueue cellId).1.turnsNeeded (app.enqueue cellId).1) with
      ⟨between, middle, value⟩
    rw [awaited] at followed
    cases followed
    rcases rested.reached with ⟨trace, reached⟩
    rcases enqueue_run ((owned_new notebook).run reached) cellId with ⟨start, silent, queued⟩
    have passage : Passage respond [⟨cellId, app.nextTicket⟩] services app services
        (app.enqueue cellId).1 :=
      ⟨_, queued, congrArg (List.cons _) silent.enqueued,
        .step rfl (.of_undisturbing silent.undisturbing)⟩
    rcases await_settles rested passage (by simp) awaited with ⟨⟨_, there⟩, rested', accounts⟩
    have known : app'.outcome? app.nextTicket =
        some ((desk app services).execute respond cellId).2 := by
      apply rested'.outcome?_of_mem
      · rw [accounts]
        exact List.mem_append_right _ (List.mem_singleton_self _)
    have executed : desk app' between = ((desk app services).execute respond cellId).1 :=
      congrArg Prod.fst accounts
    rw [← there, known, Option.getD_some, executed]
    exact ⟨rested', rfl⟩

/-- To execute the entries that a caller queued is to execute all cells of the list, and what is on
record for the tickets are the outcomes, position by position. -/
theorem foldl_requested {cellIds : List String} {tickets : List (Option Nat)}
    (lengths : tickets.length = cellIds.length) (accounts : Ledger σ)
    (runnable : ∀ {cellId ticket}, (cellId, ticket) ∈ cellIds.zip tickets →
      (accounts.1.notebook.begin? cellId).isSome = ticket.isSome)
    {lookup : Option Nat → Option RunOutcome} (skipped : lookup none = some .skipped)
    (recorded : ∀ {ticket outcome},
      (ticket, outcome) ∈ ((requested cellIds tickets).foldl (perform respond) accounts).2 →
        lookup (some ticket) = some outcome) :
    ((requested cellIds tickets).foldl (perform respond) accounts).1 =
        (accounts.1.executeAll respond cellIds).1 ∧
      tickets.map lookup = (accounts.1.executeAll respond cellIds).2.map some := by
  induction cellIds generalizing tickets accounts with
  | nil =>
    cases tickets with
    | nil => exact ⟨rfl, rfl⟩
    | cons ticket tickets => cases lengths
  | cons cellId cellIds inductionHypothesis =>
    cases tickets with
    | nil => cases lengths
    | cons ticket tickets =>
      have here := runnable List.mem_cons_self
      have others : ∀ {cellId' ticket'}, (cellId', ticket') ∈ cellIds.zip tickets →
          ((accounts.1.execute respond cellId).1.notebook.begin? cellId').isSome =
            ticket'.isSome := by
        intro cellId' ticket' member
        rw [Desk.isSome_begin?_execute]
        exact runnable (List.mem_cons_of_mem _ member)
      rw [Desk.executeAll_cons, List.map_cons, List.map_cons]
      cases ticket with
      | none =>
        rw [Option.isSome_none, Option.isSome_eq_false_iff, Option.isNone_iff_eq_none] at here
        rw [Desk.execute_none respond here] at others ⊢
        rcases inductionHypothesis (Nat.succ.inj lengths) accounts others recorded with
          ⟨same, outcomes⟩
        exact ⟨same, congr (congrArg _ skipped) outcomes⟩
      | some ticket =>
        rcases inductionHypothesis (Nat.succ.inj lengths) (perform respond accounts ⟨cellId, ticket⟩)
            others recorded with
          ⟨same, outcomes⟩
        have first : lookup (some ticket) = some (accounts.1.execute respond cellId).2 := by
          apply recorded
          change _ ∈ (List.foldl _ (perform respond accounts ⟨cellId, ticket⟩)
            (requested cellIds tickets)).2
          rw [foldl_perform]
          exact List.mem_append_left _ (List.mem_append_right _ (List.mem_singleton_self _))
        exact ⟨same, congr (congrArg _ first) outcomes⟩

/-- The entries that a caller queued have ended exactly if the caller is told all outcomes. -/
theorem mapM_requested_ne_none_iff {cellIds : List String} {tickets : List (Option Nat)}
    (lengths : tickets.length = cellIds.length) (app : App) :
    tickets.mapM app.requested? ≠ none ↔
      ∀ entry ∈ requested cellIds tickets, app.outcome? entry.ticket ≠ none := by
  rw [mapM_ne_none_iff]
  constructor
  · intro known entry mine
    rcases List.mem_filterMap.1 mine with ⟨⟨cellId, ticket⟩, paired, given⟩
    rcases Option.map_eq_some_iff.1 given with ⟨number, rfl, rfl⟩
    exact known (some number) (List.of_mem_zip paired).2
  · intro known ticket member
    cases ticket with
    | none => exact nofun
    | some number =>
      rcases exists_requested lengths member with ⟨entry, mine, rfl⟩
      exact known entry mine

/-- A caller who runs cells at once finds them executed one after another. -/
theorem runTogether_executes (rested : Rested notebook app) {cellIds : List String}
    {outcomes : List RunOutcome}
    (followed : follow respond errand services (app.runTogether cellIds) =
      (services', app', outcomes)) :
    Rested notebook app' ∧
      (desk app' services', outcomes) = (desk app services).executeAll respond cellIds := by
  rcases rested.reached with ⟨trace, reached⟩
  rcases requestAll_run ((owned_new notebook).run reached) cellIds with
    ⟨lengths, queueing, queued, came, undisturbing⟩
  have runnable : ∀ {cellId ticket}, (cellId, ticket) ∈ cellIds.zip (app.requestAll cellIds).2 →
      ((ledger app services).1.notebook.begin? cellId).isSome = ticket.isSome := by
    intro cellId ticket paired
    rw [← canRun_of_ticket paired, App.canRun_eq]
    rfl
  unfold App.runTogether at followed
  generalize app.requestAll cellIds = asked at *
  rcases asked with ⟨asked, tickets⟩
  rw [follow_bind] at followed
  rcases awaited : follow respond errand services (App.await
      (fun app => tickets.mapM app.requested?) asked.turnsNeeded asked) with
    ⟨between, last, value⟩
  rw [awaited] at followed
  cases followed
  have passage : Passage respond (requested cellIds tickets) services app services asked :=
    ⟨_, queued, came, .of_undisturbing undisturbing⟩
  rcases await_settles rested passage (mapM_requested_ne_none_iff lengths) awaited with
    ⟨⟨told, there⟩, rested', accounts⟩
  rcases Option.ne_none_iff_exists'.1 told with ⟨outcomes, rfl⟩
  have recorded : ∀ {ticket outcome}, (ticket, outcome) ∈
      ((requested cellIds tickets).foldl (perform respond) (ledger app services)).2 →
        app'.requested? (some ticket) = some outcome := by
    intro ticket outcome member
    rw [← accounts] at member
    exact rested'.outcome?_of_mem member
  rcases foldl_requested lengths (ledger app services) runnable rfl recorded with ⟨same, positions⟩
  rw [← accounts, ledger_fst, ledger_fst] at same
  have equal : outcomes = ((desk app services).executeAll respond cellIds).2 :=
    List.map_injective_iff.2 (fun _ _ => Option.some.inj)
      ((map_some_of_mapM there).trans positions)
  rw [Option.getD_some, same, equal]
  exact ⟨rested', rfl⟩

/-- A caller who runs cells one after another finds them executed. -/
theorem runEach_executes (rested : Rested notebook app) {cellIds : List String}
    {outcomes : List (String × RunOutcome)}
    (followed : follow respond errand services (app.runEach cellIds) =
      (services', app', outcomes)) :
    Rested notebook app' ∧ outcomes.map Prod.fst = cellIds ∧
      (desk app' services', outcomes.map Prod.snd) =
        (desk app services).executeAll respond cellIds := by
  induction cellIds generalizing app services outcomes with
  | nil =>
    cases followed
    exact ⟨rested, rfl, rfl⟩
  | cons cellId cellIds inductionHypothesis =>
    unfold App.runEach at followed
    rw [follow_bind] at followed
    rcases first : follow respond errand services (app.run cellId) with ⟨between, middle, outcome⟩
    rw [first] at followed
    change follow respond errand between (Dialogue.bind (middle.runEach cellIds) _) = _ at followed
    rw [follow_bind] at followed
    rcases rest : follow respond errand between (middle.runEach cellIds) with
      ⟨after, last, others⟩
    rw [rest] at followed
    cases followed
    rcases run_executes rested first with ⟨rested', executed⟩
    rcases inductionHypothesis rested' rest with ⟨rested'', cells, ends⟩
    refine ⟨rested'', congrArg (List.cons cellId) cells, ?_⟩
    rw [Desk.executeAll_cons, ← executed, ← ends]
    rfl

variable (respond errand)

/-- The desk and the result that work leads to in a quiet world. -/
def outcomeOf {α : Type} (services : σ) (work : Work (App × α)) : Desk σ × α :=
  let followed := follow respond errand services work
  (desk followed.2.1 followed.1, followed.2.2)

/-- The cells that can be run, in document order. -/
def runnableCells (notebook : Notebook) : List String :=
  (notebook.cells.filter Cell.isRunnable).map Cell.id

/-- From an application on, runs have the meaning of the fold. -/
structure AsSequence (services : σ) (app : App) : Prop where
  /-- Runs that are queued at once, whatever cells they are of. -/
  together : ∀ cellIds, outcomeOf respond errand services (app.runTogether cellIds) =
    (desk app services).executeAll respond cellIds
  /-- Runs of which each is waited for before the next one is asked for. -/
  inTurn : ∀ cellIds, let executed := (desk app services).executeAll respond cellIds
    outcomeOf respond errand services (app.runEach cellIds) =
      (executed.1, cellIds.zip executed.2)
  /-- Runs of all cells that can be run. -/
  everyCell : let cellIds := runnableCells app.notebook
    let executed := (desk app services).executeAll respond cellIds
    outcomeOf respond errand services app.runAll = (executed.1, cellIds.zip executed.2)
  /-- The counts of these go on from the last one and leave none out. -/
  counts : let outcomes := (outcomeOf respond errand services app.runAll).2
    let counts := outcomes.filterMap fun outcome => count? outcome.2
    counts = countsAfter app.notebook.executionCount counts.length
  /-- Runs that are queued at any time, while other tasks take any steps that disturb nothing. -/
  anyTime : ∀ {trace crew services'}, Run (.solo app) trace crew →
    Undisturbed respond services trace services' → crew.unsettled = [] →
      let cellIds := (enqueued trace).map QueueEntry.cellId
      let executed := (desk app services).executeAll respond cellIds
      ledger crew.app services' =
        (executed.1, app.outcomes ++ ((enqueued trace).map QueueEntry.ticket).zip executed.2)

variable {respond errand}

theorem Rested.runEach_eq (rested : Rested notebook app) (cellIds : List String) :
    outcomeOf respond errand services (app.runEach cellIds) =
      (((desk app services).executeAll respond cellIds).1,
        cellIds.zip ((desk app services).executeAll respond cellIds).2) := by
  unfold outcomeOf
  rcases followed : follow respond errand services (app.runEach cellIds) with
    ⟨services', app', outcomes⟩
  rcases runEach_executes rested followed with ⟨_, cells, executed⟩
  have zipped : outcomes = (outcomes.map Prod.fst).zip (outcomes.map Prod.snd) :=
    List.zip_of_prod rfl rfl
  rw [← executed, ← cells, ← zipped]

theorem Rested.counts (rested : Rested notebook app) :
    let outcomes := (outcomeOf respond errand services app.runAll).2
    let counts := outcomes.filterMap fun outcome => count? outcome.2
    counts = countsAfter app.notebook.executionCount counts.length := by
  have ran : outcomeOf respond errand services app.runAll = _ :=
    rested.runEach_eq (runnableCells app.notebook)
  have lengths := Desk.length_executeAll respond (runnableCells app.notebook) (desk app services)
  rw [ran]
  intro outcomes counts
  have same : counts =
      ((desk app services).executeAll respond (runnableCells app.notebook)).2.filterMap count? := by
    rw [← List.map_snd_zip (Nat.le_of_eq lengths), List.filterMap_map]
    rfl
  rw [same]
  exact Desk.counts_executeAll respond _ _

/-- Runs at once, runs one after another and runs of all cells have the meaning of the same fold, and
so has every schedule in which nobody edits and no call dies. -/
theorem together_as_sequence {trace : List Label} (reached : Run (.new notebook) trace (.solo app))
    (idle : app.queue.draining = false) : AsSequence respond errand services app := by
  have rested := rested_of_idle reached idle
  refine
    { together := fun cellIds => ?_
      inTurn := rested.runEach_eq
      everyCell := rested.runEach_eq _
      counts := rested.counts
      anyTime := fun {later crew services'} run undisturbed ended => ?_ }
  · unfold outcomeOf
    rcases followed : follow respond errand services (app.runTogether cellIds) with
      ⟨services', app', outcomes⟩
    exact (runTogether_executes rested followed).2
  · have owned := (owned_new notebook).run reached
    have accounts := run.settleUp owned undisturbed
    rw [settleUp_of_ended ended, rested.settleUp, foldl_perform] at accounts
    exact accounts

/-- A new application, one of whose two cells is blank. -/
theorem together_as_sequence_blank_cell :
    (App.new ⟨[.new "a" .code "1", .new "b" .code " "], 0, 0⟩).queue.draining = false ∧
      ∀ (respond : Responder Nat) (errand : Nat → (errand : Errand) → Nat × errand.Reply),
        AsSequence respond errand 0 (App.new ⟨[.new "a" .code "1", .new "b" .code " "], 0, 0⟩) :=
  ⟨rfl, fun _ _ => together_as_sequence .nil rfl⟩

end Interleaving
end AsmNotebook
