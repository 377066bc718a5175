import AsmNotebook.Proofs.Interleaving.Turns
import Mathlib.Data.List.Perm.Subperm

namespace AsmNotebook
namespace Interleaving

/-!
# What a caller who waits is told

A caller waits by letting the loop take turns, and the number of turns is
bounded in advance.  `await_ends` shows that the bound is enough whatever
other tasks do and services answer, so a caller never gives up.  The measure
counts the awaited tickets whose runs have not ended.  It cannot grow, since
later entries have later tickets, and it shrinks with each turn, since the run
that the loop waits for came before all those in the queue.
-/

variable {notebook : Notebook} {app app' : App} {trace : List Label}

/-- Tickets below a number whose runs have not ended. -/
def missing (bound : Nat) (app : App) : List Nat :=
  (List.range bound).filter fun ticket => (app.outcome? ticket).isNone

/-- Turns after which no run below a number is missing. -/
def turnsLeft (bound : Nat) (app : App) : Nat :=
  (missing bound app).length + if app.phase = .ready then 1 else 0

theorem mem_missing {bound ticket : Nat} :
    ticket ∈ missing bound app ↔ ticket < bound ∧ app.outcome? ticket = none := by
  simp [missing]

theorem missing_sublist (run : Run (.solo app) trace (.solo app')) (bound : Nat) :
    (missing bound app').Sublist (missing bound app) := by
  refine List.monotone_filter_right _ fun ticket still => ?_
  cases ended : app.outcome? ticket with
  | none => rfl
  | some outcome =>
    have later : app'.outcome? ticket = some outcome := run.outcome?_some ended
    rw [later] at still
    cases still

/-- The entries that the queue and the loop have are at least as many as the missing tickets. -/
theorem missing_length_le (reached : Run (.new notebook) trace (.solo app)) :
    (missing app.nextTicket app).length ≤ (Crew.solo app).unsettled.length := by
  rw [← List.length_map QueueEntry.ticket]
  refine (List.Nodup.subperm (List.nodup_range.filter _) fun ticket member => ?_).length_le
  rcases mem_missing.1 member with ⟨issued, none⟩
  exact (reached.ticketed.outcome?_eq_none_iff issued).1 none

/-- The bound with which a caller waits is enough. -/
theorem turnsLeft_le (reached : Run (.new notebook) trace (.solo app)) :
    turnsLeft app.nextTicket app ≤ app.turnsNeeded := by
  have few := missing_length_le reached
  have entries : (Crew.solo app).unsettled.length + (if app.phase = .ready then 1 else 0) ≤
      app.queue.pending.length + 1 := by
    cases phase : app.phase <;> simp [Crew.solo, Crew.unsettled, phase, tasksOf, Stage.held]
  unfold turnsLeft App.turnsNeeded
  omega

/-- While a run is missing, the loop is there.  If it waits, it does so for a run that came no later
than the missing one. -/
theorem loop_of_missing (reached : Run (.new notebook) trace (.solo app)) {bound ticket : Nat}
    (known : bound ≤ app.nextTicket) (member : ticket ∈ missing bound app) :
    app.phase = .ready ∨
      ∃ entry number call, app.phase = .waiting entry number call ∧
        entry.ticket ∈ missing bound app := by
  have ticketed : Ticketed (.solo app) := reached.ticketed
  rcases mem_missing.1 member with ⟨below, none⟩
  have unsettled := (ticketed.outcome?_eq_none_iff (Nat.lt_of_lt_of_le below known)).1 none
  rcases List.mem_map.1 unsettled with ⟨entry, somewhere, rfl⟩
  cases phase : app.phase with
  | absent =>
    have empty := ((owned_new notebook).run reached).absent phase
    simp [Crew.unsettled, Crew.solo, phase, tasksOf, empty, ExecutionQueue.empty] at somewhere
  | ready => exact Or.inl rfl
  | waiting first number call =>
    have atWork : Stage.waiting first number call ∈ (Crew.solo app).tasks := by
      simp [Crew.solo, phase, tasksOf]
    have inHand : first ∈ (Stage.waiting first number call).held := List.mem_singleton_self _
    have no_later : first.ticket ≤ entry.ticket := by
      rcases List.mem_append.1 somewhere with waits | held
      · exact Nat.le_of_lt (reached.held_lt_waiting atWork inHand waits)
      · have same : entry = first := by
          simpa [Crew.solo, phase, tasksOf, Stage.held] using held
        exact Nat.le_of_eq (congrArg QueueEntry.ticket same.symm)
    have below_first := Nat.lt_of_le_of_lt no_later below
    refine Or.inr ⟨first, number, call, rfl, mem_missing.2 ⟨below_first, ?_⟩⟩
    refine (ticketed.outcome?_eq_none_iff (Nat.lt_of_lt_of_le below_first known)).2 ?_
    exact List.mem_map_of_mem (List.mem_append_right _ (List.mem_flatMap.2 ⟨_, atWork, inHand⟩))

/-- A turn brings a caller nearer to the runs that are missing. -/
theorem turnsLeft_lt (reached : Run (.new notebook) trace (.solo app)) {bound : Nat}
    (known : bound ≤ app.nextTicket) (some_missing : missing bound app ≠ [])
    {later : List Label} (turned : Turned app app' later) :
    turnsLeft bound app' < turnsLeft bound app := by
  have fewer := missing_sublist turned.run bound
  rcases List.exists_mem_of_ne_nil _ some_missing with ⟨ticket, member⟩
  unfold turnsLeft
  rw [if_neg turned.rests]
  rcases loop_of_missing reached known member with ready | ⟨entry, number, call, waiting, first⟩
  · rw [if_pos ready]
    exact Nat.lt_succ_of_le fewer.length_le
  · have ended : entry.ticket ∉ missing bound app' := fun still => by
      rcases turned.ends waiting with ⟨outcome, ends⟩
      refine App.outcome?_eq_none_iff.1 (mem_missing.1 still).2 ?_
      have grown : app'.outcomes = app.outcomes ++
          (settled later).map fun settled => (settled.1.ticket, settled.2) := turned.run.outcomes
      rw [grown, List.map_append, List.map_map]
      exact List.mem_append_right _ (List.mem_map.2 ⟨_, ends, rfl⟩)
    have fewer_by_one : (missing bound app').length < (missing bound app).length :=
      Nat.lt_of_le_of_ne fewer.length_le fun same => ended (fewer.eq_of_length same ▸ first)
    exact Nat.lt_of_lt_of_le fewer_by_one (Nat.le_add_right _ _)

/-- A caller who waits for something that is there once some runs have ended is told it. -/
theorem await_ends {α : Type} {there? : App → Option α} (bound : Nat)
    (suffices_ended : ∀ app, missing bound app = [] → there? app ≠ none) {fuel : Nat}
    (reached : Run (.new notebook) trace (.solo app)) (known : bound ≤ app.nextTicket)
    (enough : turnsLeft bound app ≤ fuel) :
    (App.await there? fuel app).Ends fun ended =>
      ended.2 ≠ none ∧ there? ended.1 = ended.2 ∧
        ∃ later, Run (.solo app) later (.solo ended.1) := by
  induction fuel generalizing app trace with
  | zero =>
    have ended : missing bound app = [] := by
      unfold turnsLeft at enough
      exact List.length_eq_zero_iff.1 (by omega)
    exact ⟨suffices_ended app ended, rfl, [], .nil⟩
  | succ fuel inductionHypothesis =>
    unfold App.await
    split
    · next value found => exact ⟨nofun, found, [], .nil⟩
    · next unknown =>
      rw [Dialogue.ends_bind]
      refine (turn_ends ((owned_new notebook).run reached)).mono fun app' turn => ?_
      rcases turn with ⟨middle, turned⟩
      have some_missing : missing bound app ≠ [] := fun ended => suffices_ended app ended unknown
      have nearer := turnsLeft_lt reached known some_missing turned
      refine (inductionHypothesis (reached.append turned.run)
        (Nat.le_trans known turned.run.nextTicket_le) (by omega)).mono fun ended told => ?_
      rcases told with ⟨there, same, later, rest⟩
      exact ⟨there, same, middle ++ later, turned.run.append rest⟩

/-- A caller who runs a cell is told the outcome of the entry that the call queued, and nothing is
queued where the cell is blank or missing. -/
theorem run_ends (reached : Run (.new notebook) trace (.solo app)) (cellId : String) :
    (app.run cellId).Ends fun ended =>
      ∃ later, Run (.solo app) later (.solo ended.1) ∧
        if app.canRun cellId then
          later.head? = some (.enqueue ⟨cellId, app.nextTicket⟩) ∧
            ended.1.outcome? app.nextTicket = some ended.2
        else later = [] ∧ ended = (app, .skipped) := by
  unfold App.run
  cases runnable : app.canRun cellId with
  | false =>
    rw [App.request_of_not_canRun runnable]
    exact ⟨[], .nil, rfl, rfl⟩
  | true =>
    rw [App.request_of_canRun runnable]
    rcases enqueue_run ((owned_new notebook).run reached) cellId with ⟨start, _, queued⟩
    have reached' := reached.append queued
    have ticket_known : app.nextTicket < (app.enqueue cellId).1.nextTicket := by
      rw [App.enqueue_eq]
      exact Nat.lt_succ_self _
    unfold App.awaitOutcome
    rw [Dialogue.ends_bind]
    refine (await_ends (app.enqueue cellId).1.nextTicket ?_ reached' (Nat.le_refl _)
      (turnsLeft_le reached')).mono fun ended told => ?_
    · intro app' ended unknown
      have absent : app.nextTicket ∉ missing (app.enqueue cellId).1.nextTicket app' := by
        simp [ended]
      exact absent (mem_missing.2 ⟨ticket_known, unknown⟩)
    · rcases told with ⟨there, same, later, rest⟩
      rcases Option.ne_none_iff_exists'.1 there with ⟨outcome, known⟩
      refine ⟨_, queued.append rest, rfl, ?_⟩
      rw [same, known]
      rfl

/-- The entries that a caller queued, one for each cell that could be run. -/
def requested (cellIds : List String) (tickets : List (Option Nat)) : List QueueEntry :=
  (cellIds.zip tickets).filterMap fun (cellId, ticket) => ticket.map (QueueEntry.mk cellId)

theorem requestAll_run (owned : Owned (.solo app)) (cellIds : List String) :
    (app.requestAll cellIds).2.length = cellIds.length ∧
      ∃ trace, Run (.solo app) trace (.solo (app.requestAll cellIds).1) ∧
        enqueued trace = requested cellIds (app.requestAll cellIds).2 ∧
        ∀ label ∈ trace, label.undisturbing = true := by
  induction cellIds generalizing app with
  | nil => exact ⟨rfl, [], .nil, rfl, fun _ member => absurd member List.not_mem_nil⟩
  | cons cellId cellIds inductionHypothesis =>
    rw [App.requestAll_cons]
    cases runnable : app.canRun cellId with
    | false =>
      rw [App.request_of_not_canRun runnable]
      rcases inductionHypothesis owned with ⟨lengths, trace, run, entries, undisturbing⟩
      exact ⟨congrArg (· + 1) lengths, trace, run, entries, undisturbing⟩
    | true =>
      rw [App.request_of_canRun runnable]
      rcases enqueue_run owned cellId with ⟨start, silent, queued⟩
      rcases inductionHypothesis (owned.run queued) with
        ⟨lengths, trace, run, entries, undisturbing⟩
      refine ⟨congrArg (· + 1) lengths, _, queued.append run, ?_, fun label member => ?_⟩
      · have first : enqueued (.enqueue ⟨cellId, app.nextTicket⟩ :: start ++ trace) =
            ⟨cellId, app.nextTicket⟩ :: enqueued trace := by
          rw [enqueued, List.flatMap_append, List.flatMap_cons]
          exact congrArg (⟨cellId, app.nextTicket⟩ :: · ++ enqueued trace) silent.enqueued
        rw [first, entries]
        rfl
      · rcases List.mem_append.1 member with here | there
        · rcases List.mem_cons.1 here with rfl | start
          · rfl
          · exact silent.undisturbing label start
        · exact undisturbing label there

/-- A caller has no ticket for a cell exactly if it is blank or missing. -/
theorem canRun_of_ticket {cellIds : List String} {cellId : String} {ticket : Option Nat}
    (asked : (cellId, ticket) ∈ cellIds.zip (app.requestAll cellIds).2) :
    app.canRun cellId = ticket.isSome := by
  induction cellIds generalizing app with
  | nil => cases asked
  | cons first cellIds inductionHypothesis =>
    rw [App.requestAll_cons, List.zip_cons_cons] at asked
    cases runnable : app.canRun first with
    | false =>
      rw [App.request_of_not_canRun runnable] at asked
      rcases List.mem_cons.1 asked with here | there
      · cases here
        exact runnable
      · exact inductionHypothesis there
    | true =>
      rw [App.request_of_canRun runnable] at asked
      rcases List.mem_cons.1 asked with here | there
      · cases here
        exact runnable
      · rw [← inductionHypothesis there, App.canRun_enqueue]

/-- A ticket that a caller waits for belongs to an entry that the caller queued. -/
theorem exists_requested {cellIds : List String} {tickets : List (Option Nat)} {ticket : Nat}
    (lengths : tickets.length = cellIds.length) (member : some ticket ∈ tickets) :
    ∃ entry ∈ requested cellIds tickets, entry.ticket = ticket := by
  rcases List.mem_iff_getElem.1 member with ⟨position, within, here⟩
  have paired : (cellIds[position], some ticket) ∈ cellIds.zip tickets := by
    rw [← here]
    exact List.mem_iff_getElem.2 ⟨position, by simpa [lengths] using within, by simp⟩
  exact ⟨_, List.mem_filterMap.2 ⟨_, paired, rfl⟩, rfl⟩

/-- What is looked up for a list is, member by member, what is looked up for its members. -/
theorem map_some_of_mapM {α β : Type} {f : α → Option β} {values : List α} {results : List β}
    (found : values.mapM f = some results) : results.map some = values.map f := by
  induction values generalizing results with
  | nil =>
    cases found
    rfl
  | cons value values inductionHypothesis =>
    rw [List.mapM_cons] at found
    rcases Option.bind_eq_some_iff.1 found with ⟨result, here, rest⟩
    rcases Option.bind_eq_some_iff.1 rest with ⟨others, there, same⟩
    cases same
    rw [List.map_cons, List.map_cons, here, inductionHypothesis there]

theorem mapM_ne_none_iff {α β : Type} {f : α → Option β} {values : List α} :
    values.mapM f ≠ none ↔ ∀ value ∈ values, f value ≠ none := by
  constructor
  · intro there value member unknown
    rcases Option.ne_none_iff_exists'.1 there with ⟨results, found⟩
    have among : none ∈ results.map some := by
      rw [map_some_of_mapM found, ← unknown]
      exact List.mem_map_of_mem member
    rcases List.mem_map.1 among with ⟨result, _, same⟩
    cases same
  · intro there
    induction values with
    | nil => simp
    | cons value values inductionHypothesis =>
      rcases Option.ne_none_iff_exists'.1 (there value List.mem_cons_self) with ⟨result, found⟩
      rcases Option.ne_none_iff_exists'.1 (inductionHypothesis fun other member => there other
          (List.mem_cons_of_mem _ member)) with
        ⟨results, rest⟩
      simp [List.mapM_cons, found, rest]

/-- A caller who runs several cells at once is told, position by position, the outcomes of the entries
that the call queued. -/
theorem runTogether_ends (reached : Run (.new notebook) trace (.solo app))
    (cellIds : List String) :
    (app.runTogether cellIds).Ends fun ended =>
      ∃ queueing later, Run (.solo app) (queueing ++ later) (.solo ended.1) ∧
        enqueued queueing = requested cellIds (app.requestAll cellIds).2 ∧
          ended.2.map some = (app.requestAll cellIds).2.map ended.1.requested? := by
  rcases requestAll_run ((owned_new notebook).run reached) cellIds with
    ⟨lengths, queueing, queued, entries, _⟩
  unfold App.runTogether
  generalize app.requestAll cellIds = asked at *
  rcases asked with ⟨asked, tickets⟩
  have reached' := reached.append queued
  have issued : ∀ ticket, some ticket ∈ tickets → ticket < asked.nextTicket := by
    intro ticket member
    rcases exists_requested lengths member with ⟨entry, mine, rfl⟩
    have given : entry.ticket ∈ (enqueued queueing).map QueueEntry.ticket :=
      List.mem_map_of_mem (entries ▸ mine)
    refine List.mem_range.1 (queued.tickets_in_order ▸ ?_)
    exact List.mem_append_right _ given
  rw [Dialogue.ends_bind]
  refine (await_ends asked.nextTicket ?_ reached' (Nat.le_refl _)
    (turnsLeft_le reached')).mono fun ended told => ?_
  · intro app' ended
    refine mapM_ne_none_iff.2 fun ticket member => ?_
    cases ticket with
    | none => exact nofun
    | some ticket =>
      intro unknown
      have absent : ticket ∉ missing asked.nextTicket app' := by simp [ended]
      exact absent (mem_missing.2 ⟨issued ticket member, unknown⟩)
  · rcases told with ⟨there, same, later, rest⟩
    rcases Option.ne_none_iff_exists'.1 there with ⟨outcomes, known⟩
    refine ⟨queueing, later, queued.append rest, entries, ?_⟩
    rw [known] at same ⊢
    exact map_some_of_mapM same

end Interleaving
end AsmNotebook
