import AsmNotebook.Proofs.Interleaving.Turns
import AsmNotebook.Proofs.Sequential

namespace AsmNotebook
namespace Interleaving

/-!
# Undisturbed runs have the meaning of the fold

While nobody edits and no call dies, every schedule does the same.  The proof
settles accounts after each step: `settled up` is what the desk will be once
the task has finished the entry that it is at and all waiting entries have
been executed.  A step of the task does not change this, and an enqueue adds
one execution at the end.
-/

open AsmNotebook.Sequential

variable {σ : Type}

/-- Steps among which there is no edit and no crash, and services answer as they do. -/
inductive Undisturbed (respond : Responder σ) : σ → List Label → σ → Prop
  | nil {services : σ} : Undisturbed respond services [] services
  | step {services services' : σ} {label : Label} {trace : List Label}
      (undisturbing : label.undisturbing = true)
      (rest : Undisturbed respond services trace services') :
      Undisturbed respond services (label :: trace) services'
  | answer {services services' : σ} {entry : QueueEntry} {call : ServiceCall}
      {trace : List Label}
      (rest : Undisturbed respond (respond services call).1 trace services') :
      Undisturbed respond services (.answer entry call (respond services call).2 :: trace) services'

namespace Undisturbed

variable {respond : Responder σ} {services services' services'' : σ}
  {before after trace : List Label}

theorem append (first : Undisturbed respond services before services')
    (second : Undisturbed respond services' after services'') :
    Undisturbed respond services (before ++ after) services'' := by
  induction first with
  | nil => exact second
  | step undisturbing _ inductionHypothesis =>
    exact step undisturbing (inductionHypothesis second)
  | answer _ inductionHypothesis => exact answer (inductionHypothesis second)

theorem of_undisturbing (undisturbing : ∀ label ∈ trace, label.undisturbing = true) :
    Undisturbed respond services trace services := by
  induction trace with
  | nil => exact nil
  | cons label trace inductionHypothesis =>
    apply step
    · exact undisturbing label List.mem_cons_self
    · exact inductionHypothesis fun other member =>
        undisturbing other (List.mem_cons_of_mem _ member)

end Undisturbed

/-- What runs of cells change in an application, with what the services remember. -/
def desk (app : App) (services : σ) : Desk σ where
  notebook := app.notebook
  processor := app.processor
  calls := app.calls
  services := services

/-- A desk with the outcomes on record. -/
abbrev Ledger (σ : Type) : Type :=
  Desk σ × List (Nat × RunOutcome)

def ledger (app : App) (services : σ) : Ledger σ :=
  (desk app services, app.outcomes)

@[simp] theorem ledger_fst (app : App) (services : σ) :
    (ledger app services).1 = desk app services :=
  rfl

variable (respond : Responder σ)

/-- Put the end of the run of an entry on record. -/
def note (entry : QueueEntry) (outcomes : List (Nat × RunOutcome))
    (executed : Desk σ × RunOutcome) : Ledger σ :=
  (executed.1, outcomes ++ [(entry.ticket, executed.2)])

/-- Execute the cell of an entry. -/
def perform (accounts : Ledger σ) (entry : QueueEntry) : Ledger σ :=
  note entry accounts.2 (accounts.1.execute respond entry.cellId)

/-- To execute the cells of entries is to execute all of them as a fold, and to put the outcomes on
record. -/
theorem foldl_perform (entries : List QueueEntry) (accounts : Ledger σ) :
    entries.foldl (perform respond) accounts =
      ((accounts.1.executeAll respond (entries.map QueueEntry.cellId)).1,
        accounts.2 ++ (entries.map QueueEntry.ticket).zip
          (accounts.1.executeAll respond (entries.map QueueEntry.cellId)).2) := by
  induction entries generalizing accounts with
  | nil => exact congrArg (Prod.mk accounts.1) (List.append_nil _).symm
  | cons entry entries inductionHypothesis =>
    rw [List.foldl_cons, inductionHypothesis, List.map_cons, List.map_cons, Desk.executeAll_cons,
      List.zip_cons_cons]
    simp only [perform, note, List.append_assoc, List.singleton_append]

/-- The ledger once a task has finished the entry that it is at. -/
def Stage.settleUp (accounts : Ledger σ) : Stage → Ledger σ
  | taken entry => perform respond accounts entry
  | begun entry source =>
    let dispatched := accounts.1.dispatch respond source
    note entry accounts.2 (dispatched.1.store entry.cellId dispatched.2)
  | waiting entry _ call =>
    let answered := respond accounts.1.services call
    note entry accounts.2
      ({ accounts.1 with services := answered.1 }.store entry.cellId (conclude call answered.2))
  | dispatched entry dispatch => note entry accounts.2 (accounts.1.store entry.cellId dispatch)
  | ended entry outcome => note entry accounts.2 (accounts.1, outcome)
  | released entry outcome => note entry accounts.2 (accounts.1, outcome)
  | _ => accounts

/-- The ledger once all entries have been executed. -/
def Crew.settleUp (services : σ) (crew : Crew) : Ledger σ :=
  crew.app.queue.pending.foldl (perform respond)
    (crew.tasks.foldl (Stage.settleUp respond) (ledger crew.app services))

variable {respond}
variable {app app' : App} {stage : Stage} {label : Label} {next : Option Stage} {services : σ}

theorem store_ledger (cellId : String) (dispatch : Dispatch) (app : App) (services : σ) :
    ledger (app.store cellId dispatch).1 services =
        (((desk app services).store cellId dispatch).1, app.outcomes) ∧
      (app.store cellId dispatch).2 = ((desk app services).store cellId dispatch).2 := by
  unfold App.store Desk.store ledger desk
  cases dispatch.effect <;> exact ⟨rfl, rfl⟩

/-- A step of a task does not change what the ledger will be. -/
theorem Advance.settleUp (advance : Advance app stage label app' next)
    (undisturbing : label.undisturbing = true) (showing : app.queue.executing = stage.cell?) :
    app'.queue.pending.foldl (perform respond)
        (next.toList.foldl (Stage.settleUp respond) (ledger app' services)) =
      app.queue.pending.foldl (perform respond)
        (Stage.settleUp respond (ledger app services) stage) := by
  cases advance with
  | spawn => rfl
  | leave found =>
    rcases App.take_none found with ⟨queue, rfl, blocked | ⟨_, empty, rfl⟩⟩
    · exact absurd showing blocked.1
    · rw [empty]
      rfl
  | dequeue found =>
    rcases App.take_some found with ⟨rest, _, pending, rfl⟩
    rw [pending]
    rfl
  | @pass _ entry found =>
    rcases App.begin_none found with ⟨rfl, passed⟩
    have skipped : (desk app' services).execute respond entry.cellId =
        ((desk app' services), .skipped) := Desk.execute_none respond passed
    change _ = List.foldl _ (perform respond (ledger app' services) entry) _
    rw [perform, ledger_fst, skipped]
    rfl
  | @begin _ entry source found =>
    rcases App.begin_some found with ⟨notebook, begun, rfl⟩
    have executed : (desk app services).execute respond entry.cellId = _ :=
      Desk.execute_some respond begun
    change _ = List.foldl _ (perform respond (ledger app services) entry) _
    rw [perform, ledger_fst, executed]
    rfl
  | @reply entry source output routed =>
    have dispatched : (desk app services).dispatch respond source =
        ((desk app services), .plain output) := by
      rw [Desk.dispatch, routed]
    simp only [Option.toList_some, List.foldl_cons, List.foldl_nil, Stage.settleUp, ledger_fst,
      dispatched]
  | @call entry source call routed =>
    have dispatched : (desk app services).dispatch respond source =
        ({ (desk app services) with
            calls := app.calls ++ [call], services := (respond services call).1 },
          conclude call (respond services call).2) := by
      rw [Desk.dispatch, routed]
      rfl
    simp only [Option.toList_some, List.foldl_cons, List.foldl_nil, Stage.settleUp, ledger_fst,
      dispatched]
    rfl
  | @store entry dispatch =>
    rcases store_ledger entry.cellId dispatch app services with ⟨stored, outcome⟩
    simp only [Option.toList_some, List.foldl_cons, List.foldl_nil, Stage.settleUp,
      ledger_fst, App.store_queue, stored, outcome]
    rfl
  | @release entry outcome =>
    have shown : app.queue.executing = some entry.cellId := showing
    simp only [App.release, ExecutionQueue.complete, shown, if_true]
    rfl
  | finish => rfl
  | answer | crash | drop | abandon | abandonIdle | recover | cancel | vanish =>
    cases undisturbing

/-- Tasks that gave the queue up have nothing to finish. -/
theorem foldl_settleUp_of_dead {tasks : List Stage} (dead : tasks.filter Stage.live = [])
    (accounts : Ledger σ) : tasks.foldl (Stage.settleUp respond) accounts = accounts := by
  induction tasks with
  | nil => rfl
  | cons stage tasks inductionHypothesis =>
    cases stage with
    | recovering | cancelling => exact inductionHypothesis dead
    | _ => cases dead

/-- Only the live task has something to finish. -/
theorem foldl_settleUp_of_alone {before after middle : List Stage}
    (front : before.filter Stage.live = []) (back : after.filter Stage.live = [])
    (accounts : Ledger σ) :
    (before ++ middle ++ after).foldl (Stage.settleUp respond) accounts =
      middle.foldl (Stage.settleUp respond) accounts := by
  rw [List.foldl_append, List.foldl_append, foldl_settleUp_of_dead front,
    foldl_settleUp_of_dead back]

variable {crew crew' last : Crew} {trace : List Label} {services' : σ}

/-- An undisturbing step executes, in the end, the entries that it queues. -/
theorem Step.settleUp (step : Step crew label crew') (owned : Owned crew)
    (undisturbing : label.undisturbing = true) :
    crew'.settleUp respond services =
      label.adds.foldl (perform respond) (crew.settleUp respond services) := by
  cases step with
  | @enqueue app tasks cellId =>
    have idle : ∀ accounts : Ledger σ,
        (owedBy cellId app).foldl (Stage.settleUp respond) accounts = accounts := by
      intro accounts
      unfold owedBy
      split <;> rfl
    rw [App.enqueue_eq]
    simp only [Crew.settleUp, List.foldl_append, idle]
    change List.foldl _ _ (app.queue.pending ++ [_]) = _
    rw [List.foldl_append]
    rfl
  | @task app app' stage _ next before after advance =>
    have live : stage.live = true := by
      cases advance with
      | recover | cancel | vanish => cases undisturbing
      | _ => rfl
    rcases owned.alone live with ⟨front, back, _, showing⟩
    have here : before ++ stage :: after = before ++ [stage] ++ after := by simp
    rw [advance.fifo.2, here]
    simp only [Crew.settleUp, foldl_settleUp_of_alone front back]
    exact advance.settleUp undisturbing showing
  | announce => rfl
  | edit | processor | consult => cases undisturbing

/-- After an undisturbed run the ledger will be what executing all that came makes of it. -/
theorem Run.settleUp (run : Run crew trace last) (owned : Owned crew)
    (undisturbed : Undisturbed respond services trace services') :
    last.settleUp respond services' =
      (enqueued trace).foldl (perform respond) (crew.settleUp respond services) := by
  induction run generalizing services with
  | nil =>
    cases undisturbed
    rfl
  | @cons crew next last label trace step _ inductionHypothesis =>
    have came : enqueued (label :: trace) = label.adds ++ enqueued trace := rfl
    rw [came, List.foldl_append]
    cases undisturbed with
    | step undisturbing rest =>
      rw [inductionHypothesis (owned.step step) rest, step.settleUp owned undisturbing]
    | @answer _ _ entry call _ rest =>
      rw [inductionHypothesis (owned.step step) rest]
      cases step with
      | @task app app' stage _ next before after advance =>
        cases advance with
        | @answer _ number _ _ =>
          rcases owned.alone rfl with ⟨front, back, _, _⟩
          have here : before ++ Stage.waiting entry number call :: after =
              before ++ [.waiting entry number call] ++ after := by simp
          rw [here]
          simp only [Crew.settleUp, foldl_settleUp_of_alone front back]
          rfl

/-- Once every run has ended there is nothing to settle. -/
theorem settleUp_of_ended (ended : crew.unsettled = []) :
    crew.settleUp respond services = ledger crew.app services := by
  rcases List.append_eq_nil_iff.1 ended with ⟨empty, idle⟩
  rw [Crew.settleUp, empty]
  change crew.tasks.foldl _ _ = _
  generalize crew.tasks = tasks at idle
  induction tasks with
  | nil => rfl
  | cons stage tasks inductionHypothesis =>
    rcases List.append_eq_nil_iff.1 idle with ⟨held, others⟩
    cases stage with
    | owed | ready | unwinding | recovering | cancelling => exact inductionHypothesis others
    | taken | begun | waiting | dispatched | ended | released | dying => cases held

end Interleaving
end AsmNotebook
