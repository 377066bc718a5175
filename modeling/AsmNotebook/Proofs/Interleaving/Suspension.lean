import AsmNotebook.App.Run
import AsmNotebook.Proofs.Interleaving.OneThread

namespace AsmNotebook

/-!
# Where work waits

Work of the application waits at its calls and nowhere else, and others see
the application as it stands there.  `Work.Visits` says of all these points at
once, and of all steps that other tasks take meanwhile, what holds of the
application.  `job_visits` shows for everything that callers have done that
each such point is reached by a run on one thread.

A failure is explained while the loop may take turns.  What stands between two
of them is what the same work ends with if the assistant refuses to answer
there, so nothing is missed.
-/

namespace Work

variable {α β : Type} {allowed : Edit → Prop} {holds : App → Prop} {ends : α → Prop}

open Interleaving in
/-- Wherever work waits for the answer to a call, something holds of the application, also after steps
that other tasks take meanwhile, and something holds of the value that the work ends with.  Other
tasks make allowed edits only. -/
inductive Visits (allowed : Edit → Prop) (holds : App → Prop) (ends : α → Prop) : Work α → Prop
  | done {value : α} (ended : ends value) : Visits allowed holds ends (.done value)
  | attend {waiting : App.OpenCall} {next : App.Attendance waiting.call → Work α}
      (stands : ∀ actions, Permitted allowed actions → holds (waiting.app.attend actions))
      (rest : ∀ attendance, Permitted allowed attendance.actions →
        Visits allowed holds ends (next attendance)) :
      Visits allowed holds ends (.ask (.attend waiting) next)
  | errand {errand : Errand} {next : errand.Reply → Work α}
      (rest : ∀ reply, Visits allowed holds ends (next reply)) :
      Visits allowed holds ends (.ask (.errand errand) next)

namespace Visits

variable {work : Work α}

theorem bind {ends' : β → Prop} {f : α → Work β} (visits : Visits allowed holds ends work)
    (rest : ∀ value, ends value → Visits allowed holds ends' (f value)) :
    Visits allowed holds ends' (Dialogue.bind work f) := by
  induction visits with
  | done ended => exact rest _ ended
  | attend stands _ inductionHypothesis => exact .attend stands inductionHypothesis
  | errand _ inductionHypothesis => exact .errand inductionHypothesis

theorem mono {weaker : App → Prop} {ends' : α → Prop} (visits : Visits allowed holds ends work)
    (implies : ∀ app, holds app → weaker app) (implies' : ∀ value, ends value → ends' value) :
    Visits allowed weaker ends' work := by
  induction visits with
  | done ended => exact .done (implies' _ ended)
  | attend stands _ inductionHypothesis =>
    apply Visits.attend
    · intro actions permitted
      exact implies _ (stands actions permitted)
    · exact inductionHypothesis
  | errand _ inductionHypothesis => exact .errand inductionHypothesis

end Visits

end Work

/-- What callers have the application do that takes waiting. -/
inductive Job
  /-- Let the loop take one turn. -/
  | turn
  | run (cellId : String)
  | runTogether (cellIds : List String)
  | runEach (cellIds : List String)
  | runAll
  | awaitIdle (fuel : Nat)
  | explain (cellId : String)
  | importFile (path : String)

namespace Job

/-- What a job returns. -/
abbrev Result : Job → Type
  | turn => Unit
  | run _ => RunOutcome
  | runTogether _ => List RunOutcome
  | runEach _ => List (String × RunOutcome)
  | runAll => List (String × RunOutcome)
  | awaitIdle _ => Unit
  | explain _ => Except App.ExplanationFault String
  | importFile _ => Except Report Nat

/-- A job done by the application. -/
def work (app : App) : (job : Job) → Work (App × job.Result)
  | turn => app.turn.bind fun app => .done (app, ())
  | run cellId => app.run cellId
  | runTogether cellIds => app.runTogether cellIds
  | runEach cellIds => app.runEach cellIds
  | runAll => app.runAll
  | awaitIdle fuel => (app.awaitIdle fuel).bind fun app => .done (app, ())
  | explain cellId => app.explain cellId
  | importFile path => app.importFile path

end Job

namespace Interleaving

variable {start : Crew} {allowed : Edit → Prop} {app : App}

theorem turn_visits (stands : Stands start allowed app) (before : Owned start) :
    app.turn.Visits allowed (Stands start allowed) (Stands start allowed) := by
  unfold App.turn
  split
  · exact .done stands
  · next ready => exact .done (stands.advance ready)
  · next entry number call waiting =>
    apply Work.Visits.attend
    · intro actions permitted
      exact stands.attend before permitted
    · intro attendance permitted
      have meanwhile := permitted.of_subset (List.subset_append_right _ attendance.meanwhile)
      exact .done (stands.resume before waiting meanwhile)

theorem await_visits {α : Type} (there? : App → Option α) (fuel : Nat)
    (stands : Stands start allowed app) (before : Owned start) :
    (App.await there? fuel app).Visits allowed (Stands start allowed) fun ended =>
      Stands start allowed ended.1 := by
  induction fuel generalizing app with
  | zero => exact .done stands
  | succ fuel inductionHypothesis =>
    unfold App.await
    split
    · exact .done stands
    · apply (turn_visits stands before).bind
      intro app' stands'
      exact inductionHypothesis stands'

theorem run_visits (cellId : String) (stands : Stands start allowed app) (before : Owned start) :
    (app.run cellId).Visits allowed (Stands start allowed) fun ended =>
      Stands start allowed ended.1 := by
  unfold App.run
  cases runnable : app.canRun cellId with
  | false =>
    rw [App.request_of_not_canRun runnable]
    exact .done stands
  | true =>
    rw [App.request_of_canRun runnable]
    apply (await_visits _ _ (stands.enqueue before cellId) before).bind
    intro ended stands'
    exact .done stands'

theorem Stands.requestAll (cellIds : List String) (stands : Stands start allowed app)
    (before : Owned start) : Stands start allowed (app.requestAll cellIds).1 := by
  induction cellIds generalizing app with
  | nil => exact stands
  | cons cellId cellIds inductionHypothesis =>
    rw [App.requestAll_cons]
    apply inductionHypothesis
    cases runnable : app.canRun cellId with
    | false =>
      rw [App.request_of_not_canRun runnable]
      exact stands
    | true =>
      rw [App.request_of_canRun runnable]
      exact stands.enqueue before cellId

theorem runTogether_visits (cellIds : List String) (stands : Stands start allowed app)
    (before : Owned start) :
    (app.runTogether cellIds).Visits allowed (Stands start allowed) fun ended =>
      Stands start allowed ended.1 := by
  unfold App.runTogether
  apply (await_visits _ _ (stands.requestAll cellIds before) before).bind
  intro ended stands'
  exact .done stands'

theorem runEach_visits (cellIds : List String) (stands : Stands start allowed app)
    (before : Owned start) :
    (app.runEach cellIds).Visits allowed (Stands start allowed) fun ended =>
      Stands start allowed ended.1 := by
  induction cellIds generalizing app with
  | nil => exact .done stands
  | cons cellId cellIds inductionHypothesis =>
    unfold App.runEach
    apply (run_visits cellId stands before).bind
    rintro ⟨app', _⟩ stands'
    apply (inductionHypothesis stands').bind
    rintro ⟨app'', _⟩ stands''
    exact .done stands''

theorem awaitIdle_visits (fuel : Nat) (stands : Stands start allowed app) (before : Owned start) :
    (app.awaitIdle fuel).Visits allowed (Stands start allowed) (Stands start allowed) := by
  apply (await_visits _ fuel stands before).bind
  rintro ⟨app', _⟩ stands'
  exact .done stands'

theorem takeTurns_visits (turns : List (List App.Action)) (stands : Stands start allowed app)
    (before : Owned start) (permitted : Permitted allowed turns.flatten) :
    (app.takeTurns turns).Visits allowed (Stands start allowed) (Stands start allowed) := by
  induction turns generalizing app with
  | nil => exact .done stands
  | cons actions rest inductionHypothesis =>
    have attended := stands.attend before (permitted.of_subset (List.subset_append_left actions _))
    apply (turn_visits attended before).bind
    intro app' stands'
    exact inductionHypothesis stands' (permitted.of_subset (List.subset_append_right actions _))

theorem explain_visits (cellId : String) (attaches : ∀ id text, allowed (.attach id text))
    (stands : Stands start allowed app) (before : Owned start) :
    (app.explain cellId).Visits allowed (Stands start allowed) fun ended =>
      Stands start allowed ended.1 := by
  unfold App.explain
  split
  · exact .done stands
  · next code failure _ =>
    have asked := stands.consult (explanationPrompt code failure)
    apply Work.Visits.attend
    · intro actions permitted
      exact asked.attend before permitted
    · intro attendance permitted
      have turns := permitted.of_subset (List.subset_append_left attendance.turns.flatten _)
      have meanwhile := permitted.of_subset (List.subset_append_right _ attendance.meanwhile)
      apply (takeTurns_visits attendance.turns asked before turns).bind
      intro app' stands'
      have attended := stands'.attend before meanwhile
      dsimp only
      split
      · exact .done attended
      · exact .done attended
      · next text _ =>
        apply Work.Visits.done
        apply attended.act before (.edit (.attach cellId text))
        intro edit same
        cases same
        exact attaches cellId text

theorem importFile_visits (path : String) (imports : ∀ text, allowed (.importText text))
    (stands : Stands start allowed app) (before : Owned start) :
    (app.importFile path).Visits allowed (Stands start allowed) fun ended =>
      Stands start allowed ended.1 := by
  apply Work.Visits.errand
  intro contents
  cases contents with
  | error fault =>
    apply Work.Visits.done
    apply stands.act before .announce
    intro edit same
    cases same
  | ok text =>
    have imported : Stands start allowed (app.edit (.importText text)).1 := by
      apply stands.act before (.edit (.importText text))
      intro edit same
      cases same
      exact imports text
    dsimp only
    split
    · next app' count same =>
      rw [same] at imported
      exact .done imported
    · next app' fault same =>
      rw [same] at imported
      exact .done imported

/-- Wherever a job waits, the application is at rest after steps on one thread. -/
theorem job_visits (job : Job) (attaches : ∀ id text, allowed (.attach id text))
    (imports : ∀ text, allowed (.importText text)) (stands : Stands start allowed app)
    (before : Owned start) :
    (job.work app).Visits allowed (Stands start allowed) fun ended =>
      Stands start allowed ended.1 := by
  cases job with
  | turn =>
    apply (turn_visits stands before).bind
    intro app' stands'
    exact .done stands'
  | run cellId => exact run_visits cellId stands before
  | runTogether cellIds => exact runTogether_visits cellIds stands before
  | runEach cellIds => exact runEach_visits cellIds stands before
  | runAll => exact runEach_visits _ stands before
  | awaitIdle fuel =>
    apply (awaitIdle_visits fuel stands before).bind
    intro app' stands'
    exact .done stands'
  | explain cellId => exact explain_visits cellId attaches stands before
  | importFile path => exact importFile_visits path imports stands before

end Interleaving
end AsmNotebook
