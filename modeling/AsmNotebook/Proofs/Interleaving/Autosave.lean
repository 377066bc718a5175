import AsmNotebook.Proofs.Interleaving.News
import AsmNotebook.Session.Autosaver
import Mathlib.Logic.Relation

namespace AsmNotebook
namespace Interleaving

/-!
# The file follows the notebook

The autosaver is one more task beside those that drain the queue.  It makes
one move at a time, and the application may take any number of steps between
two moves: while the quiet period runs, between the copy and the write, while
the channel overflows.  The application may go at any time.

A change that is not in the file is never out of sight.  Either the channel
still holds word of it, or the autosaver has yet to take its next copy.  So
wherever the autosaver comes to rest, the file is up to date.
-/

/-- One move of an autosaver beside an application with a notebook, which may be gone.  The quiet
period may be over while something is left to read. -/
inductive SaverMove (notebook : Notebook) (closed : Bool) : Autosaver → Autosaver → Prop
  | receive {saver : Autosaver} (listening : saver.phase.listens = true)
      (news : saver.hasNews = true) : SaverMove notebook closed saver saver.receive
  | expire {saver : Autosaver} (settling : saver.phase = .settling) :
      SaverMove notebook closed saver saver.expire
  | part {saver : Autosaver} (listening : saver.phase.listens = true)
      (silent : saver.hasNews = false) (gone : closed = true) :
      SaverMove notebook closed saver saver.part
  | copy {saver : Autosaver} {last : Bool} (savedAt : String) (due : saver.phase = .due last) :
      SaverMove notebook closed saver (saver.copy savedAt notebook)
  | write {saver : Autosaver} {document : SessionDocument} {last : Bool}
      (writing : saver.phase = .writing document last) :
      SaverMove notebook closed saver saver.write

/-- Moves of an autosaver while nothing else happens. -/
abbrev SaverMoves (notebook : Notebook) (closed : Bool) : Autosaver → Autosaver → Prop :=
  Relation.ReflTransGen (SaverMove notebook closed)

/-- An application at work, with its autosaver. -/
structure Watch where
  crew : Crew
  /-- Whether the application is gone. -/
  closed : Bool
  saver : Autosaver

namespace Watch

/-- An autosaver that has just begun to follow an application. -/
def start (crew : Crew) (file : Option String) : Watch where
  crew := crew
  closed := false
  saver := .start file

/-- One step of the application, its end, or one move of the autosaver. -/
inductive Step : Watch → Watch → Prop
  | crew {crew crew' : Crew} {label : Label} {saver : Autosaver} {news : List Event}
      (step : Interleaving.Step crew label crew')
      (heard : crew'.app.events = crew.app.events ++ news) :
      Step ⟨crew, false, saver⟩ ⟨crew', false, saver.hearAll news⟩
  | leave {crew : Crew} {saver : Autosaver} : Step ⟨crew, false, saver⟩ ⟨crew, true, saver⟩
  | saver {crew : Crew} {closed : Bool} {saver saver' : Autosaver}
      (move : SaverMove crew.app.notebook closed saver saver') :
      Step ⟨crew, closed, saver⟩ ⟨crew, closed, saver'⟩

/-- What was announced since some state of the application. -/
def news (since : App) (watch : Watch) : List Event :=
  watch.crew.app.events.drop since.events.length

/-- Whether a change of the document was announced since some state of the application. -/
def changed (since : App) (watch : Watch) : Bool :=
  (watch.news since).any Event.touchesDocument

/-- No change was announced, the notebook is what it was, and so is the file. -/
structure Untouched (since : App) (file : Option String) (watch : Watch) : Prop where
  unannounced : watch.changed since = false
  notebook : watch.crew.app.notebook = since.notebook
  file : watch.saver.file = file

/-- The file keeps the notebook as it is now. -/
def Saved (watch : Watch) : Prop :=
  ∃ savedAt, watch.saver.file = some (watch.crew.app.notebook.save savedAt)

/-- Nothing is left to write. -/
def UpToDate (since : App) (file : Option String) (watch : Watch) : Prop :=
  watch.Untouched since file ∨ watch.Saved

end Watch

/-- What every step keeps.  Where the autosaver waits, or is about to write its copy, the file is or
will be up to date unless the channel holds word of a change. -/
structure Tracked (since : App) (file : Option String) (watch : Watch) : Prop where
  grown : since.events.length ≤ watch.crew.app.events.length
  waiting : watch.saver.phase = .watching ∨ watch.saver.phase = .stopped →
    watch.saver.pending = true ∨ watch.UpToDate since file
  copied : ∀ document last, watch.saver.phase = .writing document last →
    watch.saver.pending = true ∨
      ∃ savedAt, document = .ofNotebook savedAt watch.crew.app.notebook
  closing : watch.saver.phase.closing = true →
    watch.closed = true ∧ watch.saver.hasNews = false

variable {since : App} {file : Option String} {watch watch' : Watch}
variable {crew crew' : Crew} {closed closed' : Bool} {saver saver' : Autosaver}

theorem Watch.news_of_events {news : List Event}
    (grown : since.events.length ≤ crew.app.events.length)
    (heard : crew'.app.events = crew.app.events ++ news) :
    Watch.news since ⟨crew', closed, saver'⟩ = Watch.news since ⟨crew, closed, saver⟩ ++ news := by
  simp only [Watch.news, heard, List.drop_append_of_le_length grown]

/-- Of the autosaver, only its file matters. -/
theorem Watch.UpToDate.of_file (upToDate : Watch.UpToDate since file ⟨crew, closed, saver⟩)
    (same : saver'.file = saver.file) : Watch.UpToDate since file ⟨crew, closed', saver'⟩ := by
  rcases upToDate with untouched | ⟨savedAt, saved⟩
  · exact Or.inl ⟨untouched.unannounced, untouched.notebook, same.trans untouched.file⟩
  · exact Or.inr ⟨savedAt, same.trans saved⟩

/-- After a step of the application, either the channel holds word of a change or the notebook is as
it was. -/
theorem pending_or_silent {label : Label} {news : List Event} (step : Step crew label crew')
    (heard : crew'.app.events = crew.app.events ++ news) (saver : Autosaver) :
    (saver.hearAll news).pending = true ∨
      news.any Event.touchesDocument = false ∧ crew'.app.notebook = crew.app.notebook := by
  have told : label.touches crew'.app.queue.state = news.any Event.touchesDocument := by
    rw [Label.touches, List.append_cancel_left (step.events.symm.trans heard)]
  cases touched : news.any Event.touchesDocument with
  | true => exact Or.inl (Autosaver.pending_hearAll (Or.inl touched))
  | false => exact Or.inr ⟨rfl, step.notebook_of_silence (told.trans touched)⟩

/-- News that tell of no change leave a file up to date. -/
theorem Watch.UpToDate.of_silence {news : List Event}
    (upToDate : Watch.UpToDate since file ⟨crew, closed, saver⟩)
    (grown : since.events.length ≤ crew.app.events.length)
    (heard : crew'.app.events = crew.app.events ++ news)
    (silent : news.any Event.touchesDocument = false)
    (same : crew'.app.notebook = crew.app.notebook) :
    Watch.UpToDate since file ⟨crew', closed, saver.hearAll news⟩ := by
  have unchanged : Watch.changed since ⟨crew', closed, saver.hearAll news⟩ =
      Watch.changed since ⟨crew, closed, saver⟩ := by
    rw [Watch.changed, Watch.changed, Watch.news_of_events grown heard, List.any_append, silent,
      Bool.or_false]
  have kept := saver.hearAll_file news
  rcases upToDate with untouched | ⟨savedAt, saved⟩
  · refine Or.inl ⟨?_, ?_, ?_⟩
    · exact unchanged.trans untouched.unannounced
    · exact same.trans untouched.notebook
    · exact kept.trans untouched.file
  · refine Or.inr ⟨savedAt, ?_⟩
    rw [same]
    exact kept.trans saved

/-- After a step of the application. -/
theorem Tracked.step_crew {label : Label} {news : List Event}
    (tracked : Tracked since file ⟨crew, false, saver⟩) (step : Step crew label crew')
    (heard : crew'.app.events = crew.app.events ++ news) :
    Tracked since file ⟨crew', false, saver.hearAll news⟩ where
  grown := by
    rw [heard, List.length_append]
    exact Nat.le_add_right_of_le tracked.grown
  waiting := by
    intro waits
    rw [Autosaver.hearAll_phase] at waits
    rcases pending_or_silent step heard saver with pending | ⟨silent, same⟩
    · exact Or.inl pending
    · rcases tracked.waiting waits with pending | upToDate
      · exact Or.inl (Autosaver.pending_hearAll (Or.inr pending))
      · exact Or.inr (upToDate.of_silence tracked.grown heard silent same)
  copied := by
    intro document last writes
    rw [Autosaver.hearAll_phase] at writes
    rcases pending_or_silent step heard saver with pending | ⟨_, same⟩
    · exact Or.inl pending
    · rw [same]
      rcases tracked.copied document last writes with pending | copied
      · exact Or.inl (Autosaver.pending_hearAll (Or.inr pending))
      · exact Or.inr copied
  closing := by
    intro closing
    rw [Autosaver.hearAll_phase] at closing
    exact absurd (tracked.closing closing).1 Bool.false_ne_true

/-- After the autosaver has read something.  If it waits now, it waited before, and what it read
told of no change. -/
theorem Tracked.receive (tracked : Tracked since file ⟨crew, closed, saver⟩)
    (listening : saver.phase.listens = true) :
    Tracked since file ⟨crew, closed, saver.receive⟩ := by
  rcases saver.receive_eq with ⟨change, phase, pending⟩
  have listens : saver.receive.phase.listens = true := by
    rw [phase, SaverPhase.listens_after, listening]
  constructor
  case grown => exact tracked.grown
  case waiting =>
    intro waits
    have watching : saver.phase = .watching := by
      rcases SaverPhase.listens_iff.1 listening with watching | settling
      · exact watching
      · simp [phase, settling, SaverPhase.after] at waits
    have silent : change = false := by
      cases change with
      | false => rfl
      | true => simp [phase, watching, SaverPhase.after] at waits
    rw [silent, Bool.false_or] at pending
    rcases tracked.waiting (Or.inl watching) with told | upToDate
    · exact Or.inl (pending ▸ told)
    · exact Or.inr (upToDate.of_file saver.receive_file)
  case copied =>
    intro document last writes
    rw [writes] at listens
    cases listens
  case closing =>
    intro closing
    rcases SaverPhase.listens_iff.1 listens with now | now <;>
      simp [now, SaverPhase.closing] at closing

theorem Tracked.part (tracked : Tracked since file ⟨crew, closed, saver⟩)
    (listening : saver.phase.listens = true) (silent : saver.hasNews = false)
    (gone : closed = true) : Tracked since file ⟨crew, closed, saver.part⟩ := by
  rcases SaverPhase.listens_iff.1 listening with watching | settling
  · have stopped : saver.part = { saver with phase := .stopped } := by
      simp only [Autosaver.part, watching]
    have before := tracked.waiting (Or.inl watching)
    rw [stopped]
    exact ⟨tracked.grown, fun _ => before.imp id (·.of_file rfl), nofun, fun _ => ⟨gone, silent⟩⟩
  · have due : saver.part = { saver with phase := .due true } := by
      simp only [Autosaver.part, settling]
    rw [due]
    exact ⟨tracked.grown, nofun, nofun, fun _ => ⟨gone, silent⟩⟩

/-- After a move of the autosaver. -/
theorem Tracked.step_saver (tracked : Tracked since file ⟨crew, closed, saver⟩)
    (move : SaverMove crew.app.notebook closed saver saver') :
    Tracked since file ⟨crew, closed, saver'⟩ := by
  cases move with
  | receive listening news => exact tracked.receive listening
  | part listening silent gone => exact tracked.part listening silent gone
  | expire settling =>
    have due : saver.expire = { saver with phase := .due false } := by
      simp only [Autosaver.expire, settling]
    rw [due]
    exact ⟨tracked.grown, nofun, nofun, nofun⟩
  | @copy last savedAt due =>
    have copied : saver.copy savedAt crew.app.notebook =
        { saver with phase := .writing (.ofNotebook savedAt crew.app.notebook) last } := by
      simp only [Autosaver.copy, due]
    rw [copied]
    constructor
    case grown => exact tracked.grown
    case waiting => exact nofun
    case copied =>
      intro document last writes
      cases writes
      exact Or.inr ⟨savedAt, rfl⟩
    case closing =>
      intro closing
      apply tracked.closing
      rw [due]
      exact closing
  | @write document last writing =>
    have written : saver.write = { saver with
        file := some document.write
        phase := if last then .stopped else .watching } := by
      simp only [Autosaver.write, writing]
    rw [written]
    constructor
    case grown => exact tracked.grown
    case waiting =>
      intro _
      rcases tracked.copied document last writing with pending | ⟨savedAt, rfl⟩
      · exact Or.inl pending
      · exact Or.inr (Or.inr ⟨savedAt, rfl⟩)
    case copied =>
      intro _ _ writes
      cases last <;> cases writes
    case closing =>
      intro closing
      apply tracked.closing
      rw [writing]
      cases last with
      | false => cases closing
      | true => rfl

/-- The application may go without a word. -/
theorem Tracked.close (tracked : Tracked since file ⟨crew, closed, saver⟩)
    (stays : closed = true → closed' = true) : Tracked since file ⟨crew, closed', saver⟩ :=
  ⟨tracked.grown, fun waits => (tracked.waiting waits).imp id (·.of_file rfl),
    tracked.copied, fun closing => (tracked.closing closing).imp stays id⟩

theorem Tracked.start (crew : Crew) (file : Option String) :
    Tracked crew.app file (.start crew file) where
  grown := Nat.le_refl _
  waiting _ := Or.inr (Or.inl ⟨by simp [Watch.changed, Watch.news, Watch.start], rfl, rfl⟩)
  copied := nofun
  closing := nofun

theorem Tracked.step (tracked : Tracked since file watch) (step : Watch.Step watch watch') :
    Tracked since file watch' := by
  cases step with
  | crew step heard => exact tracked.step_crew step heard
  | saver move => exact tracked.step_saver move
  | leave => exact tracked.close fun _ => rfl

/-- What holds of every watch that can arise after the autosaver has begun to follow a crew. -/
theorem tracked_of_reached
    (reached : Relation.ReflTransGen Watch.Step (.start crew file) watch) :
    Tracked crew.app file watch := by
  induction reached with
  | refl => exact .start crew file
  | tail _ step inductionHypothesis => exact inductionHypothesis.step step

/-!
## The moves of the autosaver alone
-/

namespace SaverMove

variable {notebook : Notebook}

/-- An upper bound on the moves that are left while nothing is announced. -/
def effort (saver : Autosaver) : Nat :=
  4 * saver.backlog +
    match saver.phase with
    | .settling => 4
    | .due _ => 3
    | .writing _ _ => 2
    | .watching => 1
    | .stopped => 0

theorem effort_lt (move : SaverMove notebook closed saver saver') :
    effort saver' < effort saver := by
  cases move with
  | receive listening news =>
    rcases saver.receive_eq with ⟨change, phase, _⟩
    have read := Autosaver.backlog_receive news
    rcases SaverPhase.listens_iff.1 listening with now | now <;> cases change <;>
      simp only [effort, phase, now, SaverPhase.after, if_true, if_false, Bool.false_eq_true] <;>
      omega
  | expire settling => simp [effort, Autosaver.expire, Autosaver.backlog, settling]
  | part listening silent gone =>
    rcases SaverPhase.listens_iff.1 listening with now | now <;>
      simp [effort, Autosaver.part, Autosaver.backlog, now]
  | copy savedAt due => simp [effort, Autosaver.copy, Autosaver.backlog, due]
  | @write document last writing =>
    cases last <;> simp [effort, Autosaver.write, Autosaver.backlog, writing]

/-- The autosaver does not move for ever while nothing is announced. -/
theorem wellFounded (notebook : Notebook) (closed : Bool) :
    WellFounded fun saver' saver => SaverMove notebook closed saver saver' :=
  Subrelation.wf effort_lt (measure effort).wf

/-- An autosaver that cannot move waits for announcements, or has stopped. -/
theorem stuck (stuck : ∀ saver', ¬ SaverMove notebook closed saver saver') :
    saver.phase = .stopped ∨
      saver.phase = .watching ∧ saver.hasNews = false ∧ closed = false := by
  cases phase : saver.phase with
  | stopped => exact Or.inl rfl
  | due last => exact absurd (.copy "" phase) (stuck _)
  | writing document last => exact absurd (.write phase) (stuck _)
  | settling => exact absurd (.expire phase) (stuck _)
  | watching =>
    have listening : saver.phase.listens = true := SaverPhase.listens_iff.2 (Or.inl phase)
    have silent : saver.hasNews = false :=
      Bool.eq_false_iff.2 fun news => stuck _ (.receive listening news)
    have stays : closed = false :=
      Bool.eq_false_iff.2 fun gone => stuck _ (.part listening silent gone)
    exact Or.inr ⟨rfl, silent, stays⟩

/-- To read everything takes some moves. -/
theorem moves_catchUp (notebook : Notebook) (closed : Bool)
    (listening : saver.phase.listens = true) :
    SaverMoves notebook closed saver saver.catchUp := by
  induction backlog : saver.backlog generalizing saver with
  | zero =>
    have silent : saver.hasNews = false := by
      refine Bool.eq_false_iff.2 fun news => ?_
      have read := Autosaver.backlog_receive news
      omega
    rw [Autosaver.catchUp_of_silent silent]
  | succ left inductionHypothesis =>
    by_cases news : saver.hasNews = true
    · have read := Autosaver.backlog_receive news
      rcases saver.receive_eq with ⟨change, phase, _⟩
      rw [← Autosaver.catchUp_receive]
      refine .head (.receive listening news) (inductionHypothesis ?_ (by omega))
      rw [phase, SaverPhase.listens_after, listening]
    · rw [Autosaver.catchUp_of_silent (Bool.eq_false_iff.2 news)]

/-- A quiet period takes some moves, and then the autosaver waits with nothing left to read. -/
theorem moves_quiet (savedAt : String) (notebook : Notebook) (closed : Bool)
    (listening : saver.phase.listens = true) :
    SaverMoves notebook closed saver (saver.quiet savedAt notebook) ∧
      (saver.quiet savedAt notebook).phase = .watching ∧
      (saver.quiet savedAt notebook).hasNews = false := by
  have caught := moves_catchUp notebook closed listening
  have listens : saver.catchUp.phase.listens = true :=
    (SaverPhase.listens_after saver.pending saver.phase).trans listening
  rcases SaverPhase.listens_iff.1 listens with watching | settling
  · have quiet : saver.quiet savedAt notebook = saver.catchUp := by
      simp only [Autosaver.quiet, Autosaver.expire, watching, Autosaver.copy, Autosaver.write]
    rw [quiet]
    exact ⟨caught, watching, rfl⟩
  · have due : saver.catchUp.expire.phase = .due false := by
      simp only [Autosaver.expire, settling]
    have writing : (saver.catchUp.expire.copy savedAt notebook).phase =
        .writing (.ofNotebook savedAt notebook) false := by
      simp only [Autosaver.copy, due]
    refine ⟨((caught.tail (.expire settling)).tail (.copy savedAt due)).tail (.write writing), ?_⟩
    simp only [Autosaver.quiet, Autosaver.expire, settling, Autosaver.copy, Autosaver.write]
    exact ⟨rfl, rfl⟩

/-- Once the application is gone, the autosaver takes some moves and has stopped. -/
theorem moves_close (savedAt : String) (notebook : Notebook)
    (listening : saver.phase.listens = true) :
    SaverMoves notebook true saver (saver.close savedAt notebook) ∧
      (saver.close savedAt notebook).phase = .stopped := by
  have caught := moves_catchUp notebook true listening
  have listens : saver.catchUp.phase.listens = true :=
    (SaverPhase.listens_after saver.pending saver.phase).trans listening
  have parted := caught.tail (.part listens rfl rfl)
  rcases SaverPhase.listens_iff.1 listens with watching | settling
  · have stopped : saver.catchUp.part.phase = .stopped := by
      simp only [Autosaver.part, watching]
    have close : saver.close savedAt notebook = saver.catchUp.part := by
      simp only [Autosaver.close, Autosaver.copy, stopped, Autosaver.write]
    rw [close]
    exact ⟨parted, stopped⟩
  · have due : saver.catchUp.part.phase = .due true := by
      simp only [Autosaver.part, settling]
    have writing : (saver.catchUp.part.copy savedAt notebook).phase =
        .writing (.ofNotebook savedAt notebook) true := by
      simp only [Autosaver.copy, due]
    refine ⟨(parted.tail (.copy savedAt due)).tail (.write writing), ?_⟩
    simp only [Autosaver.close, Autosaver.write, writing, if_true]

end SaverMove

/-!
## No change is lost
-/

/-- Wherever the autosaver comes to rest, the file is up to date. -/
theorem Tracked.upToDate (tracked : Tracked since file watch)
    (rests : watch.saver.phase = .stopped ∨
      watch.saver.phase = .watching ∧ watch.saver.hasNews = false) :
    watch.UpToDate since file := by
  have waits : watch.saver.phase = .watching ∨ watch.saver.phase = .stopped :=
    rests.symm.imp And.left id
  have silent : watch.saver.hasNews = false := by
    rcases rests with stopped | ⟨_, silent⟩
    · exact (tracked.closing (by rw [stopped]; rfl)).2
    · exact silent
  have unaware := Autosaver.pending_of_silent silent
  exact (tracked.waiting waits).resolve_left (Bool.eq_false_iff.1 unaware)

theorem Tracked.moves (tracked : Tracked since file ⟨crew, closed, saver⟩)
    (moves : SaverMoves crew.app.notebook closed saver saver') :
    Tracked since file ⟨crew, closed, saver'⟩ := by
  induction moves with
  | refl => exact tracked
  | tail _ move inductionHypothesis => exact inductionHypothesis.step_saver move

theorem Watch.UpToDate.saved (upToDate : watch.UpToDate since file)
    (changed : watch.changed since = true) : watch.Saved :=
  upToDate.resolve_left fun untouched => Bool.noConfusion (changed.symm.trans untouched.unannounced)

/-- The autosaver loses no change of the notebook. -/
structure Kept (since : App) (file : Option String) (watch : Watch) : Prop where
  /-- Where it waits for announcements and the channel is empty, either no change was announced
  and the notebook is what it was, or the file keeps the notebook as it is now. -/
  resting : watch.saver.phase = .watching → watch.saver.hasNews = false →
    watch.Untouched since file ∨ watch.Saved
  /-- While nothing is announced, it makes only finitely many moves. -/
  ends : ∀ closed, Acc
    (fun saver' saver => SaverMove watch.crew.app.notebook closed saver saver') watch.saver
  /-- Where they end, whether the application is gone or only quiet, the file keeps the notebook if
  a change was announced. -/
  settled : watch.changed since = true → ∀ closed saver',
    (watch.closed = true → closed = true) →
      SaverMoves watch.crew.app.notebook closed watch.saver saver' →
        (∀ saver'', ¬ SaverMove watch.crew.app.notebook closed saver' saver'') →
          Watch.Saved ⟨watch.crew, closed, saver'⟩
  /-- So it does after a quiet period. -/
  quiet : watch.changed since = true → watch.saver.phase.listens = true → ∀ savedAt,
    Watch.Saved { watch with saver := watch.saver.quiet savedAt watch.crew.app.notebook }
  /-- So it does after the application went. -/
  close : watch.changed since = true → watch.saver.phase.listens = true → ∀ savedAt,
    Watch.Saved
      { watch with closed := true, saver := watch.saver.close savedAt watch.crew.app.notebook }

/-- Whatever the application does while an autosaver follows it, and however the moves of the
autosaver fall between its steps, no change is lost. -/
theorem autosave_keeps_up
    (reached : Relation.ReflTransGen Watch.Step (.start crew file) watch) :
    Kept crew.app file watch := by
  have tracked := tracked_of_reached reached
  refine
    { resting := fun watching silent => tracked.upToDate (Or.inr ⟨watching, silent⟩)
      ends := fun closed => (SaverMove.wellFounded _ closed).apply _
      settled := fun changed closed saver' stays moves stuck => ?_
      quiet := fun changed listening savedAt => ?_
      close := fun changed listening savedAt => ?_ }
  · have rests := (SaverMove.stuck stuck).imp id fun waits => And.intro waits.1 waits.2.1
    exact (((tracked.close stays).moves moves).upToDate rests).saved changed
  · rcases SaverMove.moves_quiet savedAt watch.crew.app.notebook watch.closed listening with
      ⟨moves, rests⟩
    exact ((tracked.moves moves).upToDate (Or.inr rests)).saved changed
  · rcases SaverMove.moves_close savedAt watch.crew.app.notebook listening with ⟨moves, stopped⟩
    exact (((tracked.close fun _ => rfl).moves moves).upToDate (Or.inl stopped)).saved changed

/-- The notebook changes again while a copy is being written, and after the next quiet period the
file keeps it with both changes. -/
theorem autosave_keeps_up_with_change_while_writing :
    ∃ watch, Relation.ReflTransGen Watch.Step (.start (.new (.blank 0)) none) watch ∧
      watch.saver.file = some (((Notebook.blank 0).add .code none).1.save "noon") ∧
      watch.crew.app.notebook.cells.length = 3 ∧ watch.saver.hasNews = true ∧
      Kept (.new (.blank 0)) none watch ∧
      Watch.Saved { watch with saver := watch.saver.quiet "later" watch.crew.app.notebook } := by
  have reached : ∃ watch, Relation.ReflTransGen Watch.Step (.start (.new (.blank 0)) none) watch ∧
      watch.saver.file = some (((Notebook.blank 0).add .code none).1.save "noon") ∧
      watch.crew.app.notebook.cells.length = 3 ∧ watch.saver.hasNews = true ∧
      watch.saver.phase = .watching ∧ watch.changed (.new (.blank 0)) = true :=
    ⟨_, .head (.crew (.edit (.add .code none)) rfl) (.head (.saver (.receive rfl rfl))
      (.head (.saver (.expire rfl)) (.head (.saver (.copy "noon" rfl))
        (.head (.crew (.edit (.add .markdown none)) rfl) (.single (.saver (.write rfl))))))),
      rfl, rfl, rfl, rfl, rfl⟩
  rcases reached with ⟨watch, reached, file, cells, news, watching, changed⟩
  have kept := autosave_keeps_up reached
  exact ⟨watch, reached, file, cells, news, kept,
    kept.quiet changed (SaverPhase.listens_iff.2 (Or.inl watching)) "later"⟩

end Interleaving
end AsmNotebook
