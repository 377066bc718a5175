import AsmNotebook.App.Basic
import AsmNotebook.Session.Document

namespace AsmNotebook

/-!
The autosaver follows the announcements of an application and writes the
notebook once they have been quiet for a while.  It reads from a channel that
keeps the latest 256 announcements; having missed some counts as a change.

Between two of its operations the application may go on.  So the copy of the
notebook that is written need not be the notebook by the time it is written.
-/

/-- Where the autosaver stands. -/
inductive SaverPhase
  /-- It waits for the announcement of a change. -/
  | watching
  /-- It waits for the end of the quiet period. -/
  | settling
  /-- It is about to copy the notebook, for the last time if the application is gone. -/
  | due (last : Bool)
  /-- It is about to write its copy. -/
  | writing (document : SessionDocument) (last : Bool)
  /-- It waits for nothing any more. -/
  | stopped
deriving DecidableEq

namespace SaverPhase

/-- Whether the autosaver reads from the channel. -/
def listens : SaverPhase → Bool
  | watching => true
  | settling => true
  | _ => false

theorem listens_iff {phase : SaverPhase} :
    phase.listens = true ↔ phase = watching ∨ phase = settling := by
  cases phase <;> simp [listens]

/-- Whether the autosaver knows that the application is gone. -/
def closing : SaverPhase → Bool
  | due last => last
  | writing _ last => last
  | stopped => true
  | _ => false

/-- Where the autosaver stands after it read something, which told of a change or did not. -/
def after (change : Bool) : SaverPhase → SaverPhase
  | watching => if change then settling else watching
  | phase => phase

theorem after_after (first second : Bool) (phase : SaverPhase) :
    (phase.after first).after second = phase.after (first || second) := by
  cases phase <;> cases first <;> rfl

@[simp] theorem listens_after (change : Bool) (phase : SaverPhase) :
    (phase.after change).listens = phase.listens := by
  cases phase <;> cases change <;> rfl

@[simp] theorem after_false (phase : SaverPhase) : phase.after false = phase := by
  cases phase <;> rfl

end SaverPhase

structure Autosaver where
  phase : SaverPhase
  /-- Announcements not read yet, oldest first. -/
  unread : List Event
  /-- Whether announcements were dropped before they were read. -/
  missed : Bool
  /-- Text of the file. -/
  file : Option String

namespace Autosaver

/-- Announcements that the channel keeps. -/
def capacity : Nat :=
  256

/-- An autosaver that has heard nothing. -/
def start (file : Option String) : Autosaver where
  phase := .watching
  unread := []
  missed := false
  file := file

/-- Put an announcement into the channel; the oldest one goes if the channel is full. -/
def hear (event : Event) (saver : Autosaver) : Autosaver :=
  if saver.unread.length < capacity then
    { saver with unread := saver.unread ++ [event] }
  else
    { saver with unread := saver.unread.drop 1 ++ [event], missed := true }

/-- Put announcements into the channel. -/
def hearAll (news : List Event) (saver : Autosaver) : Autosaver :=
  news.foldl (fun saver event => saver.hear event) saver

/-- Whether something is left to read. -/
def hasNews (saver : Autosaver) : Bool :=
  saver.missed || !saver.unread.isEmpty

/-- Whether what is left to read tells of a change. -/
def pending (saver : Autosaver) : Bool :=
  saver.missed || saver.unread.any Event.touchesDocument

theorem pending_of_silent {saver : Autosaver} (silent : saver.hasNews = false) :
    saver.pending = false := by
  simp only [hasNews, Bool.or_eq_false_iff, Bool.not_eq_false', List.isEmpty_iff] at silent
  simp [pending, silent]

@[simp] theorem hear_phase (event : Event) (saver : Autosaver) :
    (saver.hear event).phase = saver.phase := by
  unfold hear
  split <;> rfl

@[simp] theorem hear_file (event : Event) (saver : Autosaver) :
    (saver.hear event).file = saver.file := by
  unfold hear
  split <;> rfl

/-- The channel forgets no change: what is dropped from it counts as one. -/
theorem pending_hear {event : Event} {saver : Autosaver}
    (change : event.touchesDocument = true ∨ saver.pending = true) :
    (saver.hear event).pending = true := by
  unfold hear
  split
  · rw [pending, List.any_append, ← Bool.or_assoc, Bool.or_eq_true]
    exact change.symm.imp id fun now => by simpa using now
  · rfl

@[simp] theorem hearAll_phase (news : List Event) (saver : Autosaver) :
    (saver.hearAll news).phase = saver.phase := by
  induction news generalizing saver with
  | nil => rfl
  | cons event news inductionHypothesis =>
    exact (inductionHypothesis (saver.hear event)).trans (hear_phase event saver)

@[simp] theorem hearAll_file (news : List Event) (saver : Autosaver) :
    (saver.hearAll news).file = saver.file := by
  induction news generalizing saver with
  | nil => rfl
  | cons event news inductionHypothesis =>
    exact (inductionHypothesis (saver.hear event)).trans (hear_file event saver)

theorem pending_hearAll {news : List Event} {saver : Autosaver}
    (change : news.any Event.touchesDocument = true ∨ saver.pending = true) :
    (saver.hearAll news).pending = true := by
  induction news generalizing saver with
  | nil => exact change.resolve_left nofun
  | cons event news inductionHypothesis =>
    simp only [List.any_cons, Bool.or_eq_true] at change
    refine inductionHypothesis ?_
    rcases change with (now | later) | before
    · exact Or.inr (pending_hear (Or.inl now))
    · exact Or.inl later
    · exact Or.inr (pending_hear (Or.inr before))

/-- Read one thing from the channel: that announcements were dropped, or else the oldest one. -/
def receive (saver : Autosaver) : Autosaver :=
  if saver.missed then { saver with missed := false, phase := saver.phase.after true }
  else
    match saver.unread with
    | [] => saver
    | event :: unread =>
      { saver with unread := unread, phase := saver.phase.after event.touchesDocument }

theorem receive_eq (saver : Autosaver) :
    ∃ change, saver.receive.phase = saver.phase.after change ∧
      saver.pending = (change || saver.receive.pending) := by
  unfold receive
  cases missed : saver.missed with
  | true => exact ⟨true, rfl, by simp [pending, missed]⟩
  | false =>
    cases unread : saver.unread with
    | nil => exact ⟨false, (saver.phase.after_false).symm, rfl⟩
    | cons event rest => exact ⟨event.touchesDocument, rfl, by simp [pending, missed, unread]⟩

@[simp] theorem receive_file (saver : Autosaver) : saver.receive.file = saver.file := by
  unfold receive
  split
  · rfl
  · split <;> rfl

/-- Number of things left to read. -/
def backlog (saver : Autosaver) : Nat :=
  saver.missed.toNat + saver.unread.length

theorem backlog_receive {saver : Autosaver} (news : saver.hasNews = true) :
    saver.receive.backlog + 1 = saver.backlog := by
  unfold receive
  cases missed : saver.missed with
  | true => simp [backlog, missed, Nat.add_comm]
  | false =>
    cases unread : saver.unread with
    | nil => simp [hasNews, missed, unread] at news
    | cons event rest => simp [backlog, missed, unread]

/-- Read everything in the channel. -/
def catchUp (saver : Autosaver) : Autosaver :=
  { saver with unread := [], missed := false, phase := saver.phase.after saver.pending }

theorem catchUp_of_silent {saver : Autosaver} (silent : saver.hasNews = false) :
    saver.catchUp = saver := by
  have none := pending_of_silent silent
  simp only [hasNews, Bool.or_eq_false_iff, Bool.not_eq_false', List.isEmpty_iff] at silent
  rw [catchUp, none, SaverPhase.after_false, ← silent.1, ← silent.2]

/-- To read everything is to read one thing and then the rest. -/
theorem catchUp_receive (saver : Autosaver) : saver.receive.catchUp = saver.catchUp := by
  rcases saver.receive_eq with ⟨change, phase, pending⟩
  have rest : saver.receive.phase.after saver.receive.pending = saver.phase.after saver.pending := by
    rw [phase, SaverPhase.after_after, pending]
  simp only [catchUp, rest, receive_file]

/-- The quiet period is over. -/
def expire (saver : Autosaver) : Autosaver :=
  match saver.phase with
  | .settling => { saver with phase := .due false }
  | _ => saver

/-- The channel turns out to be closed. -/
def part (saver : Autosaver) : Autosaver :=
  match saver.phase with
  | .watching => { saver with phase := .stopped }
  | .settling => { saver with phase := .due true }
  | _ => saver

/-- Copy the notebook. -/
def copy (savedAt : String) (notebook : Notebook) (saver : Autosaver) : Autosaver :=
  match saver.phase with
  | .due last => { saver with phase := .writing (.ofNotebook savedAt notebook) last }
  | _ => saver

/-- Write the copy. -/
def write (saver : Autosaver) : Autosaver :=
  match saver.phase with
  | .writing document last =>
    { saver with
      file := some document.write
      phase := if last then .stopped else .watching }
  | _ => saver

/-- The quiet period passes. -/
def quiet (savedAt : String) (notebook : Notebook) (saver : Autosaver) : Autosaver :=
  (saver.catchUp.expire.copy savedAt notebook).write

/-- The application goes: what was announced is written, and the autosaver stops. -/
def close (savedAt : String) (notebook : Notebook) (saver : Autosaver) : Autosaver :=
  (saver.catchUp.part.copy savedAt notebook).write

end Autosaver

end AsmNotebook
