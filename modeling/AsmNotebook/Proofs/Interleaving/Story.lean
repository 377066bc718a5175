import AsmNotebook.Proofs.Interleaving.Tickets
import Mathlib.Data.List.Nodup

namespace AsmNotebook
namespace Interleaving

/-!
# The story of an entry

The steps that concern one entry, in order, are its story.  Where an entry is
decides what its story can be: `Lived` says so for every stage of a task, and
`Fate` for a run that has ended.  There are four ways to end, and each is a
list of steps written out in full, so nothing happens to an entry twice or out
of order, and no step of another entry belongs to its story.
-/

/-- Entries that a step concerns. -/
def Label.entries : Label → List QueueEntry
  | enqueue entry => [entry]
  | dequeue entry => [entry]
  | pass entry => [entry]
  | begin entry _ => [entry]
  | dispatch entry _ => [entry]
  | answer entry _ _ => [entry]
  | crash entry => [entry]
  | store entry _ _ => [entry]
  | release entry => [entry]
  | finish entry _ => [entry]
  | drop entry => [entry]
  | cancel entry => [entry]
  | abandon _ others => others
  | _ => []

/-- The steps that concern an entry. -/
def story (entry : QueueEntry) (trace : List Label) : List Label :=
  trace.filter fun label => entry ∈ label.entries

theorem story_append (entry : QueueEntry) (first second : List Label) :
    story entry (first ++ second) = story entry first ++ story entry second :=
  List.filter_append ..

theorem story_snoc_of_mem {entry : QueueEntry} {trace : List Label} {label : Label}
    (concerned : entry ∈ label.entries) :
    story entry (trace ++ [label]) = story entry trace ++ [label] := by
  rw [story_append]
  simp [story, concerned]

theorem story_snoc_of_not_mem {entry : QueueEntry} {trace : List Label} {label : Label}
    (unconcerned : entry ∉ label.entries) :
    story entry (trace ++ [label]) = story entry trace := by
  rw [story_append]
  simp [story, unconcerned]

/-- What the router returned for a text, and the answer that it waited for, if it needed one. -/
inductive Answered (entry : QueueEntry) (source : String) : Dispatch → List Label → Prop
  | replied {output : Output} (routed : route source = .done output) :
      Answered entry source (.plain output) []
  | answered {call : ServiceCall} (routed : route source = .call call) (answer : call.Answer) :
      Answered entry source (conclude call answer) [.answer entry call answer]

/-- The story of an entry up to the step that decides how its run ends. -/
inductive Decided (entry : QueueEntry) : RunOutcome → List Label → Prop
  | passed : Decided entry .skipped [.enqueue entry, .dequeue entry, .pass entry]
  | stored {source : String} {dispatch : Dispatch} {answers : List Label}
      (answered : Answered entry source dispatch answers) (count : UInt32) :
      Decided entry (.completed count dispatch.output)
        ([.enqueue entry, .dequeue entry, .begin entry source, .dispatch entry source] ++ answers ++
          [.store entry dispatch (.completed count dispatch.output)])

/-- The story so far of an entry that a task holds at a stage. -/
inductive Lived (entry : QueueEntry) : Stage → List Label → Prop
  | taken : Lived entry (.taken entry) [.enqueue entry, .dequeue entry]
  | begun {source : String} :
      Lived entry (.begun entry source) [.enqueue entry, .dequeue entry, .begin entry source]
  | waiting {source : String} {number : Nat} {call : ServiceCall}
      (routed : route source = .call call) :
      Lived entry (.waiting entry number call)
        [.enqueue entry, .dequeue entry, .begin entry source, .dispatch entry source]
  | dispatched {source : String} {dispatch : Dispatch} {answers : List Label}
      (answered : Answered entry source dispatch answers) :
      Lived entry (.dispatched entry dispatch)
        ([.enqueue entry, .dequeue entry, .begin entry source, .dispatch entry source] ++ answers)
  | ended {outcome : RunOutcome} {story : List Label} (decided : Decided entry outcome story) :
      Lived entry (.ended entry outcome) story
  | released {outcome : RunOutcome} {story : List Label} (decided : Decided entry outcome story) :
      Lived entry (.released entry outcome) (story ++ [.release entry])
  | dying {source : String} {call : ServiceCall} (routed : route source = .call call) :
      Lived entry (.dying entry)
        [.enqueue entry, .dequeue entry, .begin entry source, .dispatch entry source, .crash entry]
  | recovering {cellId : String} {left : List QueueEntry} (crashed : QueueEntry)
      {others : List QueueEntry} (waited : entry ∈ others) :
      Lived entry (.recovering cellId left) [.enqueue entry, .abandon crashed others]
  | cancelling {left : List QueueEntry} (crashed : QueueEntry) {others : List QueueEntry}
      (waited : entry ∈ others) :
      Lived entry (.cancelling left) [.enqueue entry, .abandon crashed others]

/-- The story of an entry whose run has ended.  It was completed after one dispatch, passed over
without one, lost with its own call, or handed back when the queue was given up. -/
inductive Fate (entry : QueueEntry) : RunOutcome → List Label → Prop
  | completed {source : String} {dispatch : Dispatch} {answers : List Label}
      (answered : Answered entry source dispatch answers) (count : UInt32) :
      Fate entry (.completed count dispatch.output)
        ([.enqueue entry, .dequeue entry, .begin entry source, .dispatch entry source] ++ answers ++
          [.store entry dispatch (.completed count dispatch.output), .release entry,
            .finish entry (.completed count dispatch.output)])
  | passed :
      Fate entry .skipped
        [.enqueue entry, .dequeue entry, .pass entry, .release entry, .finish entry .skipped]
  | crashed {source : String} {call : ServiceCall} (routed : route source = .call call) :
      Fate entry .skipped
        [.enqueue entry, .dequeue entry, .begin entry source, .dispatch entry source, .crash entry,
          .drop entry]
  | abandoned (crashed : QueueEntry) {others : List QueueEntry} (waited : entry ∈ others) :
      Fate entry .skipped [.enqueue entry, .abandon crashed others, .cancel entry]

/-- Finishing the run of a decided entry seals its fate. -/
theorem Decided.fate {entry : QueueEntry} {outcome : RunOutcome} {story : List Label}
    (decided : Decided entry outcome story) :
    Fate entry outcome (story ++ [.release entry] ++ [.finish entry outcome]) := by
  cases decided with
  | passed => exact .passed
  | stored answered count =>
    simpa using Fate.completed answered count

variable {app app' : App} {stage : Stage} {label : Label} {next : Option Stage}

/-- A step of a task concerns only entries that the task holds or takes off the queue. -/
theorem Advance.entries_subset (advance : Advance app stage label app' next) :
    label.entries ⊆ stage.held ++ label.removes := by
  cases advance with
  | abandon | abandonIdle => exact List.subset_append_right _ _
  | _ => simp [Label.entries, Stage.held, Label.removes]

variable {entry : QueueEntry} {past : List Label} {stage' : Stage}

/-- An entry that its task keeps lives on by each step that concerns it. -/
theorem Lived.concerned (lived : Lived entry stage past)
    (advance : Advance app stage label app' (some stage'))
    (distinct : (stage.held ++ label.removes).Nodup) (concerned : entry ∈ label.entries)
    (kept : entry ∈ stage'.held) : Lived entry stage' (past ++ [label]) := by
  cases lived with
  | taken =>
    cases advance with
    | pass => exact .ended .passed
    | begin => exact .begun
  | begun =>
    cases advance with
    | reply routed => exact .dispatched (.replied routed)
    | call routed => exact .waiting routed
  | waiting routed =>
    cases advance with
    | answer answer => exact .dispatched (.answered routed answer)
    | crash => exact .dying routed
  | dispatched answered =>
    cases advance with
    | store => exact .ended (.stored answered _)
  | ended decided =>
    cases advance with
    | release => exact .released decided
  | released | dying =>
    cases advance with
    | _ => cases kept
  | recovering =>
    cases advance with
    | recover => cases concerned
  | cancelling =>
    cases advance with
    | cancel =>
      rcases List.mem_singleton.1 concerned with rfl
      have once := (List.nodup_cons.1 (List.nodup_append.1 distinct).1).1
      exact absurd kept once

/-- A step that does not concern an entry finds it among those that were handed back. -/
theorem Lived.unconcerned (lived : Lived entry stage past)
    (advance : Advance app stage label app' (some stage'))
    (unconcerned : entry ∉ label.entries) : Lived entry stage' past := by
  cases lived with
  | recovering crashed waited =>
    cases advance with
    | recover => exact .cancelling crashed waited
  | cancelling crashed waited =>
    cases advance with
    | cancel => exact .cancelling crashed waited
  | _ =>
    cases advance <;> exact absurd (List.mem_singleton_self _) unconcerned

/-- An entry that waited begins to live with the task that takes it off the queue. -/
theorem Lived.start (advance : Advance app stage label app' (some stage'))
    (takenOff : entry ∈ label.removes) : Lived entry stage' [.enqueue entry, label] := by
  cases advance with
  | dequeue =>
    rcases List.mem_singleton.1 takenOff with rfl
    exact .taken
  | @abandon _ crashed => exact .recovering crashed takenOff
  | @abandonIdle _ crashed => exact .cancelling crashed takenOff
  | _ => cases takenOff

/-- A step that ends a run seals the fate of its entry. -/
theorem Lived.fate {outcome : RunOutcome} (lived : Lived entry stage past)
    (advance : Advance app stage label app' next)
    (settled : (entry, outcome) ∈ label.settles) : Fate entry outcome (past ++ [label]) := by
  cases lived with
  | released decided =>
    cases advance with
    | finish =>
      cases List.mem_singleton.1 settled
      exact decided.fate
  | dying routed =>
    cases advance with
    | drop =>
      cases List.mem_singleton.1 settled
      exact .crashed routed
  | cancelling crashed waited =>
    cases advance with
    | cancel =>
      cases List.mem_singleton.1 settled
      exact .abandoned crashed waited
    | vanish => cases settled
  | _ => cases advance <;> cases settled

/-- A step concerns the entries that it takes off the queue. -/
theorem removes_subset_entries (label : Label) : label.removes ⊆ label.entries := by
  cases label <;> simp [Label.removes, Label.entries]

/-- A step that ends a run concerns its entry, which the task held. -/
theorem Advance.settles_held (advance : Advance app stage label app' next)
    {settled : QueueEntry × RunOutcome} (ends : settled ∈ label.settles) :
    settled.1 ∈ stage.held ∧ settled.1 ∈ label.entries := by
  cases advance with
  | finish | drop | cancel =>
    cases List.mem_singleton.1 ends
    exact ⟨List.mem_cons_self, List.mem_cons_self⟩
  | _ => cases ends

/-- Every entry that waits has only been queued, every entry that a task holds has lived as the
stage of the task says, every outcome on record is the fate of the entry of its ticket, and
nothing has happened to a ticket that was not given out. -/
structure Told (crew : Crew) (trace : List Label) : Prop where
  waiting : ∀ entry ∈ crew.app.queue.pending, story entry trace = [.enqueue entry]
  held : ∀ stage ∈ crew.tasks, ∀ entry ∈ stage.held, Lived entry stage (story entry trace)
  settled : ∀ settled ∈ crew.app.outcomes,
    ∃ entry, entry.ticket = settled.1 ∧ Fate entry settled.2 (story entry trace)
  fresh : ∀ entry, crew.app.nextTicket ≤ entry.ticket → story entry trace = []

/-- The tickets of what a task holds and takes off the queue are apart from all others. -/
theorem Ticketed.apart {before after : List Stage}
    (ticketed : Ticketed ⟨app, before ++ stage :: after⟩)
    (advance : Advance app stage label app' next) :
    ((stage.held ++ label.removes).map QueueEntry.ticket ++
      ((app'.queue.pending ++ (before ++ after).flatMap Stage.held).map QueueEntry.ticket ++
        app.outcomes.map Prod.fst)).Perm (List.range app.nextTicket) := by
  refine List.Perm.trans (List.perm_iff_count.2 fun ticket => ?_) ticketed
  have pending := congrArg (fun entries => (entries.map QueueEntry.ticket).count ticket)
    advance.fifo.1
  simp [Crew.tickets, Crew.unsettled] at pending ⊢
  omega

/-- What a task holds after a step has lived as its new stage says. -/
theorem Told.moved {before after : List Stage} {trace : List Label}
    (told : Told ⟨app, before ++ stage :: after⟩ trace)
    (advance : Advance app stage label app' (some stage'))
    (distinct : (stage.held ++ label.removes).Nodup) (inHand : entry ∈ stage'.held) :
    Lived entry stage' (story entry (trace ++ [label])) := by
  have origin : entry ∈ stage.held ++ label.removes := by
    rw [← advance.flow.1]
    exact List.mem_append_right _ (by simpa using inHand)
  rcases List.mem_append.1 origin with kept | takenOff
  · have lived := told.held stage (by simp) entry kept
    by_cases concerned : entry ∈ label.entries
    · rw [story_snoc_of_mem concerned]
      exact lived.concerned advance distinct concerned inHand
    · rw [story_snoc_of_not_mem concerned]
      exact lived.unconcerned advance concerned
  · have waited : entry ∈ app.queue.pending := by
      rw [← advance.fifo.1]
      exact List.mem_append_left _ takenOff
    rw [story_snoc_of_mem (removes_subset_entries label takenOff), told.waiting entry waited]
    exact Lived.start advance takenOff

theorem Told.task {before after : List Stage} {trace : List Label}
    (told : Told ⟨app, before ++ stage :: after⟩ trace)
    (ticketed : Ticketed ⟨app, before ++ stage :: after⟩)
    (advance : Advance app stage label app' next) :
    Told ⟨app', before ++ next.toList ++ after⟩ (trace ++ [label]) := by
  have apart := ticketed.apart advance
  have once := List.nodup_append.1 (apart.nodup_iff.2 List.nodup_range)
  have distinct : (stage.held ++ label.removes).Nodup := List.Nodup.of_map _ once.1
  have touched : ∀ {entry : QueueEntry}, entry ∈ label.entries →
      entry.ticket ∈ (stage.held ++ label.removes).map QueueEntry.ticket := fun concerned =>
    List.mem_map_of_mem (advance.entries_subset concerned)
  -- The step concerns no entry that waits on, that another task holds, or whose run has ended.
  have untouched : ∀ {entry : QueueEntry},
      entry.ticket ∈ (app'.queue.pending ++ (before ++ after).flatMap Stage.held).map
        QueueEntry.ticket ++ app.outcomes.map Prod.fst →
      story entry (trace ++ [label]) = story entry trace := fun elsewhere =>
    story_snoc_of_not_mem fun concerned => once.2.2 _ (touched concerned) _ elsewhere rfl
  rcases advance.flow with ⟨_, outcomes, same⟩
  refine ⟨?_, ?_, ?_, ?_⟩
  · intro entry waits
    have waited : entry ∈ app.queue.pending := by
      rw [← advance.fifo.1]
      exact List.mem_append_right _ waits
    rw [untouched (List.mem_append_left _ (List.mem_map_of_mem (List.mem_append_left _ waits)))]
    exact told.waiting entry waited
  · intro stage' member entry inHand
    rcases mem_after_task member with other | rfl
    · rw [untouched (List.mem_append_left _ (List.mem_map_of_mem (List.mem_append_right _
        (List.mem_flatMap.2 ⟨stage', other, inHand⟩))))]
      exact told.held stage' (mem_before_task other) entry inHand
    · exact told.moved advance distinct inHand
  · intro settled member
    rw [outcomes] at member
    rcases List.mem_append.1 member with old | new
    · rcases told.settled settled old with ⟨entry, ticket, fate⟩
      refine ⟨entry, ticket, ?_⟩
      rw [untouched (List.mem_append_right _ (ticket ▸ List.mem_map_of_mem old))]
      exact fate
    · rcases List.mem_map.1 new with ⟨⟨entry, outcome⟩, ends, rfl⟩
      rcases advance.settles_held ends with ⟨inHand, concerned⟩
      refine ⟨entry, rfl, ?_⟩
      rw [story_snoc_of_mem concerned]
      exact (told.held stage (by simp) entry inHand).fate advance ends
  · intro entry unissued
    rw [same] at unissued
    rw [story_snoc_of_not_mem ?_]
    · exact told.fresh entry unissued
    · intro concerned
      have issued := apart.mem_iff.1 (List.mem_append_left _ (touched concerned))
      exact absurd (List.mem_range.1 issued) (Nat.not_lt.2 unissued)

theorem Told.enqueue {tasks : List Stage} {trace : List Label} (told : Told ⟨app, tasks⟩ trace)
    (ticketed : Ticketed ⟨app, tasks⟩) (cellId : String) :
    Told ⟨(app.enqueue cellId).1, tasks ++ owedBy cellId app⟩
      (trace ++ [.enqueue ⟨cellId, app.nextTicket⟩]) := by
  -- A ticket that was given out before is not the one of the new entry.
  have untouched : ∀ {entry : QueueEntry}, entry.ticket ∈ Crew.tickets ⟨app, tasks⟩ →
      story entry (trace ++ [.enqueue ⟨cellId, app.nextTicket⟩]) = story entry trace := by
    intro entry issued
    refine story_snoc_of_not_mem fun concerned => ?_
    have ticket : entry.ticket = app.nextTicket :=
      congrArg QueueEntry.ticket (List.mem_singleton.1 concerned)
    have below := List.mem_range.1 (ticketed.mem_iff.1 issued)
    exact absurd ticket (Nat.ne_of_lt below)
  have unsettled : ∀ {entry : QueueEntry}, entry ∈ Crew.unsettled ⟨app, tasks⟩ →
      entry.ticket ∈ Crew.tickets ⟨app, tasks⟩ := fun member =>
    List.mem_append_left _ (List.mem_map_of_mem member)
  rw [App.enqueue_eq]
  refine ⟨?_, ?_, ?_, ?_⟩
  · intro entry waits
    rcases List.mem_append.1 waits with old | new
    · rw [untouched (unsettled (List.mem_append_left _ old))]
      exact told.waiting entry old
    · rcases List.mem_singleton.1 new with rfl
      rw [story_snoc_of_mem (List.mem_singleton_self _), told.fresh _ (Nat.le_refl _)]
      rfl
  · intro stage member entry inHand
    rcases List.mem_append.1 member with old | owed
    · rw [untouched (unsettled (List.mem_append_right _ (List.mem_flatMap.2 ⟨_, old, inHand⟩)))]
      exact told.held stage old entry inHand
    · rcases eq_owed_of_mem owed with rfl
      cases inHand
  · intro settled member
    rcases told.settled settled member with ⟨entry, ticket, fate⟩
    refine ⟨entry, ticket, ?_⟩
    rw [untouched (List.mem_append_right _ (ticket ▸ List.mem_map_of_mem member))]
    exact fate
  · intro entry unissued
    rw [story_snoc_of_not_mem ?_]
    · exact told.fresh entry (Nat.le_of_succ_le unissued)
    · intro concerned
      cases List.mem_singleton.1 concerned
      exact absurd unissued (Nat.not_succ_le_self _)

/-- A step that concerns no entry and leaves queue, record and tickets alone adds to no story. -/
theorem Told.unconcerned {tasks : List Stage} {trace : List Label}
    (told : Told ⟨app, tasks⟩ trace) (unconcerned : label.entries = [])
    (queue : app'.queue = app.queue) (outcomes : app'.outcomes = app.outcomes)
    (tickets : app'.nextTicket = app.nextTicket) : Told ⟨app', tasks⟩ (trace ++ [label]) := by
  have same : ∀ entry, story entry (trace ++ [label]) = story entry trace := fun entry =>
    story_snoc_of_not_mem (by simp [unconcerned])
  refine ⟨?_, ?_, ?_, ?_⟩ <;> simp only [queue, outcomes, tickets, same]
  · exact told.waiting
  · exact told.held
  · exact told.settled
  · exact told.fresh

theorem Told.step {crew crew' : Crew} {trace : List Label} (told : Told crew trace)
    (ticketed : Ticketed crew) (step : Step crew label crew') : Told crew' (trace ++ [label]) := by
  cases step with
  | enqueue cellId => exact told.enqueue ticketed cellId
  | task before after advance => exact told.task ticketed advance
  | edit | processor | announce | consult => exact told.unconcerned rfl rfl rfl rfl

theorem told_new (notebook : Notebook) : Told (.new notebook) [] where
  waiting := fun _ member => absurd member List.not_mem_nil
  held := fun _ member => absurd member List.not_mem_nil
  settled := fun _ member => absurd member List.not_mem_nil
  fresh := fun _ _ => rfl

theorem Run.told {notebook : Notebook} {crew : Crew} {trace : List Label}
    (run : Run (.new notebook) trace crew) : Told crew trace := by
  refine run.history (told_new notebook) ?_
  intro middle next label before first step told
  exact told.step first.ticketed step

end Interleaving
end AsmNotebook
