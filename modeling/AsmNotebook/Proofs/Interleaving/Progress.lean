import AsmNotebook.Proofs.Interleaving.OneLoop
import AsmNotebook.Proofs.Interleaving.Order
import Mathlib.Algebra.GroupWithZero.Nat

namespace AsmNotebook
namespace Interleaving

/-!
# The loop of a waiting run

`one_loop_drains` is the whole contract of the queue towards its loop.  Safety
is the invariant `Owned`.  That the loop will come to a waiting run is said
without assuming a fair schedule: the loop can always take a step of its own,
and no more than seven such steps lie between two entries that leave the
queue, whatever callers and dying tasks do in between.
-/

namespace Label

/-- Whether a step is one of a live task. -/
def ofLoop : Label → Bool
  | spawn => true
  | leave => true
  | dequeue _ => true
  | pass _ => true
  | begin _ _ => true
  | dispatch _ _ => true
  | answer _ _ _ => true
  | crash _ => true
  | store _ _ _ => true
  | release _ => true
  | finish _ _ => true
  | drop _ => true
  | abandon _ _ => true
  | _ => false

end Label

namespace Stage

/-- The most steps that a live task takes up to the one that takes an entry off the queue. -/
def distance : Stage → Nat
  | owed => 2
  | ready => 1
  | taken _ => 7
  | begun _ _ => 6
  | waiting _ _ _ => 5
  | dispatched _ _ => 4
  | ended _ _ => 3
  | released _ _ => 2
  | dying _ => 2
  | unwinding _ => 1
  | _ => 0

theorem distance_pos {stage : Stage} (live : stage.live = true) : 0 < stage.distance := by
  cases stage with
  | recovering | cancelling => cases live
  | _ => simp [distance]

theorem distance_le (stage : Stage) : stage.distance ≤ 7 := by
  cases stage <;> simp [distance]

end Stage

/-- How far the live task is from the next entry. -/
def Crew.distance (crew : Crew) : Nat :=
  ((crew.tasks.filter Stage.live).map Stage.distance).sum

theorem Advance.ofLoop {app app' : App} {stage : Stage} {label : Label} {next : Option Stage}
    (advance : Advance app stage label app' next) : label.ofLoop = stage.live := by
  cases advance <;> rfl

/-- Wherever a task stands, it can move. -/
theorem exists_advance (app : App) (stage : Stage) :
    ∃ label app' next, Advance app stage label app' next := by
  cases stage with
  | owed => exact ⟨_, _, _, .spawn⟩
  | ready =>
    rcases found : app.take with ⟨app', _ | entry⟩
    · exact ⟨_, _, _, .leave found⟩
    · exact ⟨_, _, _, .dequeue found⟩
  | taken entry =>
    rcases found : app.begin entry with ⟨app', _ | source⟩
    · exact ⟨_, _, _, .pass found⟩
    · exact ⟨_, _, _, .begin found⟩
  | begun entry source =>
    cases routed : route source with
    | done output => exact ⟨_, _, _, .reply routed⟩
    | call call => exact ⟨_, _, _, .call routed⟩
  | waiting entry number call => exact ⟨_, _, _, .crash⟩
  | dispatched entry dispatch => exact ⟨_, _, _, .store⟩
  | ended entry outcome => exact ⟨_, _, _, .release⟩
  | released entry outcome => exact ⟨_, _, _, .finish⟩
  | dying entry => exact ⟨_, _, _, .drop⟩
  | unwinding entry =>
    rcases found : app.abandon with ⟨app', _ | cellId, others⟩
    · exact ⟨_, _, _, .abandonIdle found⟩
    · exact ⟨_, _, _, .abandon found⟩
  | recovering cellId others => exact ⟨_, _, _, .recover⟩
  | cancelling others =>
    cases others with
    | nil => exact ⟨_, _, _, .vanish⟩
    | cons entry others => exact ⟨_, _, _, .cancel⟩

/-- A task at work can take a step. -/
theorem exists_task_step {crew : Crew} {stage : Stage} (atWork : stage ∈ crew.tasks) :
    ∃ label app' next crew', Advance crew.app stage label app' next ∧ Step crew label crew' := by
  rcases List.append_of_mem atWork with ⟨before, after, tasks⟩
  rcases exists_advance crew.app stage with ⟨label, app', next, advance⟩
  have step : Step ⟨crew.app, before ++ stage :: after⟩ label _ := .task before after advance
  rw [← tasks] at step
  exact ⟨label, app', next, _, advance, step⟩

/-- A step of the live task takes out an entry, gives up all of them, finds none, or comes nearer to
the next one. -/
theorem Advance.nearer {app app' : App} {stage : Stage} {label : Label} {next : Option Stage}
    (advance : Advance app stage label app' next) (live : stage.live = true)
    (showing : app.queue.executing = stage.cell?) :
    label.removes.length = 1 ∨ label.removes = app.queue.pending ∨
      label.removes = [] ∧ ∃ stage', next = some stage' ∧ stage'.distance < stage.distance := by
  cases advance with
  | leave found =>
    rcases App.take_none found with ⟨queue, rfl, blocked | ⟨_, empty, rfl⟩⟩
    · exact absurd showing blocked.1
    · exact Or.inr (Or.inl empty.symm)
  | dequeue found => exact Or.inl rfl
  | abandon found | abandonIdle found =>
    rcases App.abandon_eq found with ⟨_, _, pending⟩
    exact Or.inr (Or.inl pending.symm)
  | recover | cancel | vanish => cases live
  | _ => exact Or.inr (Or.inr ⟨rfl, _, rfl, by simp [Stage.distance]⟩)

variable {crew crew' last : Crew} {label : Label} {trace : List Label}

theorem Owned.distance_le (owned : Owned crew) : crew.distance ≤ 7 := by
  cases owned with
  | idle none empty => simp [Crew.distance, none]
  | busy stage one draining showing => simpa [Crew.distance, one] using stage.distance_le

/-- While runs wait, a loop is under way. -/
theorem Owned.busy_of_waiting (owned : Owned crew) (waiting : crew.app.queue.pending ≠ []) :
    ∃ stage, crew.tasks.filter Stage.live = [stage] ∧ stage.live = true := by
  cases owned with
  | idle none empty => exact absurd (congrArg ExecutionQueue.pending empty) waiting
  | busy stage one draining showing =>
    have member : stage ∈ crew.tasks.filter Stage.live := one ▸ List.mem_singleton_self stage
    exact ⟨stage, one, (List.mem_filter.1 member).2⟩

/-- While runs wait, the loop can move. -/
theorem Owned.exists_step (owned : Owned crew) (waiting : crew.app.queue.pending ≠ []) :
    ∃ label next, Step crew label next ∧ label.ofLoop = true := by
  rcases owned.busy_of_waiting waiting with ⟨stage, one, live⟩
  have member : stage ∈ crew.tasks :=
    (List.mem_filter.1 (one ▸ List.mem_singleton_self stage)).1
  rcases exists_task_step member with ⟨label, _, _, crew', advance, step⟩
  exact ⟨label, crew', step, advance.ofLoop.trans live⟩

theorem Owned.distance_pos (owned : Owned crew) (waiting : crew.app.queue.pending ≠ []) :
    0 < crew.distance := by
  rcases owned.busy_of_waiting waiting with ⟨stage, one, live⟩
  simpa [Crew.distance, one] using Stage.distance_pos live

/-- While runs wait, a step takes out one of them, hands back all of them, or leaves them in place.
A step that leaves them in place is no step of the loop or brings it nearer. -/
theorem Owned.nearer (owned : Owned crew) (step : Step crew label crew')
    (waiting : crew.app.queue.pending ≠ []) :
    label.removes.length = 1 ∨ label.removes = crew.app.queue.pending ∨
        label.removes = [] ∧ crew'.distance + (if label.ofLoop then 1 else 0) ≤ crew.distance := by
  cases step with
  | @enqueue app tasks cellId =>
    refine Or.inr (Or.inr ⟨rfl, ?_⟩)
    cases owned with
    | idle none empty => exact absurd (congrArg ExecutionQueue.pending empty) waiting
    | busy owner one draining showing =>
      rw [owedBy_of_draining draining, List.append_nil]
      exact Nat.le_refl _
  | edit | processor | announce | consult => exact Or.inr (Or.inr ⟨rfl, Nat.le_refl _⟩)
  | @task app app' stage _ next before after advance =>
    cases live : stage.live with
    | true =>
      rcases owned.alone live with ⟨front, back, _, showing⟩
      have here : Crew.distance ⟨app, before ++ stage :: after⟩ = stage.distance := by
        simp [Crew.distance, front, back, live]
      rcases advance.nearer live showing with one | all | ⟨none, stage', rfl, less⟩
      · exact Or.inl one
      · exact Or.inr (Or.inl all)
      · refine Or.inr (Or.inr ⟨none, ?_⟩)
        have there : Crew.distance ⟨app', before ++ (some stage').toList ++ after⟩ ≤
            stage'.distance := by
          cases live' : stage'.live <;> simp [Crew.distance, front, back, live']
        rw [advance.ofLoop, live, here, if_pos rfl]
        omega
    | false =>
      rcases advance.of_dead live with ⟨_, dead⟩
      refine Or.inr (Or.inr ⟨?_, ?_⟩)
      · cases advance with
        | recover | cancel | vanish => rfl
        | _ => cases live
      · rw [advance.ofLoop, live]
        simp [Crew.distance, dead, live]

/-- Seven steps of the loop take out a waiting run, or hand all of them back. -/
theorem Run.removes_in_time (run : Run crew trace last) (owned : Owned crew) (count : Nat)
    (waiting : count ≤ crew.app.queue.pending.length)
    (enough : crew.distance + 7 * count ≤ trace.countP Label.ofLoop + 7) :
    count ≤ (removed trace).length := by
  induction run generalizing count with
  | @nil crew =>
    cases count with
    | zero => exact Nat.zero_le _
    | succ count =>
      have far : 0 < crew.distance := owned.distance_pos (List.ne_nil_of_length_pos (by omega))
      simp only [List.countP_nil] at enough
      omega
  | @cons crew next last label trace step rest inductionHypothesis =>
    cases count with
    | zero => exact Nat.zero_le _
    | succ count =>
      have some_wait : crew.app.queue.pending ≠ [] := List.ne_nil_of_length_pos (by omega)
      have far := owned.distance_pos some_wait
      have lengths := congrArg List.length step.fifo
      simp only [List.length_append] at lengths
      have shape : (removed (label :: trace)).length =
          label.removes.length + (removed trace).length := List.length_append
      rw [shape]
      rw [List.countP_cons] at enough
      rcases owned.nearer step some_wait with one | all | ⟨none, near⟩
      · have bound := (owned.step step).distance_le
        have later := inductionHypothesis (owned.step step) count (by omega)
        split at enough <;> omega
      · rw [all]
        omega
      · rw [none, List.length_nil] at lengths
        have later := inductionHypothesis (owned.step step) (count + 1) (by omega)
          (by omega)
        omega

/-- In every reachable state at most one task is live, and one is exactly while the flag of the
queue is set; with the flag unset the queue is empty and shows no cell.  So no two texts are with
the router at once.  While a run waits, the loop can move, and after seven of its moves for each
waiting run all of them have left the queue in order, whatever callers do and services answer. -/
theorem one_loop_drains {notebook : Notebook} (run : Run (.new notebook) trace crew) :
    crew.live ≤ 1 ∧
      (crew.live = 1 ↔ crew.app.queue.draining = true) ∧
      (crew.app.queue.draining = false →
        crew.app.queue.pending = [] ∧ crew.app.queue.executing = none) ∧
      crew.dispatching ≤ 1 ∧
      (crew.app.queue.pending ≠ [] →
        crew.live = 1 ∧ (∃ label next, Step crew label next ∧ label.ofLoop = true) ∧
          ∀ {later : List Label} {last : Crew}, Run crew later last →
            7 * crew.app.queue.pending.length ≤ later.countP Label.ofLoop →
              crew.app.queue.pending <+: removed later) := by
  have owned : Owned crew := (owned_new notebook).run run
  have live_eq : crew.live = (crew.tasks.filter Stage.live).length := List.countP_eq_length_filter
  have dispatching_le : crew.dispatching ≤ crew.live :=
    List.countP_mono_left fun stage _ busy => by cases stage <;> first | rfl | cases busy
  have one_of_waiting : crew.app.queue.pending ≠ [] → crew.live = 1 := fun waiting => by
    rcases owned.busy_of_waiting waiting with ⟨stage, one, _⟩
    rw [live_eq, one]
    rfl
  have in_time : ∀ {later : List Label} {last : Crew},
      Run crew later last → 7 * crew.app.queue.pending.length ≤ later.countP Label.ofLoop →
        crew.app.queue.pending <+: removed later := by
    intro later last rest enough
    have bound := owned.distance_le
    have all_left := rest.removes_in_time owned _ (Nat.le_refl _) (by omega)
    have joined : crew.app.queue.pending <+: removed later ++ last.app.queue.pending :=
      ⟨enqueued later, rest.fifo.symm⟩
    exact List.prefix_of_prefix_length_le joined (List.prefix_append _ _) all_left
  have safe : crew.live ≤ 1 ∧ (crew.live = 1 ↔ crew.app.queue.draining = true) ∧
      (crew.app.queue.draining = false →
        crew.app.queue.pending = [] ∧ crew.app.queue.executing = none) := by
    cases owned with
    | idle none empty => simp [live_eq, none, empty, ExecutionQueue.empty]
    | busy stage one draining showing => simp [live_eq, one, draining]
  rcases safe with ⟨at_most, iff_flag, idle⟩
  exact ⟨at_most, iff_flag, idle, Nat.le_trans dispatching_le at_most, fun waiting =>
    ⟨one_of_waiting waiting, owned.exists_step waiting, in_time⟩⟩

/-- With one entry taken out and another waiting, seven steps of the loop take out the other. -/
theorem one_loop_drains_second_entry :
    ∃ crew, Run (.new (.blank 0))
        [.enqueue ⟨"a", 0⟩, .spawn, .enqueue ⟨"b", 1⟩, .dequeue ⟨"a", 0⟩] crew ∧
      crew.app.queue.pending = [⟨"b", 1⟩] ∧ crew.live = 1 ∧ crew.dispatching ≤ 1 ∧
        ∀ {later : List Label} {last : Crew}, Run crew later last →
          7 ≤ later.countP Label.ofLoop → [⟨"b", 1⟩] <+: removed later := by
  have run : ∃ crew, Run (.new (.blank 0))
      [.enqueue ⟨"a", 0⟩, .spawn, .enqueue ⟨"b", 1⟩, .dequeue ⟨"a", 0⟩] crew ∧
        crew.app.queue.pending = [⟨"b", 1⟩] :=
    ⟨_, .cons (.enqueue "a") (.cons (.task [] [] .spawn) (.cons (.enqueue "b")
      (.single (.task [] [] (.dequeue rfl))))), rfl⟩
  rcases run with ⟨crew, run, pending⟩
  rcases one_loop_drains run with ⟨_, _, _, dispatching, waiting⟩
  rw [pending] at waiting
  rcases waiting (List.cons_ne_nil _ _) with ⟨one, _, in_time⟩
  exact ⟨crew, run, pending, one, dispatching, in_time⟩

end Interleaving
end AsmNotebook
