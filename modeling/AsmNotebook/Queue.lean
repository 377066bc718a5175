namespace AsmNotebook

/-!
The queue of runs.  Runs wait in the order they came; one loop takes them out
one at a time and owns the queue while it is draining.
-/

/-- A run that waits for its turn.  The ticket tells runs of the same cell apart. -/
structure QueueEntry where
  cellId : String
  ticket : Nat
deriving DecidableEq, Repr

structure ExecutionQueue where
  pending : List QueueEntry
  executing : Option String
  /-- Whether a loop owns the queue. -/
  draining : Bool
deriving DecidableEq, Repr

/-- A run as the queue shows it. -/
structure QueuedCell where
  cellId : String
  isExecuting : Bool
  position : Nat
deriving DecidableEq, Repr

/-- What the queue shows: the run under way first, then those that wait. -/
structure QueueState where
  processing : Bool
  cells : List QueuedCell
  executing : Option String
deriving DecidableEq, Repr

namespace ExecutionQueue

def empty : ExecutionQueue where
  pending := []
  executing := none
  draining := false

/-- Append a run; the result says whether a loop must be started for it. -/
def enqueue (entry : QueueEntry) (queue : ExecutionQueue) : ExecutionQueue × Bool :=
  ({ queue with pending := queue.pending ++ [entry], draining := true }, !queue.draining)

/-- Take out the next run.  Nothing is taken out while a run is under way; where nothing waits the
queue is idle again. -/
def dequeue (queue : ExecutionQueue) : ExecutionQueue × Option QueueEntry :=
  if queue.executing.isSome then
    (queue, none)
  else
    match queue.pending with
    | entry :: rest => ({ queue with pending := rest, executing := some entry.cellId }, some entry)
    | [] => ({ queue with draining := false }, none)

/-- End the run of a cell, if it is the one under way. -/
def complete (cellId : String) (queue : ExecutionQueue) : ExecutionQueue :=
  if queue.executing = some cellId then { queue with executing := none } else queue

/-- Give everything up: the cell under way and the runs that wait are handed back. -/
def abandon (queue : ExecutionQueue) : ExecutionQueue × Option String × List QueueEntry :=
  (empty, queue.executing, queue.pending)

def isExecuting (cellId : String) (queue : ExecutionQueue) : Bool :=
  queue.executing == some cellId

def isEmpty (queue : ExecutionQueue) : Bool :=
  queue.pending.isEmpty && queue.executing.isNone

/-- Waiting runs as the queue shows them, from a position on. -/
def shown (position : Nat) : List QueueEntry → List QueuedCell
  | [] => []
  | entry :: rest => ⟨entry.cellId, false, position⟩ :: shown (position + 1) rest

def state (queue : ExecutionQueue) : QueueState where
  processing := queue.draining
  cells :=
    match queue.executing with
    | some id => ⟨id, true, 0⟩ :: shown 1 queue.pending
    | none => shown 0 queue.pending
  executing := queue.executing

end ExecutionQueue

end AsmNotebook
