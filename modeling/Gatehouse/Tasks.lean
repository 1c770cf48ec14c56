/-!
# Background tasks

Work that must not hold up an answer.  A spawned task waits until tasks are next given time; each
task that finishes does so once, in the order of spawning, and that it fails or breaks off does not
concern the others.  Shutting down gives tasks time and says whether all of them have finished;
draining waits until all have, and so has no end when one of them never does.

More tasks may be spawned after either.

A tracker (`Tracker`) goes about this one task at a time.  It gives each waiting task its turn,
counts the tasks that have not finished, and can be closed; waiting is over when it is closed and
the count is zero.  `Tasks` is what it comes to for all tasks together.
-/

namespace Gatehouse

set_option autoImplicit false

/-- How a task ends. -/
inductive TaskEnding where
  /-- It does its work. -/
  | succeeds
  /-- It does its work and reports a fault. -/
  | fails
  /-- It does its work and breaks off. -/
  | breaksOff
  /-- It never ends and does nothing. -/
  | never
  deriving DecidableEq, Repr

/-- A task that works under an id. -/
structure Task (α : Type) where
  id : α
  ending : TaskEnding

/-- Whether a task comes to an end, be it a bad one. -/
def Task.finishes {α : Type} (task : Task α) : Bool :=
  task.ending != .never

/-- The tasks that wait, and the ids of those that have run, in the order of spawning. -/
structure Tasks (α : Type) where
  waiting : List (Task α)
  ran : List α

namespace Tasks

variable {α : Type}

/-- No tasks. -/
def empty : Tasks α := ⟨[], []⟩

/-- Adds a task. -/
def spawn (tasks : Tasks α) (task : Task α) : Tasks α :=
  { tasks with waiting := tasks.waiting ++ [task] }

/-- The number of tasks that have not finished. -/
def size (tasks : Tasks α) : Nat :=
  tasks.waiting.length

/-- Whether all tasks have finished. -/
def isEmpty (tasks : Tasks α) : Bool :=
  tasks.waiting.isEmpty

/-- Runs the tasks that come to an end. -/
def run (tasks : Tasks α) : Tasks α where
  waiting := tasks.waiting.filter fun task => !task.finishes
  ran := tasks.ran ++ (tasks.waiting.filter Task.finishes).map Task.id

/-- Waits for all tasks; there is no result when one of them never finishes. -/
def drain? (tasks : Tasks α) : Option (Tasks α) :=
  if tasks.run.isEmpty then some tasks.run else none

/-- Gives tasks time, and says whether all have finished. -/
def shutdown (tasks : Tasks α) : Bool × Tasks α :=
  (tasks.run.isEmpty, tasks.run)

end Tasks

/-! ## Tracking -/

/-- Tasks with the number of those that have not finished, and whether their tracker is closed. -/
structure Tracker (α : Type) extends Tasks α where
  unfinished : Nat
  isClosed : Bool

namespace Tracker

variable {α : Type}

/-- An open tracker without tasks. -/
def empty : Tracker α := ⟨.empty, 0, false⟩

/-- Adds a task.  A closed tracker takes tasks as well. -/
def spawn (tracker : Tracker α) (task : Task α) : Tracker α :=
  { tracker with
    toTasks := tracker.toTasks.spawn task
    unfinished := tracker.unfinished + 1 }

/-- The number of tasks that have not finished. -/
def size (tracker : Tracker α) : Nat :=
  tracker.unfinished

/-- Whether all tasks have finished. -/
def isEmpty (tracker : Tracker α) : Bool :=
  tracker.unfinished == 0

/-- Closes the tracker. -/
def close (tracker : Tracker α) : Tracker α :=
  { tracker with isClosed := true }

/-- Opens the tracker again. -/
def reopen (tracker : Tracker α) : Tracker α :=
  { tracker with isClosed := false }

/-- Takes note of a task that has come to its end. -/
def finish (tracker : Tracker α) (task : Task α) : Tracker α :=
  { tracker with
    ran := tracker.ran ++ [task.id]
    unfinished := tracker.unfinished - 1 }

/-- Gives one task its turn.  A fault is taken note of, and a task that breaks off is caught, so
that both come to their end like one that succeeds. -/
def poll (tracker : Tracker α) (task : Task α) : Tracker α :=
  match task.ending with
  | .succeeds => tracker.finish task
  | .fails => tracker.finish task
  | .breaksOff => tracker.finish task
  | .never => { tracker with waiting := tracker.waiting ++ [task] }

/-- Gives the waiting tasks their turns. -/
def run (tracker : Tracker α) : Tracker α :=
  tracker.waiting.foldl poll { tracker with waiting := [] }

/-- Whether waiting for the tasks is over. -/
def isOver (tracker : Tracker α) : Bool :=
  tracker.isClosed && tracker.isEmpty

/-- Closes the tracker until all tasks have finished; there is no result when one of them never
does. -/
def drain? (tracker : Tracker α) : Option (Tracker α) :=
  let later := tracker.close.run
  if later.isOver then some later.reopen else none

/-- Closes the tracker, gives tasks time, and says whether all have finished. -/
def shutdown (tracker : Tracker α) : Bool × Tracker α :=
  let later := tracker.close.run
  (later.isOver, later)

end Tracker

end Gatehouse
