import Mathlib.Data.List.DropRight
import Gatehouse.Tasks

/-!
# Rounds of tasks

A round gives every task that waits its turn, be it for draining or for shutting down.  A task that
has been spawned before the last round has had its turn (`Tracker.due`): if it comes to an end at
all, however bad, it has run, and if it does not, it waits for ever.  What a tracker holds is told
by these tasks and by those spawned since (`Tracker.Reflects`), and every step keeps it so.

The main statement is `Tracker.each_task_runs_once`: along any steps that do not wait for a task
that never finishes, the tasks that finish have run once each and in order, and the count is that of
the others.  A tracker does one by one what is done with all of its tasks together
(`Tracker.drain?_eq`, `Tracker.shutdown_eq`).
-/

namespace Gatehouse

set_option autoImplicit false

/-! ## Steps -/

/-- What is done with a tracker. -/
inductive TaskStep (α : Type) where
  | spawn (task : Task α)
  | drain
  | shutdown

variable {α : Type}

/-- The task that a step spawns. -/
def TaskStep.spawned? : TaskStep α → Option (Task α)
  | .spawn task => some task
  | _ => none

/-- Whether a step gives the waiting tasks their turns. -/
def TaskStep.isRound : TaskStep α → Bool
  | .spawn _ => false
  | _ => true

/-- Whether a step waits for all tasks. -/
def TaskStep.isDrain : TaskStep α → Bool
  | .drain => true
  | _ => false

theorem TaskStep.isDrain_iff {step : TaskStep α} : step.isDrain = true ↔ step = .drain := by
  cases step <;> simp [isDrain]

namespace Tracker

/-- The tasks that steps spawn, in order. -/
def spawned (steps : List (TaskStep α)) : List (Task α) :=
  steps.filterMap TaskStep.spawned?

/-- The tasks that have had a turn: those that were spawned before the last round. -/
def due (steps : List (TaskStep α)) : List (Task α) :=
  spawned (steps.rdropWhile fun step => !step.isRound)

/-- Carries out a step; there is no result when it waits for a task that never finishes. -/
def perform? (tracker : Tracker α) : TaskStep α → Option (Tracker α)
  | .spawn task => some (tracker.spawn task)
  | .drain => tracker.drain?
  | .shutdown => some tracker.shutdown.2

/-- An open tracker after steps. -/
def after? (steps : List (TaskStep α)) : Option (Tracker α) :=
  steps.foldlM perform? empty

/-- Whether steps drain a tracker only while all tasks spawned until then come to an end. -/
def DrainsInTime (steps : List (TaskStep α)) : Prop :=
  ∀ earlier later, steps = earlier ++ .drain :: later →
    ∀ task ∈ spawned earlier, task.finishes = true

/-- That steps drain in time is seen step by step. -/
theorem drainsInTime_iff {steps : List (TaskStep α)} :
    DrainsInTime steps ↔ ∀ place : Fin steps.length, (steps.get place).isDrain = true →
      ∀ task ∈ spawned (steps.take place), task.finishes = true := by
  constructor
  · intro inTime place isDrain
    apply inTime (steps.take place) (steps.drop (place + 1))
    rw [← TaskStep.isDrain_iff.1 isDrain, List.get_eq_getElem,
      ← List.drop_eq_getElem_cons place.isLt, List.take_append_drop]
  · rintro inTime earlier later rfl
    have isPlace : earlier.length < (earlier ++ TaskStep.drain :: later).length := by simp
    simpa [TaskStep.isDrain] using inTime ⟨earlier.length, isPlace⟩

instance {steps : List (TaskStep α)} : Decidable (DrainsInTime steps) :=
  decidable_of_iff _ drainsInTime_iff.symm

theorem spawned_concat_spawn (steps : List (TaskStep α)) (task : Task α) :
    spawned (steps ++ [.spawn task]) = spawned steps ++ [task] := by
  simp [spawned, TaskStep.spawned?]

theorem spawned_concat_round (steps : List (TaskStep α)) {step : TaskStep α}
    (isRound : step.isRound = true) : spawned (steps ++ [step]) = spawned steps := by
  cases step with
  | spawn task => cases isRound
  | _ => simp [spawned, TaskStep.spawned?]

theorem due_concat_spawn (steps : List (TaskStep α)) (task : Task α) :
    due (steps ++ [.spawn task]) = due steps := by
  rw [due, List.rdropWhile_concat_pos _ _ _ rfl, ← due]

theorem due_concat_round (steps : List (TaskStep α)) {step : TaskStep α}
    (isRound : step.isRound = true) : due (steps ++ [step]) = spawned steps := by
  rw [due, List.rdropWhile_concat_neg _ _ _ (by simp [isRound]), spawned_concat_round _ isRound]

theorem drainsInTime_concat {steps : List (TaskStep α)} {step : TaskStep α} :
    DrainsInTime (steps ++ [step]) ↔
      DrainsInTime steps ∧ (step = .drain → ∀ task ∈ spawned steps, task.finishes = true) := by
  constructor
  · intro inTime
    constructor
    · rintro earlier later rfl
      exact inTime earlier (later ++ [step]) (by simp)
    · rintro rfl
      exact inTime steps [] rfl
  · rintro ⟨inTime, atLast⟩ earlier later isSplit
    rcases later.eq_nil_or_concat with rfl | ⟨front, last, rfl⟩
    · obtain ⟨rfl, isLast⟩ := List.append_inj' isSplit rfl
      exact atLast (List.singleton_inj.1 isLast)
    · have isSplit' : steps ++ [step] = (earlier ++ .drain :: front) ++ [last] := by
        simpa using isSplit
      exact inTime earlier front (List.append_inj' isSplit' rfl).1

/-! ## Turns -/

variable {tracker : Tracker α}

theorem poll_of_finishes {task : Task α} (finishes : task.finishes = true) :
    tracker.poll task = tracker.finish task := by
  obtain ⟨id, ending⟩ := task
  cases ending with
  | never => cases finishes
  | _ => rfl

theorem poll_of_not_finishes {task : Task α} (isEndless : task.finishes = false) :
    tracker.poll task = { tracker with waiting := tracker.waiting ++ [task] } := by
  obtain ⟨id, ending⟩ := task
  cases ending with
  | never => rfl
  | _ => cases isEndless

/-- After their turns the tasks that do not finish wait behind the others, and are all that is
counted of them. -/
theorem foldl_poll (tasks : List (Task α)) (tracker : Tracker α)
    (counted : tracker.unfinished = tracker.waiting.length + tasks.length) :
    tasks.foldl poll tracker =
      { tracker with
        waiting := tracker.waiting ++ tasks.filter fun task => !task.finishes
        ran := tracker.ran ++ (tasks.filter Task.finishes).map Task.id
        unfinished :=
          tracker.waiting.length + (tasks.filter fun task => !task.finishes).length } := by
  induction tasks generalizing tracker with
  | nil =>
      obtain ⟨⟨waiting, ran⟩, unfinished, isClosed⟩ := tracker
      obtain rfl : unfinished = waiting.length := counted
      simp
  | cons task rest ih =>
      rw [List.length_cons] at counted
      rw [List.foldl_cons]
      cases finishes : task.finishes with
      | true =>
          rw [poll_of_finishes finishes, ih]
          · simp [finish, finishes]
          · simp only [finish, counted]
            omega
      | false =>
          rw [poll_of_not_finishes finishes, ih]
          · simp [finishes, Nat.add_assoc, Nat.add_comm 1]
          · simp only [counted, List.length_append, List.length_singleton]
            omega

/-- Turns come to what running all tasks together comes to. -/
theorem run_eq (counted : tracker.unfinished = tracker.waiting.length) :
    tracker.run =
      { tracker with
        toTasks := tracker.toTasks.run
        unfinished := tracker.toTasks.run.waiting.length } := by
  rw [run, foldl_poll _ _ (by simp [counted])]
  simp [Tasks.run]

/-- What a closed tracker comes to in a round. -/
theorem run_close (counted : tracker.unfinished = tracker.waiting.length) :
    tracker.close.run = ⟨tracker.toTasks.run, tracker.toTasks.run.size, true⟩ := by
  have counted' : tracker.close.unfinished = tracker.close.waiting.length := counted
  rw [run_eq counted']
  rfl

theorem isOver_run_close (counted : tracker.unfinished = tracker.waiting.length) :
    tracker.close.run.isOver = tracker.toTasks.run.isEmpty := by
  rw [run_close counted, isOver, isEmpty, Tasks.size, Tasks.isEmpty]
  cases tracker.toTasks.run.waiting <;> rfl

/-- Draining a tracker drains its tasks. -/
theorem drain?_eq (counted : tracker.unfinished = tracker.waiting.length) :
    tracker.drain? = tracker.toTasks.drain?.map fun tasks => ⟨tasks, tasks.size, false⟩ := by
  rw [drain?, isOver_run_close counted, run_close counted, Tasks.drain?]
  split <;> rfl

/-- Shutting a tracker down gives its tasks time, and says of them whether all have finished. -/
theorem shutdown_eq (counted : tracker.unfinished = tracker.waiting.length) :
    tracker.shutdown =
      (tracker.toTasks.shutdown.1,
        ⟨tracker.toTasks.shutdown.2, tracker.toTasks.shutdown.2.size, true⟩) := by
  rw [shutdown, isOver_run_close counted, run_close counted]
  rfl

/-! ## What a tracker holds -/

/-- Whether a tracker holds what it should after some tasks have had a turn and others have been
spawned since. -/
structure Reflects (tracker : Tracker α) (due fresh : List (Task α)) : Prop where
  waiting : tracker.waiting = (due.filter fun task => !task.finishes) ++ fresh
  ran : tracker.ran = (due.filter Task.finishes).map Task.id
  counted : tracker.unfinished = tracker.waiting.length

namespace Reflects

variable {due fresh : List (Task α)}

theorem empty : (Tracker.empty : Tracker α).Reflects [] [] := ⟨rfl, rfl, rfl⟩

theorem spawn (reflects : tracker.Reflects due fresh) (task : Task α) :
    (tracker.spawn task).Reflects due (fresh ++ [task]) where
  waiting := by
    change tracker.waiting ++ [task] = _
    rw [reflects.waiting, List.append_assoc]
  ran := reflects.ran
  counted := by
    change tracker.unfinished + 1 = (tracker.waiting ++ [task]).length
    rw [reflects.counted, List.length_append, List.length_singleton]

/-- Tasks that have had their turns before do not run again. -/
theorem run (reflects : tracker.Reflects due fresh) :
    tracker.toTasks.run = ⟨(due ++ fresh).filter fun task => !task.finishes,
      ((due ++ fresh).filter Task.finishes).map Task.id⟩ := by
  have noneFinishes : (due.filter fun task => !task.finishes).filter Task.finishes = [] := by
    rw [List.filter_filter, List.filter_eq_nil_iff]
    simp
  have allWait : (due.filter fun task => !task.finishes).filter (fun task => !task.finishes) =
      due.filter fun task => !task.finishes := by
    rw [List.filter_filter]
    simp
  rw [Tasks.run, reflects.waiting, reflects.ran, List.filter_append, List.filter_append,
    noneFinishes, allWait, List.nil_append, ← List.filter_append, ← List.map_append,
    ← List.filter_append]

/-- Nothing is left after a round exactly if all tasks come to an end. -/
theorem isEmpty_run (reflects : tracker.Reflects due fresh) :
    tracker.toTasks.run.isEmpty = true ↔ ∀ task ∈ due ++ fresh, task.finishes = true := by
  rw [reflects.run, Tasks.isEmpty, List.isEmpty_iff, List.filter_eq_nil_iff]
  simp

/-- After a round all tasks have had a turn. -/
theorem round (reflects : tracker.Reflects due fresh) (isClosed : Bool) :
    (⟨tracker.toTasks.run, tracker.toTasks.run.size, isClosed⟩ : Tracker α).Reflects
      (due ++ fresh) [] where
  waiting := by
    rw [List.append_nil, reflects.run]
  ran := by rw [reflects.run]
  counted := rfl

theorem size_add_length (reflects : tracker.Reflects due fresh) :
    tracker.size + tracker.ran.length = (due ++ fresh).length := by
  have split := List.length_eq_length_filter_add (l := due) Task.finishes
  rw [size, reflects.counted, reflects.waiting, reflects.ran]
  simp only [List.length_append, List.length_map]
  omega

end Reflects

/-! ## Runs -/

theorem after?_concat (steps : List (TaskStep α)) (step : TaskStep α) :
    after? (steps ++ [step]) = (after? steps).bind fun tracker => tracker.perform? step := by
  simp [after?, List.foldlM_append]

/-- Steps that drain in time come to an end, with a tracker that holds what it should. -/
theorem exists_reflects {steps : List (TaskStep α)} (inTime : DrainsInTime steps) :
    ∃ tracker fresh, after? steps = some tracker ∧ spawned steps = due steps ++ fresh ∧
      tracker.Reflects (due steps) fresh := by
  -- the steps grow at their end, where the last round is
  induction steps using List.reverseRecOn with
  | nil => exact ⟨empty, [], rfl, rfl, .empty⟩
  | append_singleton steps step ih =>
      obtain ⟨inTime, atLast⟩ := drainsInTime_concat.1 inTime
      obtain ⟨tracker, fresh, isAfter, isSplit, reflects⟩ := ih inTime
      rw [after?_concat, isAfter, Option.bind_some]
      cases step with
      | spawn task =>
          rw [due_concat_spawn, spawned_concat_spawn, isSplit]
          exact ⟨_, fresh ++ [task], rfl, List.append_assoc _ _ _, reflects.spawn task⟩
      | drain =>
          have finishing : tracker.toTasks.run.isEmpty = true := by
            rw [reflects.isEmpty_run, ← isSplit]
            exact atLast rfl
          rw [due_concat_round _ rfl, spawned_concat_round _ rfl, isSplit]
          refine ⟨_, [], ?_, (List.append_nil _).symm, reflects.round false⟩
          rw [perform?, drain?_eq reflects.counted, Tasks.drain?, if_pos finishing]
          rfl
      | shutdown =>
          rw [due_concat_round _ rfl, spawned_concat_round _ rfl, isSplit]
          refine ⟨_, [], ?_, (List.append_nil _).symm, reflects.round true⟩
          rw [perform?, shutdown_eq reflects.counted]
          rfl

/-- **Each task that comes to an end is run once, and how it ends does not matter to the others.**
Steps that drain a tracker only while all tasks come to an end come to an end themselves.  What has
run by then, in the order of spawning, are the tasks that finish among those spawned before the last
round; right after a round these are all that finish.  The count is that of the tasks which have not
finished.  Whatever has been done before, the next shutdown says that all have finished exactly if
every task spawned so far comes to an end, and only then does draining end. -/
theorem each_task_runs_once {steps : List (TaskStep α)} (inTime : DrainsInTime steps) :
    ∃ tracker, after? steps = some tracker ∧
      tracker.ran = ((due steps).filter Task.finishes).map Task.id ∧
      (∀ last, steps.getLast? = some last → last.isRound = true →
        tracker.ran = ((spawned steps).filter Task.finishes).map Task.id) ∧
      tracker.size + tracker.ran.length = (spawned steps).length ∧
      (tracker.isEmpty = true ↔ tracker.size = 0) ∧
      (tracker.shutdown.1 = true ↔ ∀ task ∈ spawned steps, task.finishes = true) ∧
      (tracker.drain?.isSome = true ↔ ∀ task ∈ spawned steps, task.finishes = true) := by
  obtain ⟨tracker, fresh, isAfter, isSplit, reflects⟩ := exists_reflects inTime
  refine ⟨tracker, isAfter, reflects.ran, ?_, ?_, beq_iff_eq, ?_, ?_⟩
  · intro last isLast isRound
    obtain ⟨earlier, rfl⟩ := List.getLast?_eq_some_iff.1 isLast
    rw [reflects.ran, due_concat_round _ isRound, spawned_concat_round _ isRound]
  · rw [reflects.size_add_length, isSplit]
  · rw [shutdown_eq reflects.counted, isSplit, ← reflects.isEmpty_run]
    rfl
  · rw [drain?_eq reflects.counted, Option.isSome_map, Tasks.drain?, isSplit,
      ← reflects.isEmpty_run]
    split
    next isDone => simp [isDone]
    next isLeft => simp [isLeft]

/-- Tasks that fail and break off, and tasks behind one that never finishes. -/
def sampleSteps : List (TaskStep Nat) :=
  [.spawn ⟨1, .breaksOff⟩, .spawn ⟨2, .fails⟩, .drain, .spawn ⟨3, .never⟩, .spawn ⟨4, .succeeds⟩,
   .shutdown, .spawn ⟨5, .fails⟩, .shutdown, .spawn ⟨6, .succeeds⟩]

theorem drainsInTime_sampleSteps : DrainsInTime sampleSteps := by decide

/-- What is spawned behind a task that never finishes is run all the same. -/
theorem each_task_runs_once_behind_endless :
    ∃ tracker, after? sampleSteps = some tracker ∧ tracker.ran = [1, 2, 4, 5] ∧
      tracker.size = 2 ∧ tracker.shutdown.1 = false := by
  obtain ⟨tracker, isAfter, ran, -, counts, -, isDone, -⟩ :=
    each_task_runs_once drainsInTime_sampleSteps
  refine ⟨tracker, isAfter, ran, ?_, ?_⟩
  · rw [ran] at counts
    exact Nat.add_right_cancel counts
  · rw [← Bool.not_eq_true, isDone]
    decide

end Tracker

end Gatehouse
