import Mathlib.Data.List.Basic

/-!
# Tasks of an event loop

A loop has a queue that others add tasks to at the end. From time to time it
takes the whole queue as its next batch, and executes the tasks of a batch
one by one. What has been executed is kept.

The tasks executed, then those of the batch, then those of the queue are all
tasks, in the order in which they were added (`all`): taking the batch and
executing a task do not change this list.
-/

/-- The tasks of a loop. -/
structure TaskQueue (τ : Type*) where
  executed : List τ := []
  batch : List τ := []
  queue : List τ := []

namespace TaskQueue

variable {τ : Type*}

/-- Adding a task. -/
def post (q : TaskQueue τ) (t : τ) : TaskQueue τ := { q with queue := q.queue ++ [t] }

/-- Taking the queue as the next batch. -/
def swap (q : TaskQueue τ) : TaskQueue τ := { q with batch := q.queue, queue := [] }

/-- Executing the task `t` of the batch, with `rest` to follow. -/
def execute (q : TaskQueue τ) (t : τ) (rest : List τ) : TaskQueue τ :=
  { q with executed := q.executed ++ [t], batch := rest }

/-- Executing a task that was not queued. -/
def direct (q : TaskQueue τ) (t : τ) : TaskQueue τ := { q with executed := q.executed ++ [t] }

/-- All tasks, in order. -/
def all (q : TaskQueue τ) : List τ := q.executed ++ (q.batch ++ q.queue)

@[simp] theorem all_post (q : TaskQueue τ) (t : τ) : (q.post t).all = q.all ++ [t] := by
  unfold all post
  rw [List.append_assoc, List.append_assoc]

/-- **The batch is taken in order**, once the last one is done. -/
theorem all_swap {q : TaskQueue τ} (h : q.batch = []) : q.swap.all = q.all := by
  unfold all swap
  rw [h, List.append_nil, List.nil_append]

/-- **The batch is executed in order.** -/
theorem all_execute {q : TaskQueue τ} {t : τ} {rest : List τ} (h : q.batch = t :: rest) :
    (q.execute t rest).all = q.all := by
  unfold all execute
  rw [h, List.append_assoc]
  rfl

end TaskQueue
