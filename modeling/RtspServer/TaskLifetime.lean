import RtspServer.ServerRun

/-!
# The lifetime of a queued task

`sendRtpPacket` runs on a media thread and queues a task for the loop. The
send callback goes to some length to keep the `RtpConnection` alive while it
does so – it locks a `weak_ptr`, and holds the result until it has sent – but
the task keeps the bare address. Once the thread has dropped its reference,
the connection may close and destroy the object before the task is run.

`RunsLiveTask` says of a step that the task it runs, if it runs one, still
has its object. All steps of a run have that property if no step of it takes
the last owner from an object that has a task in the queue
(`runsLiveTask_of_run`). The invariant is that all queued tasks have their
objects.
-/

namespace ServerState

/-- **The task that a step runs has its object**: some connection or some
media thread still owns the `RtpConnection` to which the bare address in the
task points. Steps that run no task have nothing to fulfil. -/
def RunsLiveTask (s : ServerState) : ServerEvent → Prop
  | .runTask _ _ => ∀ t ∈ s.queue.head?, s.Live t.ref
  | _ => True

/-- **A step that destroys no object with a queued task.** Two steps drop an
owner: a connection that closes takes its `RtpConnection` with it, and a media
thread that has sent gives up the reference it had locked. Where a task for the
object waits in the queue, another owner has to be left: for the first a thread
in the middle of its fan-out, for the second the connection or another thread. -/
def KeepsQueued (s : ServerState) : ServerEvent → Prop
  | .disconnect name => ∀ t ∈ s.queue, s.OwnedBy name t.ref →
      ∃ thread, s.HeldBy thread t.ref
  | .drop thread => ∀ t ∈ s.queue, s.HeldBy thread t.ref →
      (∃ name, s.OwnedBy name t.ref) ∨ ∃ thread' ≠ thread, s.HeldBy thread' t.ref
  | _ => True

/-- **What the runs of the restricted system satisfy.** The second field is
what the `weak_ptr` gives: a fan-out queues tasks only for what it has locked,
so that a task is live at least when it is queued. -/
structure TasksLive (s : ServerState) : Prop where
  wellFormed : s.WellFormed
  /-- A media thread sends to connections it holds. -/
  pending_held : ∀ {thread f}, s.fanOuts thread = some f → f.pending ⊆ f.held
  /-- Every queued task has its object. -/
  queue_live : ∀ t ∈ s.queue, s.Live t.ref

/-! ## Who keeps its objects -/

/-- An object keeps an owner when connections and threads keep what they
have. -/
theorem Live.of_kept {s s' : ServerState} {ref : RtpRef} (h : s.Live ref)
    (howned : ∀ name, s.OwnedBy name ref → s'.OwnedBy name ref)
    (hheld : ∀ thread, s.HeldBy thread ref → s'.HeldBy thread ref) : s'.Live ref := by
  rcases h with ⟨name, h⟩ | ⟨thread, h⟩
  · exact .inl ⟨name, howned name h⟩
  · exact .inr ⟨thread, hheld thread h⟩

/-- A new connection is given a new name. -/
theorem OwnedBy.connect {s : ServerState} (hwf : s.WellFormed) {name : ConnName} {ref : RtpRef}
    (h : s.OwnedBy name ref) (fd : ℤ) : (s.afterConnect fd).OwnedBy name ref := by
  obtain ⟨c, hc, hptr⟩ := h
  have hname : name ≠ s.nextConn := (hwf.tcp_lt (hwf.tcp_of_conn hc)).ne
  exact ⟨c, by rw [← hc]; exact Function.update_of_ne hname .., hptr⟩

/-- No command takes the `RtpConnection` from a connection. -/
theorem OwnedBy.request {s : ServerState} {name name' : ConnName} {env : Env} {r : RtspRequest}
    {c : RtspConnection} {x : Serving} {ref : RtpRef} (hconn : s.conns name = some c)
    (hx : Serving.handleCmd env r { conn := c, world := s.world } = .ok x)
    (h : s.OwnedBy name' ref) : (s.afterRequest name r x).OwnedBy name' ref := by
  obtain ⟨c', hc', hptr⟩ := h
  by_cases hname : name' = name
  · subst hname
    rw [hconn, Option.some.injEq] at hc'
    subst hc'
    refine ⟨x.conn, Function.update_self .., ?_⟩
    rcases (handleCmd_conn hx).2.2 with ⟨hsame, -⟩ | ⟨hnone, -, -⟩
    · exact hsame.trans hptr
    · rw [hptr] at hnone
      cases hnone
  · exact ⟨c', by rw [← hc']; exact Function.update_of_ne hname .., hptr⟩

/-- What an idle thread starts to hold takes nothing from another thread. -/
theorem HeldBy.update {s s' : ServerState} {thread thread' : ℕ} {f : Option FanOut} {ref : RtpRef}
    (h : s.HeldBy thread' ref) (hne : thread' ≠ thread)
    (hs : s'.fanOuts = Function.update s.fanOuts thread f) : s'.HeldBy thread' ref := by
  obtain ⟨g, hg, href⟩ := h
  exact ⟨g, by rw [hs, Function.update_of_ne hne]; exact hg, href⟩

/-- The pending connections stay held when one thread's fan-out is replaced by
one whose pending connections are held. -/
theorem TasksLive.pending_update {s s' : ServerState} (hs : s.TasksLive) {thread : ℕ}
    {f : Option FanOut} (hfan : s'.fanOuts = Function.update s.fanOuts thread f)
    (hf : ∀ g, f = some g → g.pending ⊆ g.held) {thread' : ℕ} {g : FanOut}
    (hg : s'.fanOuts thread' = some g) : g.pending ⊆ g.held := by
  rw [hfan] at hg
  by_cases hthread : thread' = thread
  · rw [hthread, Function.update_self] at hg
    exact hf g hg
  · rw [Function.update_of_ne hthread] at hg
    exact hs.pending_held hg

/-! ## The steps -/

theorem TasksLive.lock {s s' : ServerState} (hs : s.TasksLive) (hwf : s'.WellFormed)
    {thread : ℕ} {ch : MediaChannelId} {pkt : RtpPacket} {refs : List RtpRef}
    (hidle : s.fanOuts thread = none) (hconns : s'.conns = s.conns) (hqueue : s'.queue = s.queue)
    (hfan : s'.fanOuts = Function.update s.fanOuts thread (some ⟨ch, pkt, refs, refs⟩)) :
    s'.TasksLive := by
  refine ⟨hwf, hs.pending_update hfan ?_, fun t ht => ?_⟩
  · rintro g ⟨rfl⟩
    exact List.Subset.refl refs
  · rw [hqueue] at ht
    refine (hs.queue_live t ht).of_kept (fun name h => ?_) fun thread' h => ?_
    · obtain ⟨c, hc, hptr⟩ := h
      exact ⟨c, by rw [hconns]; exact hc, hptr⟩
    · refine h.update ?_ hfan
      rintro rfl
      obtain ⟨f, hf, -⟩ := h
      rw [hidle] at hf
      cases hf

/-- **A thread queues a task for a connection it holds.** -/
theorem TasksLive.send {s s' : ServerState} (hs : s.TasksLive) (hwf : s'.WellFormed)
    {thread : ℕ} {f : FanOut} {ref : RtpRef} {rest : List RtpRef}
    (hf : s.fanOuts thread = some f) (hpending : f.pending = ref :: rest)
    (hconns : s'.conns = s.conns)
    (hqueue : ∀ t ∈ s'.queue, t ∈ s.queue ∨ t.ref = ref)
    (hfan : s'.fanOuts = Function.update s.fanOuts thread (some { f with pending := rest })) :
    s'.TasksLive := by
  have hsub : ∀ ref' ∈ ref :: rest, ref' ∈ f.held := hpending ▸ hs.pending_held hf
  have hnow : s'.fanOuts thread = some { f with pending := rest } := by
    rw [hfan, Function.update_self]
  have hheld : s'.HeldBy thread ref := ⟨_, hnow, hsub ref List.mem_cons_self⟩
  refine ⟨hwf, hs.pending_update hfan ?_, fun t ht => ?_⟩
  · rintro g ⟨rfl⟩
    exact fun ref' h => hsub ref' (List.mem_cons_of_mem _ h)
  · rcases hqueue t ht with hold | hnew
    · refine (hs.queue_live t hold).of_kept (fun name h => ?_) fun thread' h => ?_
      · obtain ⟨c, hc, hptr⟩ := h
        exact ⟨c, by rw [hconns]; exact hc, hptr⟩
      · by_cases hthread : thread' = thread
        · subst hthread
          obtain ⟨g, hg, href⟩ := h
          rw [hf, Option.some.injEq] at hg
          subst hg
          exact ⟨_, hnow, href⟩
        · exact h.update hthread hfan
    · rw [hnew]
      exact .inr ⟨thread, hheld⟩

theorem TasksLive.step {s s' : ServerState} {e : ServerEvent} (hs : s.TasksLive)
    (hgood : s.KeepsQueued e) (h : ServerStep s e s') : s'.TasksLive := by
  have hwf := hs.wellFormed.step h
  cases h with
  | connect hfree =>
    exact ⟨hwf, hs.pending_held, fun t ht => (hs.queue_live t ht).of_kept
      (fun _ h => h.connect hs.wellFormed _) fun _ h => h⟩
  | request hconn hx =>
    exact ⟨hwf, hs.pending_held, fun t ht => (hs.queue_live t ht).of_kept
      (fun _ h => h.request hconn hx) fun _ h => h⟩
  | @disconnect name c hconn =>
    refine ⟨hwf, hs.pending_held, fun t ht => ?_⟩
    rcases hs.queue_live t ht with ⟨name', hown⟩ | ⟨thread, hheld⟩
    · by_cases hname : name' = name
      · obtain ⟨thread, hheld⟩ := hgood t ht (hname ▸ hown)
        exact .inr ⟨thread, hheld⟩
      · obtain ⟨c', hc', hptr⟩ := hown
        exact .inl ⟨name', c', by rw [← hc']; exact Function.update_of_ne hname .., hptr⟩
    · exact .inr ⟨thread, hheld⟩
  | closeTcp hconn => exact ⟨hwf, hs.pending_held, hs.queue_live⟩
  | lock hidle hsession hlive => exact hs.lock hwf hidle rfl rfl rfl
  | @send thread f ref rest hfan hpending =>
    refine hs.send hwf hfan hpending rfl (fun t ht => ?_) rfl
    unfold afterSend at ht
    split at ht
    · rcases List.mem_append.mp ht with h | h
      · exact .inl h
      · exact .inr (by rw [List.mem_singleton.mp h])
    · exact .inl ht
  | @drop thread f hfan hdone =>
    refine ⟨hwf, hs.pending_update rfl (fun g h => by cases h), fun t ht => ?_⟩
    have hother : (∃ name, s.OwnedBy name t.ref) ∨ ∃ thread' ≠ thread, s.HeldBy thread' t.ref := by
      rcases hs.queue_live t ht with hown | ⟨thread', hheld⟩
      · exact .inl hown
      · by_cases hthread : thread' = thread
        · exact hgood t ht (hthread ▸ hheld)
        · exact .inr ⟨thread', hthread, hheld⟩
    rcases hother with hown | ⟨thread', hne, hheld⟩
    · exact .inl hown
    · exact .inr ⟨thread', hheld.update hne rfl⟩
  | runTask hqueue hrun =>
    refine ⟨hwf, hs.pending_held, fun t' ht' => ?_⟩
    exact hs.queue_live t' (by rw [hqueue]; exact List.mem_cons_of_mem _ ht')

theorem tasksLive_init {s : ServerState} (h : serverSystem.init s) : s.TasksLive := by
  refine ⟨wellFormed_init h, ?_, ?_⟩
  · obtain ⟨world, rfl, -⟩ := h
    intro thread f hf
    cases hf
  · obtain ⟨world, rfl, -⟩ := h
    intro t ht
    cases ht

/-- **No task is run after its object is gone**, in a run in which no step
takes the last owner from an object with a queued task. The step `e` need not be
one that can be taken: what is said is that the first task in the queue, if any,
has its object. -/
theorem runsLiveTask_of_run {events : List ServerEvent} {s : ServerState}
    (hrun : (serverSystem.restrict KeepsQueued).Run events s) (e : ServerEvent) :
    s.RunsLiveTask e := by
  have hinit : ∀ s, (serverSystem.restrict KeepsQueued).init s → s.TasksLive :=
    fun s h => tasksLive_init h
  have hstep : ∀ s e s', s.TasksLive → (serverSystem.restrict KeepsQueued).step s e s' →
      s'.TasksLive := fun s e s' hs h => hs.step h.1 h.2
  have hs := hrun.invariant hinit hstep
  cases e with
  | runTask sendtoFails peerName => exact fun t ht => hs.queue_live t (List.mem_of_mem_head? ht)
  | connect | request | disconnect | closeTcp | lock | send | drop => trivial

/-! ## A task that outlives its object -/

theorem firstClient_live (ref : RtpRef) : (ref == 0) = true ↔ firstClient.Live ref :=
  live_iff_of_single rfl rfl (fun _ => firstClient_conns) (fun _ => rfl) ref

/-- The session with that client. -/
def describedSession : MediaSession RtpRef := (liveSession.addClient 7 0).2.1

/-- A media thread has taken the clients of the session. -/
def locked (pkt : RtpPacket) : ServerState :=
  firstClient.afterLock 0 2 .channel0 pkt describedSession (· == 0)

/-- It has queued the task for the one client. -/
def queued (pkt : RtpPacket) : ServerState :=
  (locked pkt).afterSend 0 ⟨.channel0, pkt, [0], [0]⟩ 0 []

/-- It has dropped its references. -/
def dropped (pkt : RtpPacket) : ServerState :=
  { queued pkt with fanOuts := Function.update (queued pkt).fanOuts 0 none }

/-- The client is gone before the loop runs the task. -/
def abandoned (pkt : RtpPacket) : ServerState :=
  { dropped pkt with conns := Function.update (dropped pkt).conns 0 none }

/-- The run to the state in which the task is queued destroys nothing. -/
theorem run_queued (pkt : RtpPacket) :
    (serverSystem.restrict KeepsQueued).Run
      ([.connect 7, .request 0 .quiet describeLive] ++ [.lock 0 2 .channel0 pkt] ++ [.send 0])
      (queued pkt) := by
  have hlock : ServerStep firstClient (.lock 0 2 .channel0 pkt) (locked pkt) :=
    .lock rfl rfl firstClient_live
  have hsend : ServerStep (locked pkt) (.send 0) (queued pkt) := .send rfl rfl
  have hfirst := run_firstClient KeepsQueued trivial trivial
  have hlocked : (serverSystem.restrict KeepsQueued).Run
      ([.connect 7, .request 0 .quiet describeLive] ++ [.lock 0 2 .channel0 pkt]) (locked pkt) :=
    hfirst.snoc ⟨trivial, hlock⟩
  exact hlocked.snoc ⟨trivial, hsend⟩

/-- A packet of zeros. -/
def zeroPacket : RtpPacket := { data := .filled 1600 0 }

/-- Two media threads have taken the client. -/
def lockedTwice : ServerState :=
  (locked zeroPacket).afterLock 1 2 .channel0 zeroPacket describedSession (· == 0)

/-- Both have queued a task for it. -/
def queuedTwice : ServerState :=
  (lockedTwice.afterSend 0 ⟨.channel0, zeroPacket, [0], [0]⟩ 0 []).afterSend 1
    ⟨.channel0, zeroPacket, [0], [0]⟩ 0 []

/-- The first thread is through. -/
def releasedOnce : ServerState :=
  { queuedTwice with fanOuts := Function.update queuedTwice.fanOuts 0 none }

theorem locked_live (pkt : RtpPacket) (ref : RtpRef) :
    (ref == 0) = true ↔ (locked pkt).Live ref := by
  rw [firstClient_live]
  constructor
  · exact fun h => h.of_kept (fun _ h => h) fun thread h => by
      obtain ⟨f, hf, -⟩ := h
      cases hf
  · rintro (⟨name, hown⟩ | ⟨thread, f, hf, hmem⟩)
    · exact .inl ⟨name, hown⟩
    · by_cases hthread : thread = 0
      · subst hthread
        obtain rfl := Option.some.inj hf
        obtain rfl := List.mem_singleton.mp hmem
        exact (firstClient_live 0).mp rfl
      · cases (Function.update_of_ne hthread ..).symm.trans hf

/-- What the media threads, the loop and the client do: each thread queues a task, the
first drops its reference, one task is run, and then the client goes. -/
def twoPushes : List ServerEvent :=
  [.connect 7, .request 0 .quiet describeLive] ++ [.lock 0 2 .channel0 zeroPacket] ++
    [.lock 1 2 .channel0 zeroPacket] ++ [.send 0] ++ [.send 1] ++ [.drop 0] ++
    [.runTask false none] ++ [.disconnect 0]

/-- **A connection that is closed in good time**: the second thread still holds the object
for the task that is left. -/
theorem run_twoPushes : ∃ s, (serverSystem.restrict KeepsQueued).Run twoPushes s ∧
    s.conns 0 = none ∧ s.queue.map SendTask.ref = [0] := by
  have hlock : ServerStep firstClient (.lock 0 2 .channel0 zeroPacket) (locked zeroPacket) :=
    .lock rfl rfl firstClient_live
  have hagain : ServerStep (locked zeroPacket) (.lock 1 2 .channel0 zeroPacket) lockedTwice :=
    .lock rfl rfl (locked_live zeroPacket)
  have hsend : ServerStep lockedTwice (.send 0) _ := .send rfl rfl
  have hsend' : ServerStep _ (.send 1) queuedTwice := .send rfl rfl
  have hdrop : ServerStep queuedTwice (.drop 0) releasedOnce := .drop rfl rfl
  obtain ⟨s, htask, hconns, hqueue, hfan⟩ : ∃ s,
      ServerStep releasedOnce (.runTask false none) s ∧ s.conns 0 = some describedOnSeven ∧
      s.queue = [⟨0, .channel0, zeroPacket⟩] ∧
      s.fanOuts 1 = some ⟨.channel0, zeroPacket, [0], []⟩ :=
    ⟨_, .runTask rfl rfl, rfl, rfl, rfl⟩
  have hdisconnect : ServerStep s (.disconnect 0) _ := .disconnect hconns
  -- the connection and the second thread own the object when the first thread drops it
  have hown : queuedTwice.KeepsQueued (.drop 0) := by
    intro t ht _
    have href : t.ref = 0 := by
      rcases List.mem_cons.mp ht with rfl | ht
      · rfl
      · exact congrArg SendTask.ref (List.mem_singleton.mp ht)
    exact .inl ⟨0, describedOnSeven, rfl, href ▸ rfl⟩
  have hheld : s.KeepsQueued (.disconnect 0) := by
    intro t ht _
    rw [hqueue] at ht
    rw [List.mem_singleton.mp ht]
    exact ⟨1, _, hfan, List.mem_singleton_self 0⟩
  have hfirst := run_firstClient KeepsQueued trivial trivial
  have hqueued := (((hfirst.snoc_restrict hlock trivial).snoc_restrict hagain trivial
    ).snoc_restrict hsend trivial).snoc_restrict hsend' trivial
  refine ⟨_, ((hqueued.snoc_restrict hdrop hown).snoc_restrict htask trivial).snoc_restrict
    hdisconnect hheld, ?_, ?_⟩
  · show Function.update s.conns 0 none 0 = none
    exact Function.update_self ..
  · show s.queue.map SendTask.ref = [0]
    rw [hqueue]
    rfl

/-- The task that is left has its object. -/
theorem twoPushes_runsLiveTask : ∃ s, (serverSystem.restrict KeepsQueued).Run twoPushes s ∧
    s.conns 0 = none ∧ s.queue.map SendTask.ref = [0] ∧ s.RunsLiveTask (.runTask false none) := by
  obtain ⟨s, hrun, hclosed, hqueue⟩ := run_twoPushes
  exact ⟨s, hrun, hclosed, hqueue, runsLiveTask_of_run hrun _⟩

theorem run_abandoned (pkt : RtpPacket) :
    serverSystem.Run ([.connect 7, .request 0 .quiet describeLive] ++ [.lock 0 2 .channel0 pkt]
      ++ [.send 0] ++ [.drop 0] ++ [.disconnect 0]) (abandoned pkt) := by
  have hdrop : ServerStep (queued pkt) (.drop 0) (dropped pkt) := .drop rfl rfl
  have hdisconnect : ServerStep (dropped pkt) (.disconnect 0) (abandoned pkt) := .disconnect rfl
  exact ((run_queued pkt).of_restrict.snoc hdrop).snoc hdisconnect

/-- **A task is run after its object was destroyed**: the media thread has
dropped its reference, and the client has gone. -/
theorem abandoned_runs_dead_task : ¬ ∀ events e s s',
    serverSystem.Run events s → ServerStep s e s' → s.RunsLiveTask e := by
  intro hall
  let pkt : RtpPacket := { data := .filled 1600 0 }
  have hstep : ServerStep (abandoned pkt) (.runTask false none) _ := .runTask rfl rfl
  have hlive : (abandoned pkt).Live 0 := hall _ _ _ _ (run_abandoned pkt) hstep _ rfl
  rcases hlive with ⟨name, c, hc, -⟩ | ⟨thread, f, hf, -⟩
  · by_cases hname : name = 0
    · subst hname
      cases hc
    · have hc' : firstClient.conns name = some c := of_update_none hc
      rw [firstClient_conns hname] at hc'
      cases hc'
  · have hf' : (queued pkt).fanOuts thread = some f := of_update_none hf
    by_cases hthread : thread = 0
    · subst hthread
      cases hf
    · have hnone : (queued pkt).fanOuts thread = none :=
        (Function.update_of_ne hthread ..).trans (Function.update_of_ne hthread ..)
      rw [hnone] at hf'
      cases hf'

end ServerState
