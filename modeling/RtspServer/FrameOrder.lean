import RtspServer.RtpConnection
import RtspServer.PushFrame
import RtspServer.TaskQueue
import RtspServer.Transition

/-!
# Frames pushed by several threads

Any number of threads call `pushFrame` on one session. Each looks the session
up, finds that it has clients, takes the lock of the media sources and holds
it while the source cuts the frame into packets. For each packet the send
callback locks the clients, and then calls `sendRtpPacket` on one connection
after the other, which queues a task in the loop of the connection, or
executes it at once on the thread of that loop.

The two locks are held for different times: between the packets of a frame,
and between two clients of a packet, the loops execute what is queued, clients
join and leave, and other threads come as far as the lock of the sources. For
a client that stays, the tasks are nevertheless those of the frames in the
order in which the calls took that lock, each frame complete before the next
(`inFrameOrder_of_run`).
-/

/-- What is fixed: the descriptor of a client, the loop of its connection, and
the loop that a thread runs, if any. -/
structure Places (ρ : Type) where
  descriptor : ρ → Fin (2 ^ 31)
  loopOf : ρ → ℕ
  threadLoop : ℕ → Option ℕ

/-- The key of a client in the map of the session. -/
def Places.fd {ρ : Type} (p : Places ρ) (r : ρ) : ℤ := ((p.descriptor r : ℕ) : ℤ)

/-- A task of a loop: one that `sendRtpPacket` queued for the callback of the
session, or another. -/
inductive LoopTask (ρ : Type) where
  | send (conn : ρ) (channelId : MediaChannelId) (pkt : RtpPacket)
  | other

/-- Where a thread is in `pushFrame`: the session is found; it has clients,
and the lock of the sources is wanted; the lock is held, with the packets
that the callback has still to be called for; and the callback is sending a
packet, with the connections it has still to send to. -/
inductive PushPhase (ρ : Type) where
  | idle
  | found (channelId : MediaChannelId) (frame : AVFrame)
  | waiting (channelId : MediaChannelId) (frame : AVFrame)
  | pushing (channelId : MediaChannelId) (pkts : List RtpPacket)
  | sending (channelId : MediaChannelId) (pkt : RtpPacket) (conns : List ρ)
      (pkts : List RtpPacket)

/-- A frame pushed under the lock, and its packets. -/
structure PushedFrame where
  channelId : MediaChannelId
  frame : AVFrame
  packets : List RtpPacket

/-- What a client is sent for a frame. -/
def PushedFrame.tasks (f : PushedFrame) : List (MediaChannelId × RtpPacket) :=
  f.packets.map (f.channelId, ·)

/-- The packets are those that `handleFrame` gives to the callback, all of
them. -/
def PushedFrame.IsComplete (mediaSources : MediaChannelId → Option MediaSource)
    (f : PushedFrame) : Prop :=
  ∃ now heap ret, MediaSession.handleFrame mediaSources now heap H264Source.collect f.channelId
    f.frame [] = .ok (ret, f.packets)

/-- A session with its connections, the threads that push frames, and the
loops. `locked` are the frames pushed, in the order in which the lock of the
sources was taken; `refused` are the frames for which no client was found. -/
structure Pushing (ρ : Type) where
  session : MediaSession ρ
  rtpConn : ρ → RtpConnection
  tcpConn : ρ → Option TcpPeer
  live : ρ → Bool
  mediaSourceMutex : Option ℕ := none
  threads : ℕ → PushPhase ρ := fun _ => .idle
  loops : ℕ → TaskQueue (LoopTask ρ) := fun _ => {}
  locked : List PushedFrame := []
  refused : List (MediaChannelId × AVFrame) := []

/-- What can happen next. -/
inductive PushEvent (ρ : Type) where
  | call (thread : ℕ) (channelId : MediaChannelId) (frame : AVFrame)
  | count (thread : ℕ)
  | lockSource (thread : ℕ)
  | lockClients (thread : ℕ)
  | send (thread : ℕ)
  | callbackReturns (thread : ℕ)
  | unlockSource (thread : ℕ)
  | join (r : ρ)
  | change
  | post (loop : ℕ)
  | swap (loop : ℕ)
  | run (loop : ℕ)

namespace Pushing

variable {ρ : Type}

def setPhase (s : Pushing ρ) (t : ℕ) (phase : PushPhase ρ) : Pushing ρ :=
  { s with threads := Function.update s.threads t phase }

def setLoop (s : Pushing ρ) (l : ℕ) (q : TaskQueue (LoopTask ρ)) : Pushing ρ :=
  { s with loops := Function.update s.loops l q }

def setRtpConn [DecidableEq ρ] (s : Pushing ρ) (r : ρ) (c : RtpConnection) : Pushing ρ :=
  { s with rtpConn := Function.update s.rtpConn r c }

def setSession (s : Pushing ρ) (session : MediaSession ρ) : Pushing ρ := { s with session := session }

/-- The locked part of the send callback. -/
def lockedClients (s : Pushing ρ) : List ρ × MediaSession ρ :=
  s.session.lockClients s.live fun r => (s.tcpConn r).isSome

/-- `sendRtpPacket` passes its tests. -/
def accepts (s : Pushing ρ) (r : ρ) : Bool := (s.rtpConn r).sendRtpPacket (s.tcpConn r)

end Pushing

open Pushing in
/-- **One step.** `change` stands for all that happens to connections apart
from the tasks: commands, and connections that are made or go away. -/
inductive PushStep {ρ : Type} [DecidableEq ρ] (p : Places ρ) :
    Pushing ρ → PushEvent ρ → Pushing ρ → Prop where
  | call {s : Pushing ρ} {t : ℕ} {ch : MediaChannelId} {frame : AVFrame}
      (hphase : s.threads t = .idle) :
      PushStep p s (.call t ch frame) (s.setPhase t (.found ch frame))
  | count {s : Pushing ρ} {t : ℕ} {ch : MediaChannelId} {frame : AVFrame}
      (hphase : s.threads t = .found ch frame) (hclients : s.session.getNumClient ≠ 0) :
      PushStep p s (.count t) (s.setPhase t (.waiting ch frame))
  | refuse {s : Pushing ρ} {t : ℕ} {ch : MediaChannelId} {frame : AVFrame}
      (hphase : s.threads t = .found ch frame) (hclients : s.session.getNumClient = 0) :
      PushStep p s (.count t)
        { s.setPhase t .idle with refused := s.refused ++ [(ch, frame)] }
  | lockSource {s : Pushing ρ} {t : ℕ} {ch : MediaChannelId} {frame : AVFrame} {now : UInt32}
      {heap : ℕ → Block 1600} {ret : Bool} {pkts : List RtpPacket}
      (hphase : s.threads t = .waiting ch frame) (hfree : s.mediaSourceMutex = none)
      (hpkts : MediaSession.handleFrame s.session.mediaSources now heap H264Source.collect ch
        frame [] = .ok (ret, pkts)) :
      PushStep p s (.lockSource t)
        { s.setPhase t (.pushing ch pkts) with
          mediaSourceMutex := some t
          locked := s.locked ++ [⟨ch, frame, pkts⟩] }
  | lockClients {s : Pushing ρ} {t : ℕ} {ch : MediaChannelId} {pkt : RtpPacket}
      {pkts : List RtpPacket} (hphase : s.threads t = .pushing ch (pkt :: pkts)) :
      PushStep p s (.lockClients t)
        ((s.setSession s.lockedClients.2).setPhase t (.sending ch pkt s.lockedClients.1 pkts))
  | sendQueued {s : Pushing ρ} {t : ℕ} {ch : MediaChannelId} {pkt : RtpPacket} {r : ρ}
      {conns : List ρ} {pkts : List RtpPacket}
      (hphase : s.threads t = .sending ch pkt (r :: conns) pkts) (haccepts : s.accepts r = true)
      (hloop : p.threadLoop t ≠ some (p.loopOf r)) :
      PushStep p s (.send t)
        ((s.setLoop (p.loopOf r) ((s.loops (p.loopOf r)).post (.send r ch pkt))).setPhase t
          (.sending ch pkt conns pkts))
  | sendDirect {s : Pushing ρ} {t : ℕ} {ch : MediaChannelId} {pkt : RtpPacket} {r : ρ}
      {conns : List ρ} {pkts : List RtpPacket} {sendtoFails : Bool} {c : RtpConnection}
      {out : List RtpConnection.Transmission}
      (hphase : s.threads t = .sending ch pkt (r :: conns) pkts) (haccepts : s.accepts r = true)
      (hloop : p.threadLoop t = some (p.loopOf r))
      (hrun : (s.rtpConn r).sendTask (s.tcpConn r) sendtoFails ch pkt = .ok (c, out)) :
      PushStep p s (.send t)
        (((s.setRtpConn r c).setLoop (p.loopOf r)
          ((s.loops (p.loopOf r)).direct (.send r ch pkt))).setPhase t
          (.sending ch pkt conns pkts))
  | sendRefused {s : Pushing ρ} {t : ℕ} {ch : MediaChannelId} {pkt : RtpPacket} {r : ρ}
      {conns : List ρ} {pkts : List RtpPacket}
      (hphase : s.threads t = .sending ch pkt (r :: conns) pkts) (haccepts : s.accepts r = false) :
      PushStep p s (.send t) (s.setPhase t (.sending ch pkt conns pkts))
  | callbackReturns {s : Pushing ρ} {t : ℕ} {ch : MediaChannelId} {pkt : RtpPacket}
      {pkts : List RtpPacket} (hphase : s.threads t = .sending ch pkt [] pkts) :
      PushStep p s (.callbackReturns t) (s.setPhase t (.pushing ch pkts))
  | unlockSource {s : Pushing ρ} {t : ℕ} {ch : MediaChannelId}
      (hphase : s.threads t = .pushing ch []) :
      PushStep p s (.unlockSource t) { s.setPhase t .idle with mediaSourceMutex := none }
  | join {s : Pushing ρ} {r : ρ} :
      PushStep p s (.join r) (s.setSession (s.session.addClient (p.fd r) r).2.1)
  | change {s : Pushing ρ} {rtpConn : ρ → RtpConnection} {tcpConn : ρ → Option TcpPeer}
      {live : ρ → Bool} :
      PushStep p s .change { s with rtpConn := rtpConn, tcpConn := tcpConn, live := live }
  | post {s : Pushing ρ} {l : ℕ} :
      PushStep p s (.post l) (s.setLoop l ((s.loops l).post .other))
  | swap {s : Pushing ρ} {l : ℕ} (hbatch : (s.loops l).batch = []) :
      PushStep p s (.swap l) (s.setLoop l (s.loops l).swap)
  | runSend {s : Pushing ρ} {l : ℕ} {r : ρ} {ch : MediaChannelId} {pkt : RtpPacket}
      {rest : List (LoopTask ρ)} {sendtoFails : Bool} {c : RtpConnection}
      {out : List RtpConnection.Transmission}
      (hbatch : (s.loops l).batch = .send r ch pkt :: rest)
      (hrun : (s.rtpConn r).sendTask (s.tcpConn r) sendtoFails ch pkt = .ok (c, out)) :
      PushStep p s (.run l)
        ((s.setRtpConn r c).setLoop l ((s.loops l).execute (.send r ch pkt) rest))
  | runOther {s : Pushing ρ} {l : ℕ} {rest : List (LoopTask ρ)}
      (hbatch : (s.loops l).batch = .other :: rest) :
      PushStep p s (.run l) (s.setLoop l ((s.loops l).execute .other rest))

/-- **Threads, loops and clients of a session**, from a state in which no
thread pushes and no task is queued, with any clients under their
descriptors. -/
def pushSystem {ρ : Type} [DecidableEq ρ] (p : Places ρ) :
    System (Pushing ρ) (PushEvent ρ) where
  init s := ∃ session rtpConn tcpConn live,
    s = { session := session, rtpConn := rtpConn, tcpConn := tcpConn, live := live } ∧
      ∀ fd r, session.clients.lookup fd = some r → fd = p.fd r
  step := PushStep p

/-! ## What a client is sent -/

section Sent

variable {ρ : Type} [DecidableEq ρ]

/-- What a task sends to `w`. -/
def LoopTask.sendsTo (w : ρ) : LoopTask ρ → Option (MediaChannelId × RtpPacket)
  | .send r channelId pkt => if r = w then some (channelId, pkt) else none
  | .other => none

theorem LoopTask.filterMap_send (w r : ρ) (channelId : MediaChannelId) (pkt : RtpPacket) :
    [LoopTask.send r channelId pkt].filterMap (LoopTask.sendsTo w)
      = if r = w then [(channelId, pkt)] else [] := by
  by_cases hr : r = w
  · rw [if_pos hr]
    exact List.filterMap_cons_some (if_pos hr)
  · rw [if_neg hr]
    exact List.filterMap_cons_none (if_neg hr)

/-- The thread holds the lock of the sources. -/
def PushPhase.hasLock : PushPhase ρ → Bool
  | .pushing .. | .sending .. => true
  | _ => false

/-- What the thread has still to send to `w` for its frame. -/
def PushPhase.toSend (w : ρ) : PushPhase ρ → List (MediaChannelId × RtpPacket)
  | .pushing channelId pkts => pkts.map (channelId, ·)
  | .sending channelId pkt conns pkts =>
    List.replicate (conns.count w) (channelId, pkt) ++ pkts.map (channelId, ·)
  | _ => []

namespace Pushing

/-- The session's tasks for `w` that were executed. -/
def executedFor (p : Places ρ) (w : ρ) (s : Pushing ρ) : List (MediaChannelId × RtpPacket) :=
  (s.loops (p.loopOf w)).executed.filterMap (LoopTask.sendsTo w)

/-- Those that the loop has still to execute. -/
def queuedFor (p : Places ρ) (w : ρ) (s : Pushing ρ) : List (MediaChannelId × RtpPacket) :=
  ((s.loops (p.loopOf w)).batch ++ (s.loops (p.loopOf w)).queue).filterMap (LoopTask.sendsTo w)

/-- What the frame being pushed has still to send to `w`. -/
def toSend (w : ρ) (s : Pushing ρ) : List (MediaChannelId × RtpPacket) :=
  s.mediaSourceMutex.elim [] fun t => (s.threads t).toSend w

/-- All tasks for `w`, executed or not. -/
def sentTo (p : Places ρ) (w : ρ) (s : Pushing ρ) : List (MediaChannelId × RtpPacket) :=
  (s.loops (p.loopOf w)).all.filterMap (LoopTask.sendsTo w)

/-- `w` is registered and alive, and was not torn down. These are what the
fan-out and `sendRtpPacket` look at; where one of them fails the packet is left
out, with no word to the thread that pushes. -/
structure Stays (p : Places ρ) (w : ρ) (s : Pushing ρ) : Prop where
  registered : s.session.clients.lookup (p.fd w) = some w
  live : s.live w = true
  tcpConn : (s.tcpConn w).isSome = true
  isClosed : (s.rtpConn w).isClosed = false

/-- The packets of the frames, frame by frame. -/
def frames (s : Pushing ρ) : List (MediaChannelId × RtpPacket) := s.locked.flatMap (·.tasks)

/-- **In frame order**: what was executed for `w` is the beginning of the
packets of the frames, and all of them when no frame is being pushed and no
task is left; what is not executed is queued, or it is the rest of the last
frame; each frame is there with all its packets; and no frame was refused. -/
structure InFrameOrder (p : Places ρ) (w : ρ) (s : Pushing ρ) : Prop where
  executed_prefix : s.executedFor p w <+: s.frames
  executed_eq : s.mediaSourceMutex = none → s.queuedFor p w = [] → s.executedFor p w = s.frames
  accounted : s.executedFor p w ++ s.queuedFor p w ++ s.toSend w = s.frames
  current : s.mediaSourceMutex ≠ none → ∃ done f, s.locked = done ++ [f] ∧ s.toSend w <:+ f.tasks
  complete : ∀ f ∈ s.locked, f.IsComplete s.session.mediaSources
  refused : s.refused = []

/-! ## The invariant -/

/-- Clients are under their descriptors; the thread that has the lock is the
one in the section it guards; and the tasks for `w` are the packets of the
frames, up to what the frame being pushed has still to send. -/
structure Inv (p : Places ρ) (w : ρ) (s : Pushing ρ) : Prop where
  key_eq : ∀ fd r, s.session.clients.lookup fd = some r → fd = p.fd r
  hasLock_iff : ∀ t, (s.threads t).hasLock = true ↔ s.mediaSourceMutex = some t
  accounted : s.sentTo p w ++ s.toSend w = s.frames
  current : s.mediaSourceMutex ≠ none → ∃ done f, s.locked = done ++ [f] ∧ s.toSend w <:+ f.tasks
  complete : ∀ f ∈ s.locked, f.IsComplete s.session.mediaSources
  refused : s.refused = []

variable {p : Places ρ} {w : ρ} {s s' : Pushing ρ}

theorem executedFor_append_queuedFor (p : Places ρ) (w : ρ) (s : Pushing ρ) :
    s.executedFor p w ++ s.queuedFor p w = s.sentTo p w := List.filterMap_append.symm

/-- What the invariant says of a state. -/
theorem Inv.inFrameOrder (h : s.Inv p w) : s.InFrameOrder p w := by
  have haccounted : s.executedFor p w ++ s.queuedFor p w ++ s.toSend w = s.frames := by
    rw [executedFor_append_queuedFor]
    exact h.accounted
  refine ⟨⟨s.queuedFor p w ++ s.toSend w, ?_⟩, fun hfree hqueued => ?_, haccounted, h.current,
    h.complete, h.refused⟩
  · rw [← List.append_assoc]
    exact haccounted
  · have hrest : s.toSend w = [] := by
      unfold toSend
      rw [hfree]
      rfl
    rw [← haccounted, hqueued, hrest, List.append_nil, List.append_nil]

theorem toSend_of_lock {t : ℕ} (h : s.mediaSourceMutex = some t) :
    s.toSend w = (s.threads t).toSend w := by
  unfold toSend
  rw [h]
  rfl

/-- **Steps that no pushing thread takes.** -/
theorem Inv.quiet (h : s.Inv p w) (hthreads : s'.threads = s.threads)
    (hmutex : s'.mediaSourceMutex = s.mediaSourceMutex) (hlocked : s'.locked = s.locked)
    (hrefused : s'.refused = s.refused)
    (hsources : s'.session.mediaSources = s.session.mediaSources)
    (hkeys : ∀ fd r, s'.session.clients.lookup fd = some r → fd = p.fd r)
    (hsent : s'.sentTo p w = s.sentTo p w) : s'.Inv p w := by
  have htoSend : s'.toSend w = s.toSend w := by
    unfold toSend
    rw [hthreads, hmutex]
  refine ⟨hkeys, ?_, ?_, ?_, ?_, hrefused.trans h.refused⟩
  · rw [hthreads, hmutex]
    exact h.hasLock_iff
  · unfold frames
    rw [hsent, htoSend, hlocked]
    exact h.accounted
  · rw [hmutex, hlocked, htoSend]
    exact h.current
  · rw [hlocked, hsources]
    exact h.complete

/-- **Steps of a thread outside the lock.** -/
theorem Inv.outside (h : s.Inv p w) {t : ℕ} {phase : PushPhase ρ}
    (hbefore : (s.threads t).hasLock = false) (hafter : phase.hasLock = false) :
    (s.setPhase t phase).Inv p w := by
  have hother : ∀ t', s.mediaSourceMutex = some t' → t' ≠ t := by
    rintro t' ht' rfl
    rw [(h.hasLock_iff t').mpr ht'] at hbefore
    cases hbefore
  have htoSend : (s.setPhase t phase).toSend w = s.toSend w := by
    unfold toSend setPhase
    cases hmutex : s.mediaSourceMutex with
    | none => rfl
    | some t' =>
      show PushPhase.toSend w (Function.update s.threads t phase t') = _
      rw [Function.update_of_ne (hother t' hmutex)]
      rfl
  refine ⟨h.key_eq, fun t' => ?_, ?_, ?_, h.complete, h.refused⟩
  · show (Function.update s.threads t phase t').hasLock = true ↔ _
    by_cases ht : t' = t
    · subst ht
      rw [Function.update_self, hafter]
      exact iff_of_false Bool.false_ne_true fun hmutex => hother t' hmutex rfl
    · rw [Function.update_of_ne ht]
      exact h.hasLock_iff t'
  · rw [htoSend]
    exact h.accounted
  · rw [htoSend]
    exact h.current

/-- **Steps of the thread that holds the lock**, up to its release: what it
sends to `w` it has no longer to send. -/
theorem Inv.inside (h : s.Inv p w) {t : ℕ} {phase : PushPhase ρ}
    (hbefore : (s.threads t).hasLock = true) (hafter : phase.hasLock = true)
    (hthreads : s'.threads = Function.update s.threads t phase)
    (hmutex : s'.mediaSourceMutex = s.mediaSourceMutex) (hlocked : s'.locked = s.locked)
    (hrefused : s'.refused = s.refused)
    (hsources : s'.session.mediaSources = s.session.mediaSources)
    (hkeys : ∀ fd r, s'.session.clients.lookup fd = some r → fd = p.fd r)
    {sent : List (MediaChannelId × RtpPacket)} (hsent : s'.sentTo p w = s.sentTo p w ++ sent)
    (hrest : (s.threads t).toSend w = sent ++ phase.toSend w) : s'.Inv p w := by
  have hlock : s.mediaSourceMutex = some t := (h.hasLock_iff t).mp hbefore
  have htoSend : s'.toSend w = phase.toSend w := by
    rw [toSend_of_lock (hmutex.trans hlock), hthreads, Function.update_self]
  have hsplit : s.toSend w = sent ++ s'.toSend w := by
    rw [toSend_of_lock hlock, hrest, htoSend]
  refine ⟨hkeys, fun t' => ?_, ?_, fun _ => ?_, ?_, hrefused.trans h.refused⟩
  · rw [hthreads, hmutex]
    by_cases ht : t' = t
    · subst ht
      rw [Function.update_self]
      exact iff_of_true hafter hlock
    · rw [Function.update_of_ne ht]
      exact h.hasLock_iff t'
  · unfold frames
    rw [hsent, hlocked, List.append_assoc, ← hsplit]
    exact h.accounted
  · obtain ⟨done, f, hlast, hsuffix⟩ := h.current (hlock ▸ Option.some_ne_none t)
    refine ⟨done, f, hlocked.trans hlast, ?_⟩
    rw [hsplit] at hsuffix
    exact (List.suffix_append ..).trans hsuffix
  · rw [hlocked, hsources]
    exact h.complete

/-! ## The steps -/

/-- What the first of the connections is sent, and the rest. -/
theorem toSend_cons (ch : MediaChannelId) (pkt : RtpPacket) (r : ρ) (conns : List ρ)
    (pkts : List RtpPacket) : (PushPhase.sending ch pkt (r :: conns) pkts).toSend w
      = (if r = w then [(ch, pkt)] else [])
        ++ (PushPhase.sending ch pkt conns pkts).toSend w := by
  unfold PushPhase.toSend
  dsimp only
  by_cases hr : r = w
  · subst hr
    rw [List.count_cons_self, if_pos rfl, List.replicate_succ]
    rfl
  · rw [List.count_cons_of_ne hr, if_neg hr]
    rfl

/-- The tasks for `w` after a loop has changed. -/
theorem sentTo_setLoop {l : ℕ} {q : TaskQueue (LoopTask ρ)}
    {sent : List (MediaChannelId × RtpPacket)}
    (hsame : l = p.loopOf w → q.all.filterMap (LoopTask.sendsTo w)
      = (s.loops l).all.filterMap (LoopTask.sendsTo w) ++ sent)
    (hother : l ≠ p.loopOf w → sent = []) :
    (s.setLoop l q).sentTo p w = s.sentTo p w ++ sent := by
  unfold sentTo setLoop
  dsimp only
  by_cases hl : l = p.loopOf w
  · subst hl
    rw [Function.update_self]
    exact hsame rfl
  · rw [Function.update_of_ne (Ne.symm hl), hother hl, List.append_nil]

/-- A loop that goes on with the same tasks. -/
theorem sentTo_setLoop_of_all {l : ℕ} {q : TaskQueue (LoopTask ρ)}
    (hall : q.all = (s.loops l).all) : (s.setLoop l q).sentTo p w = s.sentTo p w := by
  rw [← List.append_nil (s.sentTo p w)]
  refine sentTo_setLoop (fun _ => ?_) fun _ => rfl
  rw [hall, List.append_nil]

/-- Entering a client keeps the clients under their descriptors. -/
theorem Inv.key_eq_addClient (h : s.Inv p w) (r : ρ) (fd : ℤ) (r' : ρ)
    (hr' : (s.session.addClient (p.fd r) r).2.1.clients.lookup fd = some r') : fd = p.fd r' := by
  rw [MediaSession.lookup_addClient] at hr'
  by_cases hfd : fd = p.fd r
  · rw [if_pos hfd] at hr'
    cases hold : s.session.clients.lookup (p.fd r) with
    | none =>
      rw [hold] at hr'
      cases hr'
      exact hfd
    | some r'' =>
      rw [hold] at hr'
      cases hr'
      exact hfd.trans (h.key_eq _ _ hold)
  · rw [if_neg hfd] at hr'
    exact h.key_eq fd r' hr'

/-- So does locking the clients. -/
theorem Inv.key_eq_lockedClients (h : s.Inv p w) (fd : ℤ) (r : ρ)
    (hr : s.lockedClients.2.clients.lookup fd = some r) : fd = p.fd r := by
  unfold lockedClients at hr
  rw [MediaSession.lookup_lockClients] at hr
  exact h.key_eq fd r (Option.filter_eq_some_iff.mp hr).1

/-- **A client that stays is locked, and once**: it is in the map under its
own descriptor only. -/
theorem Inv.count_lockedClients (h : s.Inv p w) (hw : s.Stays p w) :
    s.lockedClients.1.count w = 1 := by
  have hmem : w ∈ s.lockedClients.1 :=
    MediaSession.mem_lockClients.mpr ⟨⟨p.fd w, hw.registered⟩, hw.live, hw.tcpConn⟩
  have hnodup : (s.lockedClients.1.map p.fd).Nodup := by
    refine MediaSession.nodup_lockClients fun fd fd' r r' hr hr' _ _ _ _ hsame => ?_
    rw [h.key_eq fd r hr, h.key_eq fd' r' hr', hsame]
  exact List.count_eq_one_of_mem (hnodup.of_map _) hmem

/-- A session with a client is not empty, and its clients are counted without
overflow: there is at most one for each descriptor. -/
theorem Inv.getNumClient_ne_zero (h : s.Inv p w) (hw : s.Stays p w) :
    s.session.getNumClient ≠ 0 := by
  have hentry := AList.mem_lookup_iff.mp hw.registered
  have hpos : 0 < s.session.clients.entries.length := List.length_pos_of_mem hentry
  have hkeys : s.session.clients.keys ⊆ (List.range (2 ^ 31)).map fun n : ℕ => (n : ℤ) := by
    intro fd hfd
    obtain ⟨r, hr⟩ := List.exists_of_mem_keys hfd
    rw [h.key_eq fd r (AList.mem_lookup_iff.mpr hr)]
    exact List.mem_map.mpr ⟨_, List.mem_range.mpr (p.descriptor r).isLt, rfl⟩
  have hle : s.session.clients.entries.length ≤ 2 ^ 31 := by
    have := (List.subperm_of_subset s.session.clients.keys_nodup hkeys).length_le
    rwa [List.length_map, List.length_range, AList.keys, List.keys, List.length_map] at this
  unfold MediaSession.getNumClient
  intro hzero
  have := congrArg UInt32.toNat hzero
  rw [UInt32.toNat_ofNat_of_lt' (show s.session.clients.entries.length < 2 ^ 32 by omega)] at this
  exact hpos.ne' this

/-- **What one call of `sendRtpPacket` does to the tasks for `w`.** -/
theorem Inv.send (h : s.Inv p w) {t : ℕ} {ch : MediaChannelId} {pkt : RtpPacket} {r : ρ}
    {conns : List ρ} {pkts : List RtpPacket}
    (hphase : s.threads t = .sending ch pkt (r :: conns) pkts)
    (hthreads : s'.threads = Function.update s.threads t (.sending ch pkt conns pkts))
    (hmutex : s'.mediaSourceMutex = s.mediaSourceMutex) (hlocked : s'.locked = s.locked)
    (hrefused : s'.refused = s.refused) (hsession : s'.session = s.session)
    (hsent : s'.sentTo p w = s.sentTo p w ++ if r = w then [(ch, pkt)] else []) : s'.Inv p w := by
  refine h.inside (by rw [hphase]; rfl) rfl hthreads hmutex hlocked hrefused (by rw [hsession])
    (by rw [hsession]; exact h.key_eq) hsent ?_
  rw [hphase]
  exact toSend_cons ch pkt r conns pkts

/-- **The lock is taken** for a frame: all of its packets are to be sent. -/
theorem Inv.lockSource (h : s.Inv p w) {t : ℕ} {f : PushedFrame} (hfree : s.mediaSourceMutex = none)
    (hcomplete : f.IsComplete s.session.mediaSources) :
    Inv p w { s.setPhase t (.pushing f.channelId f.packets) with
      mediaSourceMutex := some t
      locked := s.locked ++ [f] } := by
  have htoSend : s.toSend w = [] := by
    unfold toSend
    rw [hfree]
    rfl
  have htoSend' : Function.update s.threads t (.pushing f.channelId f.packets) t
      = .pushing f.channelId f.packets := Function.update_self ..
  have hnew : ∀ u, (some t : Option ℕ).elim [] (fun t' =>
      (Function.update s.threads t (.pushing f.channelId f.packets) t').toSend u) = f.tasks := by
    intro u
    rw [Option.elim_some, htoSend']
    rfl
  refine ⟨h.key_eq, fun t' => ?_, ?_, fun _ => ⟨s.locked, f, rfl, ?_⟩, ?_, h.refused⟩
  · show (Function.update s.threads t _ t').hasLock = true ↔ some t = some t'
    by_cases ht : t' = t
    · subst ht
      rw [htoSend']
      exact iff_of_true rfl rfl
    · rw [Function.update_of_ne ht, h.hasLock_iff, hfree]
      exact iff_of_false nofun fun heq => ht (Option.some.inj heq).symm
  · have hframes := h.accounted
    rw [htoSend, List.append_nil] at hframes
    unfold toSend frames
    show s.sentTo p w ++ (some t : Option ℕ).elim [] _ = (s.locked ++ [f]).flatMap (·.tasks)
    rw [List.flatMap_append, List.flatMap_singleton, ← frames, ← hframes]
    exact congrArg (s.sentTo p w ++ ·) (hnew w)
  · unfold toSend
    exact (hnew w).symm ▸ List.suffix_rfl
  · intro f' hf'
    rcases List.mem_append.mp hf' with hf' | hf'
    · exact h.complete f' hf'
    · rw [List.mem_singleton.mp hf']
      exact hcomplete

/-- **The lock is released** when every packet was passed to the callback. -/
theorem Inv.unlockSource (h : s.Inv p w) {t : ℕ} {ch : MediaChannelId}
    (hphase : s.threads t = .pushing ch []) :
    Inv p w { s.setPhase t .idle with mediaSourceMutex := none } := by
  have hlock : s.mediaSourceMutex = some t := (h.hasLock_iff t).mp (by rw [hphase]; rfl)
  have hrest : s.toSend w = [] := by
    rw [toSend_of_lock hlock, hphase]
    rfl
  refine ⟨h.key_eq, fun t' => ?_, ?_, fun hne => absurd rfl hne, h.complete, h.refused⟩
  · show (Function.update s.threads t .idle t').hasLock = true ↔ none = some t'
    by_cases ht : t' = t
    · subst ht
      rw [Function.update_self]
      exact iff_of_false Bool.false_ne_true nofun
    · rw [Function.update_of_ne ht, h.hasLock_iff, hlock]
      exact iff_of_false (fun heq => ht (Option.some.inj heq).symm) nofun
  · have hframes := h.accounted
    rw [hrest] at hframes
    exact hframes

/-- **One step keeps the order**, if the client stays and no thread that
pushes is the one of its loop. -/
theorem Inv.step (hthreads : ∀ t, p.threadLoop t ≠ some (p.loopOf w)) (hw : s.Stays p w)
    (h : s.Inv p w) {e : PushEvent ρ} (hs : PushStep p s e s') : s'.Inv p w := by
  cases hs with
  | call hphase => exact h.outside (by rw [hphase]; rfl) rfl
  | count hphase => exact h.outside (by rw [hphase]; rfl) rfl
  | refuse hphase hclients => exact absurd hclients (h.getNumClient_ne_zero hw)
  | lockSource hphase hfree hpkts =>
    exact h.lockSource (f := ⟨_, _, _⟩) hfree ⟨_, _, _, hpkts⟩
  | lockClients hphase =>
    refine h.inside (by rw [hphase]; rfl) rfl rfl rfl rfl rfl rfl h.key_eq_lockedClients
      (show _ = _ ++ [] from (List.append_nil _).symm) ?_
    rw [hphase]
    unfold PushPhase.toSend
    dsimp only
    rw [h.count_lockedClients hw]
    rfl
  | sendQueued hphase haccepts hloop =>
    refine h.send hphase rfl rfl rfl rfl rfl ?_
    refine sentTo_setLoop (s := s) (fun _ => ?_) fun hother => ?_
    · rw [TaskQueue.all_post, List.filterMap_append, LoopTask.filterMap_send]
    · exact if_neg fun hr => hother (congrArg p.loopOf hr)
  | sendDirect hphase haccepts hloop hrun =>
    refine h.send hphase rfl rfl rfl rfl rfl ?_
    refine sentTo_setLoop (s := s.setRtpConn _ _) (fun hl => ?_) fun hother => ?_
    · exact absurd (hl ▸ hloop) (hthreads _)
    · exact if_neg fun hr => hother (congrArg p.loopOf hr)
  | sendRefused hphase haccepts =>
    refine h.send hphase rfl rfl rfl rfl rfl ?_
    rw [if_neg, List.append_nil]
    · rfl
    · rintro rfl
      unfold accepts RtpConnection.sendRtpPacket at haccepts
      rw [hw.isClosed, hw.tcpConn] at haccepts
      cases haccepts
  | callbackReturns hphase =>
    refine h.inside (by rw [hphase]; rfl) rfl rfl rfl rfl rfl rfl h.key_eq
      (show _ = _ ++ [] from (List.append_nil _).symm) ?_
    rw [hphase]
    rfl
  | unlockSource hphase => exact h.unlockSource hphase
  | join =>
    refine h.quiet rfl rfl rfl rfl ?_ (h.key_eq_addClient _) rfl
    unfold setSession MediaSession.addClient
    split <;> rfl
  | change => exact h.quiet rfl rfl rfl rfl rfl h.key_eq rfl
  | post =>
    refine h.quiet rfl rfl rfl rfl rfl h.key_eq ?_
    rw [← List.append_nil (s.sentTo p w)]
    refine sentTo_setLoop (fun _ => ?_) fun _ => rfl
    rw [TaskQueue.all_post, List.filterMap_append]
    rfl
  | swap hbatch =>
    exact h.quiet rfl rfl rfl rfl rfl h.key_eq (sentTo_setLoop_of_all (TaskQueue.all_swap hbatch))
  | runSend hbatch hrun =>
    exact h.quiet rfl rfl rfl rfl rfl h.key_eq
      (sentTo_setLoop_of_all (s := s.setRtpConn _ _) (TaskQueue.all_execute hbatch))
  | runOther hbatch =>
    exact h.quiet rfl rfl rfl rfl rfl h.key_eq
      (sentTo_setLoop_of_all (TaskQueue.all_execute hbatch))

/-- **The frames of a session arrive in order and whole.** In every run of
any number of threads that push frames, none of them the thread of the loop
of `w`, the tasks for `w` are those of the frames in the order in which the
calls took the lock, while `w` stays. -/
theorem inFrameOrder_of_run (p : Places ρ) (w : ρ)
    (hthreads : ∀ t, p.threadLoop t ≠ some (p.loopOf w)) {es : List (PushEvent ρ)}
    {s : Pushing ρ} (hrun : ((pushSystem p).restrict fun s _ => s.Stays p w).Run es s) :
    s.InFrameOrder p w := by
  have hinv : s.Inv p w := by
    refine hrun.invariant ?_ ?_
    · rintro s ⟨session, rtpConn, tcpConn, live, rfl, hkeys⟩
      exact ⟨hkeys, fun t => iff_of_false Bool.false_ne_true nofun, rfl, fun hne => absurd rfl hne,
        List.forall_mem_nil _, rfl⟩
    · rintro s e s' h ⟨hw, hs⟩
      exact h.step hthreads hw hs
  exact hinv.inFrameOrder

end Pushing

end Sent

/-! ## Two threads -/

namespace Pushing

/-- One client, on loop 0; no thread that pushes runs a loop. -/
def onePlace : Places Unit := ⟨fun _ => 7, fun _ => 0, fun _ => none⟩

/-- A session with a source on channel 0 and the client, which has not sent
PLAY yet. -/
def oneClient : Pushing Unit where
  session :=
    { suffix := ascii "live"
      mediaSources := fun _ => some ⟨96, 90000, [], []⟩
      clients := (∅ : AList _).insert 7 () }
  rtpConn _ := RtpConnection.new RtpConnection.zeroed fun _ => 0
  tcpConn _ := some ⟨7, none⟩
  live _ := true

/-- A frame of one byte. -/
def oneByte (b : UInt8) : AVFrame := { buffer := [b], size := 1, timestamp := 90000 }

/-- The frame is one packet. -/
theorem handleFrame_oneByte (b : UInt8) : ∃ pkt,
    MediaSession.handleFrame oneClient.session.mediaSources 0 (fun _ => .filled 1600 0)
      H264Source.collect .channel0 (oneByte b) [] = .ok (true, [pkt]) := by
  obtain ⟨pkts, hpkts, hfeed⟩ := H264Source.handleFrame_eq_feed 0 (fun _ => .filled 1600 0)
    (oneByte b) rfl (by show 1 + 1 < 2 ^ 32; decide)
  have hrun : MediaSession.handleFrame oneClient.session.mediaSources 0
      (fun _ => .filled 1600 0) H264Source.collect .channel0 (oneByte b) [] = .ok (true, pkts) := by
    unfold MediaSession.handleFrame
    dsimp only [oneClient]
    rw [hfeed, H264Source.feed_collect]
    rfl
  cases hpkts with
  | single _ _ => exact ⟨_, hrun⟩
  | fragmented hsize _ _ =>
    have hlong : 1420 < 1 := hsize
    exact absurd hlong (by decide)

/-- A task of a connection that does not play sends nothing, and leaves it so. -/
theorem sendTask_silent {c : RtpConnection} (hplay : (c.mediaChannelInfo .channel0).isPlay = false)
    (hrecord : (c.mediaChannelInfo .channel0).isRecord = false) (tcpConn : Option TcpPeer)
    (pkt : RtpPacket) : ∃ c', c.sendTask tcpConn false .channel0 pkt = .ok (c', []) ∧
      c'.mediaChannelInfo = c.mediaChannelInfo ∧ c'.isClosed = c.isClosed := by
  rcases RtpConnection.prepare_cases c .channel0 pkt with ⟨hopen, -⟩ | ⟨-, h⟩
  · unfold RtpConnection.isSending at hopen
    rw [RtpConnection.setFrameType_mediaChannelInfo, hplay, hrecord] at hopen
    cases hopen
  · refine ⟨c.setFrameType pkt.type, ?_, RtpConnection.setFrameType_mediaChannelInfo c pkt.type, ?_⟩
    · unfold RtpConnection.sendTask
      rw [h]
    · obtain ⟨hasIDRFrame, heq⟩ := c.setFrameType_eq pkt.type
      rw [heq]

/-- `inFrameOrder_of_run` for two threads that push a frame each. Both are in the call
before one has the lock; the loop takes the first task while the second thread pushes, and
executes it in front of the second one. -/
theorem inFrameOrder_of_run_twoThreads : ∃ es s,
    ((pushSystem onePlace).restrict fun s _ => s.Stays onePlace ()).Run es s ∧
      s.InFrameOrder onePlace () ∧ s.locked.map (·.frame) = [oneByte 101, oneByte 65] ∧
      (s.executedFor onePlace ()).length = 2 := by
  obtain ⟨pkt₁, hpkt₁⟩ := handleFrame_oneByte 101
  obtain ⟨pkt₂, hpkt₂⟩ := handleFrame_oneByte 65
  have hclient : (oneClient.rtpConn ()).isClosed = false := rfl
  obtain ⟨c₁, htask₁, hinfo₁, hclosed₁⟩ :=
    @sendTask_silent (oneClient.rtpConn ()) rfl rfl (oneClient.tcpConn ()) pkt₁
  obtain ⟨c₂, htask₂, -, hclosed₂⟩ := @sendTask_silent c₁ (by rw [hinfo₁]; rfl)
    (by rw [hinfo₁]; rfl) (oneClient.tcpConn ()) pkt₂
  rw [hclient] at hclosed₁
  have hinit : ((pushSystem onePlace).restrict fun s _ => s.Stays onePlace ()).Run []
      oneClient := by
    refine .nil ⟨_, _, _, _, rfl, fun fd r h => ?_⟩
    have h : (⟨fd, r⟩ : Σ _ : ℤ, Unit) ∈ ([⟨7, ()⟩] : List (Σ _ : ℤ, Unit)) :=
      AList.mem_lookup_iff.mp h
    cases List.mem_singleton.mp h
    rfl
  -- the calls
  have hcall₁ := hinit.snoc_restrict (show PushStep _ _ (.call 1 .channel0 (oneByte 101)) _
    from .call rfl) ⟨rfl, rfl, rfl, rfl⟩
  have hcall₂ := hcall₁.snoc_restrict (show PushStep _ _ (.call 2 .channel0 (oneByte 65)) _
    from .call rfl) ⟨rfl, rfl, rfl, rfl⟩
  have hcount₁ := hcall₂.snoc_restrict (show PushStep _ _ (.count 1) _
    from .count rfl (by decide)) ⟨rfl, rfl, rfl, rfl⟩
  have hcount₂ := hcount₁.snoc_restrict (show PushStep _ _ (.count 2) _
    from .count rfl (by decide)) ⟨rfl, rfl, rfl, rfl⟩
  -- the first frame, up to the queue
  have hlock₁ := hcount₂.snoc_restrict (show PushStep _ _ (.lockSource 1) _
    from .lockSource rfl rfl hpkt₁) ⟨rfl, rfl, rfl, rfl⟩
  have hclients₁ := hlock₁.snoc_restrict (show PushStep _ _ (.lockClients 1) _
    from .lockClients rfl) ⟨rfl, rfl, rfl, rfl⟩
  have hsend₁ := hclients₁.snoc_restrict (show PushStep _ _ (.send 1) _
    from .sendQueued rfl rfl nofun) ⟨rfl, rfl, rfl, rfl⟩
  have hreturns₁ := hsend₁.snoc_restrict (show PushStep _ _ (.callbackReturns 1) _
    from .callbackReturns rfl) ⟨rfl, rfl, rfl, rfl⟩
  have hunlock₁ := hreturns₁.snoc_restrict (show PushStep _ _ (.unlockSource 1) _
    from .unlockSource rfl) ⟨rfl, rfl, rfl, rfl⟩
  -- the second frame, while the loop is at work
  have hlock₂ := hunlock₁.snoc_restrict (show PushStep _ _ (.lockSource 2) _
    from .lockSource rfl rfl hpkt₂) ⟨rfl, rfl, rfl, rfl⟩
  have hswap₁ := hlock₂.snoc_restrict (show PushStep _ _ (.swap 0) _
    from .swap rfl) ⟨rfl, rfl, rfl, rfl⟩
  have hclients₂ := hswap₁.snoc_restrict (show PushStep _ _ (.lockClients 2) _
    from .lockClients rfl) ⟨rfl, rfl, rfl, rfl⟩
  have hsend₂ := hclients₂.snoc_restrict (show PushStep _ _ (.send 2) _
    from .sendQueued rfl rfl nofun) ⟨rfl, rfl, rfl, rfl⟩
  have hrun₁ := hsend₂.snoc_restrict (show PushStep _ _ (.run 0) _
    from .runSend rfl htask₁) ⟨rfl, rfl, rfl, rfl⟩
  have hreturns₂ := hrun₁.snoc_restrict (show PushStep _ _ (.callbackReturns 2) _
    from .callbackReturns rfl) ⟨rfl, rfl, rfl, hclosed₁⟩
  have hunlock₂ := hreturns₂.snoc_restrict (show PushStep _ _ (.unlockSource 2) _
    from .unlockSource rfl) ⟨rfl, rfl, rfl, hclosed₁⟩
  have hswap₂ := hunlock₂.snoc_restrict (show PushStep _ _ (.swap 0) _
    from .swap rfl) ⟨rfl, rfl, rfl, hclosed₁⟩
  have hrun₂ := hswap₂.snoc_restrict (show PushStep _ _ (.run 0) _
    from .runSend rfl htask₂) ⟨rfl, rfl, rfl, hclosed₁⟩
  exact ⟨_, _, hrun₂, inFrameOrder_of_run onePlace () nofun hrun₂, rfl, rfl⟩

end Pushing
