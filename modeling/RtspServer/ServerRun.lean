import RtspServer.RtspConnection
import RtspServer.Transition

/-!
# The server at run time

Connections, media threads and the event loop on one set of sessions.

The loop accepts connections, handles requests and closes connections; it
also executes the tasks that media threads queue. A media thread that pushes
a packet runs the send callback of a session: it locks the client map and
takes a strong reference to each connection that is still there (`lock`),
calls `sendRtpPacket` on each (`send`), and drops its references (`drop`).
Between these steps anything else may happen.

An `RtpConnection` has two kinds of owners: the `RtspConnection` that created
it, and media threads that hold it for the time of a fan-out. It exists while
it has an owner (`Live`); a queued task only has its address.

A descriptor number is free again when the `TcpConnection` is gone, which is
no sooner than the `RtspConnection` was erased; a new connection may get any
number that is free.
-/

/-- The number that makes the name of a connection unique. -/
abbrev ConnName := ℕ

/-- A task queued by `sendRtpPacket`: the address of the `RtpConnection`, the
channel and the packet. -/
structure SendTask where
  ref : RtpRef
  channelId : MediaChannelId
  pkt : RtpPacket

/-- A media thread in the send callback of a session: what it sends, the
connections it holds, and those it has still to send to. -/
structure FanOut where
  channelId : MediaChannelId
  pkt : RtpPacket
  held : List RtpRef
  pending : List RtpRef

/-- The state of the server. `conns` is `_rtspConnMap`; `tcp` has the
descriptors of the `TcpConnection` objects; `tcpOf` says on which connection
an `RtpConnection` was created. The last field keeps a record: the sessions
whose most recent DESCRIBE on a connection was answered with 200. -/
structure ServerState where
  world : World
  conns : ConnName → Option RtspConnection := fun _ => none
  tcp : ConnName → Option ℤ := fun _ => none
  nextConn : ConnName := 0
  tcpOf : RtpRef → ConnName := fun _ => 0
  fanOuts : ℕ → Option FanOut := fun _ => none
  queue : List SendTask := []
  answered : ConnName → MediaSessionId → Prop := fun _ _ => False

/-- What can happen next. -/
inductive ServerEvent where
  | connect (fd : ℤ)
  | request (name : ConnName) (env : Env) (r : RtspRequest)
  | disconnect (name : ConnName)
  | closeTcp (name : ConnName)
  | lock (thread : ℕ) (sessionId : MediaSessionId) (channelId : MediaChannelId) (pkt : RtpPacket)
  | send (thread : ℕ)
  | drop (thread : ℕ)
  | runTask (sendtoFails : Bool) (peerName : Option SockAddr)

namespace ServerState

/-- An `RtspConnection` owns the `RtpConnection`. -/
def OwnedBy (s : ServerState) (name : ConnName) (ref : RtpRef) : Prop :=
  ∃ c, s.conns name = some c ∧ c.rtpConnPtr = some ref

/-- A media thread holds the `RtpConnection`. -/
def HeldBy (s : ServerState) (thread : ℕ) (ref : RtpRef) : Prop :=
  ∃ f, s.fanOuts thread = some f ∧ ref ∈ f.held

/-- **An `RtpConnection` exists while something owns it**: its `RtspConnection`, or
a media thread between the lock of the clients and the end of its fan-out. The
entries of a session do not count, for they have a `weak_ptr`. -/
def Live (s : ServerState) (ref : RtpRef) : Prop :=
  (∃ name, s.OwnedBy name ref) ∨ ∃ thread, s.HeldBy thread ref

/-- `_tcpConn.lock()` of an `RtpConnection`. -/
def lockTcp (s : ServerState) (ref : RtpRef) (peerName : Option SockAddr) : Option TcpPeer :=
  (s.tcp (s.tcpOf ref)).map fun fd => ⟨fd, peerName⟩

/-- The status line of a success. -/
def IsOkResponse (message : Bytes) : Prop := ascii "RTSP/1.0 200" <+: message

/-- The record of answered DESCRIBEs after a request was handled. -/
def answeredAfter (s : ServerState) (name : ConnName) (r : RtspRequest) (x : Serving) :
    ConnName → MediaSessionId → Prop := fun name' id =>
  if name' = name ∧ r.method = .describe ∧
      (s.world.rtsp.lookMediaSessionBySuffix r.getRtspUrlSuffix).1.map (·.1) = some id then
    ∃ message, x.sent = [message] ∧ IsOkResponse message
  else s.answered name' id

/-- The state after a connection was accepted. -/
def afterConnect (s : ServerState) (fd : ℤ) : ServerState :=
  { s with
    conns := Function.update s.conns s.nextConn (some { tcpConn := { fd := fd } })
    tcp := Function.update s.tcp s.nextConn (some fd)
    nextConn := s.nextConn + 1 }

/-- The state after a request was handled on a connection. -/
def afterRequest (s : ServerState) (name : ConnName) (r : RtspRequest) (x : Serving) :
    ServerState :=
  { s with
    world := x.world
    conns := Function.update s.conns name (some x.conn)
    tcpOf := if x.world.nextRef = s.world.nextRef then s.tcpOf
      else Function.update s.tcpOf s.world.nextRef name
    answered := s.answeredAfter name r x }

/-- The state after a media thread locked the clients of a session. -/
def afterLock (s : ServerState) (thread : ℕ) (id : MediaSessionId) (ch : MediaChannelId)
    (pkt : RtpPacket) (session : MediaSession RtpRef) (live : RtpRef → Bool) : ServerState :=
  let locked := session.lockClients live fun ref => (s.tcp (s.tcpOf ref)).isSome
  { s with
    world := { s.world with rtsp := s.world.rtsp.setMediaSession id locked.2 }
    fanOuts := Function.update s.fanOuts thread (some ⟨ch, pkt, locked.1, locked.1⟩) }

/-- The state after a media thread called `sendRtpPacket` on the next of the
connections it holds. -/
def afterSend (s : ServerState) (thread : ℕ) (f : FanOut) (ref : RtpRef) (rest : List RtpRef) :
    ServerState :=
  { s with
    fanOuts := Function.update s.fanOuts thread (some { f with pending := rest })
    queue := if (s.world.rtpConn ref).sendRtpPacket (s.lockTcp ref none) then
      s.queue ++ [⟨ref, f.channelId, f.pkt⟩] else s.queue }

end ServerState

open ServerState in
/-- **One step of the server.** A connection is accepted, sends a request, or goes
away in two steps: first its `RtspConnection`, then the `TcpConnection`, to which
tasks and closures may hold on. A media thread locks the clients of a session,
sends to them one after the other, and then drops what it held; and the loop runs
the task that is first in its queue. -/
inductive ServerStep : ServerState → ServerEvent → ServerState → Prop where
  | connect {s : ServerState} {fd : ℤ} (hfree : ∀ name, s.tcp name ≠ some fd) :
      ServerStep s (.connect fd) (s.afterConnect fd)
  | request {s : ServerState} {name : ConnName} {env : Env} {r : RtspRequest}
      {c : RtspConnection} {x : Serving} (hconn : s.conns name = some c)
      (hx : Serving.handleCmd env r { conn := c, world := s.world } = .ok x) :
      ServerStep s (.request name env r) (s.afterRequest name r x)
  | disconnect {s : ServerState} {name : ConnName} {c : RtspConnection}
      (hconn : s.conns name = some c) :
      ServerStep s (.disconnect name) { s with conns := Function.update s.conns name none }
  | closeTcp {s : ServerState} {name : ConnName} (hconn : s.conns name = none) :
      ServerStep s (.closeTcp name) { s with tcp := Function.update s.tcp name none }
  | lock {s : ServerState} {thread : ℕ} {id : MediaSessionId} {ch : MediaChannelId}
      {pkt : RtpPacket} {session : MediaSession RtpRef} {live : RtpRef → Bool}
      (hidle : s.fanOuts thread = none) (hsession : s.world.rtsp.lookMediaSession id = some session)
      (hlive : ∀ ref, live ref = true ↔ s.Live ref) :
      ServerStep s (.lock thread id ch pkt) (s.afterLock thread id ch pkt session live)
  | send {s : ServerState} {thread : ℕ} {f : FanOut} {ref : RtpRef} {rest : List RtpRef}
      (hfan : s.fanOuts thread = some f) (hpending : f.pending = ref :: rest) :
      ServerStep s (.send thread) (s.afterSend thread f ref rest)
  | drop {s : ServerState} {thread : ℕ} {f : FanOut} (hfan : s.fanOuts thread = some f)
      (hdone : f.pending = []) :
      ServerStep s (.drop thread) { s with fanOuts := Function.update s.fanOuts thread none }
  | runTask {s : ServerState} {sendtoFails : Bool} {peerName : Option SockAddr} {t : SendTask}
      {rest : List SendTask} {c : RtpConnection} {out : List RtpConnection.Transmission}
      (hqueue : s.queue = t :: rest)
      (hrun : (s.world.rtpConn t.ref).sendTask (s.lockTcp t.ref peerName) sendtoFails
        t.channelId t.pkt = .ok (c, out)) :
      ServerStep s (.runTask sendtoFails peerName)
        { s with queue := rest, world := s.world.setRtpConn t.ref c }

/-- **The server from its start**, with sessions that have no clients. -/
def serverSystem : System ServerState ServerEvent where
  init s := ∃ world : World, s = { world := world } ∧
    ∀ id session, world.rtsp.lookMediaSession id = some session → session.clients = ∅
  step := ServerStep

namespace ServerState

/-! ## What every state of a run satisfies -/

/-- What is left after an erasure was there before. -/
theorem of_update_none {ι α : Type} [DecidableEq ι] {f : ι → Option α} {i j : ι} {a : α}
    (h : Function.update f i none j = some a) : f j = some a := by
  by_cases hj : j = i
  · rw [hj, Function.update_self] at h
    cases h
  · rwa [Function.update_of_ne hj] at h

/-- **Who has what.** A connection's descriptor is that of its
`TcpConnection`, no two of which share one; names and references are fresh
when they are given; and no two connections own one `RtpConnection`. All of it
is kept by every step, so that the results about some runs have it for nothing. -/
structure WellFormed (s : ServerState) : Prop where
  tcp_of_conn : ∀ {name c}, s.conns name = some c → s.tcp name = some c.tcpConn.fd
  tcp_inj : ∀ {name name' fd}, s.tcp name = some fd → s.tcp name' = some fd → name = name'
  tcp_lt : ∀ {name fd}, s.tcp name = some fd → name < s.nextConn
  ref_lt : ∀ {name ref}, s.OwnedBy name ref → ref < s.world.nextRef
  ref_inj : ∀ {name name' ref}, s.OwnedBy name ref → s.OwnedBy name' ref → name = name'
  answered_lt : ∀ {name id}, s.answered name id → name < s.nextConn

/-- Two open connections have different descriptors. -/
theorem WellFormed.fd_ne {s : ServerState} (hs : s.WellFormed) {name name' : ConnName}
    {c c' : RtspConnection} (h : s.conns name = some c) (h' : s.conns name' = some c')
    (hne : name ≠ name') : c.tcpConn.fd ≠ c'.tcpConn.fd := by
  intro hfd
  have htcp' := hs.tcp_of_conn h'
  rw [← hfd] at htcp'
  exact hne (hs.tcp_inj (hs.tcp_of_conn h) htcp')

/-- What a request does to the connection it came on: its descriptor stays,
and so does its `RtpConnection` if it has one; one it gets is new. -/
theorem handleCmd_conn {env : Env} {r : RtspRequest} {x x' : Serving}
    (h : x.handleCmd env r = .ok x') :
    x'.conn.tcpConn.fd = x.conn.tcpConn.fd ∧ x.world.nextRef ≤ x'.world.nextRef ∧
    ((x'.conn.rtpConnPtr = x.conn.rtpConnPtr ∧ x'.world.nextRef = x.world.nextRef) ∨
      (x.conn.rtpConnPtr = none ∧ x'.conn.rtpConnPtr = some x.world.nextRef ∧
        x'.world.nextRef = x.world.nextRef + 1)) := by
  by_cases hr : r.method = .describe
  · have hx : x' = x.handleCmdDescribe env r := Serving.eq_handleCmdDescribe h hr
    obtain ⟨hptr, htcp⟩ := Serving.handleCmdDescribe_conn env r x
    have hnext : (x.handleCmdDescribe env r).world.nextRef
        = if x.conn.rtpConnPtr = none then x.world.nextRef + 1 else x.world.nextRef := by
      cases hl : (x.world.rtsp.lookMediaSessionBySuffix r.getRtspUrlSuffix).1 with
      | none =>
        rw [(Serving.handleCmdDescribe_notFound env hl).2.2]
        exact (Serving.createRtpConn_spec env x).2.2.2.1
      | some found =>
        rw [(Serving.handleCmdDescribe_found env hl).2.2]
        exact (Serving.createRtpConn_spec env x).2.2.2.1
    rw [hx, hptr, htcp, hnext]
    unfold Serving.describedRef
    cases hold : x.conn.rtpConnPtr with
    | none => exact ⟨rfl, Nat.le_succ _, .inr ⟨rfl, rfl, rfl⟩⟩
    | some ref => exact ⟨rfl, le_refl _, .inl ⟨rfl, rfl⟩⟩
  · have hsame := Serving.sameOwner_handleCmd h hr
    refine ⟨by rw [hsame.tcpConn], hsame.nextRef.ge, .inl ⟨hsame.rtpConnPtr, hsame.nextRef⟩⟩

/-- The invariant speaks of connections, descriptors and names only. -/
theorem WellFormed.congr {s s' : ServerState} (hs : s.WellFormed) (hconns : s'.conns = s.conns)
    (htcp : s'.tcp = s.tcp) (hnext : s'.nextConn = s.nextConn)
    (href : s'.world.nextRef = s.world.nextRef) (hans : s'.answered = s.answered) :
    s'.WellFormed := by
  have howned : ∀ {name ref}, s'.OwnedBy name ref → s.OwnedBy name ref := by
    rintro name ref ⟨c, hc, hptr⟩
    exact ⟨c, by rw [← hconns]; exact hc, hptr⟩
  constructor
  · intro name c h
    rw [htcp]
    exact hs.tcp_of_conn (by rw [← hconns]; exact h)
  · intro name name' fd h h'
    rw [htcp] at h h'
    exact hs.tcp_inj h h'
  · intro name fd h
    rw [hnext]
    exact hs.tcp_lt (by rw [← htcp]; exact h)
  · intro name ref h
    rw [href]
    exact hs.ref_lt (howned h)
  · intro name name' ref h h'
    exact hs.ref_inj (howned h) (howned h')
  · intro name id h
    rw [hnext]
    exact hs.answered_lt (by rw [← hans]; exact h)

theorem WellFormed.connect {s : ServerState} (hs : s.WellFormed) {fd : ℤ}
    (hfree : ∀ name, s.tcp name ≠ some fd) : (s.afterConnect fd).WellFormed := by
  have hconns : ∀ name, (s.afterConnect fd).conns name
      = if name = s.nextConn then some { tcpConn := { fd := fd } } else s.conns name :=
    fun name => Function.update_apply ..
  have htcp : ∀ name, (s.afterConnect fd).tcp name
      = if name = s.nextConn then some fd else s.tcp name := fun name => Function.update_apply ..
  -- the new connection owns nothing, so what is owned was owned before
  have howned : ∀ {name ref}, (s.afterConnect fd).OwnedBy name ref → s.OwnedBy name ref := by
    rintro name ref ⟨c, hc, hptr⟩
    rw [hconns] at hc
    by_cases hname : name = s.nextConn
    · rw [if_pos hname, Option.some.injEq] at hc
      subst hc
      cases hptr
    · rw [if_neg hname] at hc
      exact ⟨c, hc, hptr⟩
  constructor
  · intro name c hc
    rw [hconns] at hc
    rw [htcp]
    by_cases hname : name = s.nextConn
    · rw [if_pos hname, Option.some.injEq] at hc
      rw [if_pos hname, ← hc]
    · rw [if_neg hname] at hc ⊢
      exact hs.tcp_of_conn hc
  · intro name name' fd' h h'
    rw [htcp] at h h'
    by_cases hname : name = s.nextConn <;> by_cases hname' : name' = s.nextConn
    · rw [hname, hname']
    · rw [if_pos hname] at h
      rw [if_neg hname', ← h] at h'
      exact absurd h' (hfree name')
    · rw [if_pos hname'] at h'
      rw [if_neg hname, ← h'] at h
      exact absurd h (hfree name)
    · rw [if_neg hname] at h
      rw [if_neg hname'] at h'
      exact hs.tcp_inj h h'
  · intro name fd' h
    rw [htcp] at h
    show name < s.nextConn + 1
    by_cases hname : name = s.nextConn
    · exact hname ▸ Nat.lt_succ_self _
    · rw [if_neg hname] at h
      exact Nat.lt_succ_of_lt (hs.tcp_lt h)
  · intro name ref h
    exact hs.ref_lt (howned h)
  · intro name name' ref h h'
    exact hs.ref_inj (howned h) (howned h')
  · intro name id h
    exact Nat.lt_succ_of_lt (hs.answered_lt h)

theorem WellFormed.request {s : ServerState} (hs : s.WellFormed) {name : ConnName} {env : Env}
    {r : RtspRequest} {c : RtspConnection} {x : Serving} (hconn : s.conns name = some c)
    (hx : Serving.handleCmd env r { conn := c, world := s.world } = .ok x) :
    (s.afterRequest name r x).WellFormed := by
  obtain ⟨hfd, hnext, hptr⟩ := handleCmd_conn hx
  dsimp only at hfd hnext hptr
  have hconns : ∀ name', (s.afterRequest name r x).conns name'
      = if name' = name then some x.conn else s.conns name' := fun name' =>
    Function.update_apply ..
  -- what is owned was owned before, or is the new object of this connection
  have howned : ∀ {name' ref}, (s.afterRequest name r x).OwnedBy name' ref →
      s.OwnedBy name' ref ∨ (name' = name ∧ ref = s.world.nextRef ∧
        x.world.nextRef = s.world.nextRef + 1) := by
    rintro name' ref ⟨c', hc', hptr'⟩
    rw [hconns] at hc'
    by_cases hname : name' = name
    · rw [if_pos hname, Option.some.injEq] at hc'
      subst hname hc'
      rcases hptr with ⟨hold, -⟩ | ⟨-, hnew, hcount⟩
      · exact .inl ⟨c, hconn, hold.symm.trans hptr'⟩
      · rw [hnew, Option.some.injEq] at hptr'
        exact .inr ⟨rfl, hptr'.symm, hcount⟩
    · rw [if_neg hname] at hc'
      exact .inl ⟨c', hc', hptr'⟩
  constructor
  · intro name' c' hc'
    show s.tcp name' = _
    rw [hconns] at hc'
    by_cases hname : name' = name
    · rw [if_pos hname, Option.some.injEq] at hc'
      subst hname hc'
      rw [hfd]
      exact hs.tcp_of_conn hconn
    · rw [if_neg hname] at hc'
      exact hs.tcp_of_conn hc'
  · exact hs.tcp_inj
  · exact hs.tcp_lt
  · intro name' ref h
    show ref < x.world.nextRef
    rcases howned h with hold | ⟨-, rfl, hcount⟩
    · exact lt_of_lt_of_le (hs.ref_lt hold) hnext
    · rw [hcount]
      exact Nat.lt_succ_self _
  · intro name' name'' ref h h'
    rcases howned h with hold | ⟨rfl, rfl, -⟩
    · rcases howned h' with hold' | ⟨rfl, rfl, -⟩
      · exact hs.ref_inj hold hold'
      · exact absurd (hs.ref_lt hold) (lt_irrefl _)
    · rcases howned h' with hold' | ⟨rfl, -, -⟩
      · exact absurd (hs.ref_lt hold') (lt_irrefl _)
      · rfl
  · intro name' id h
    show name' < s.nextConn
    have hans : s.answeredAfter name r x name' id := h
    unfold answeredAfter at hans
    split at hans
    · rename_i hmatch
      rw [hmatch.1]
      exact hs.tcp_lt (hs.tcp_of_conn hconn)
    · exact hs.answered_lt hans

/-- Erasing a connection leaves less to say. -/
theorem WellFormed.disconnect {s : ServerState} (hs : s.WellFormed) (name : ConnName) :
    WellFormed { s with conns := Function.update s.conns name none } := by
  constructor
  · intro name' c h
    exact hs.tcp_of_conn (of_update_none h)
  · exact hs.tcp_inj
  · exact hs.tcp_lt
  · rintro name' ref ⟨c, hc, hptr⟩
    exact hs.ref_lt ⟨c, of_update_none hc, hptr⟩
  · rintro name' name'' ref ⟨c, hc, hptr⟩ ⟨c', hc', hptr'⟩
    exact hs.ref_inj ⟨c, of_update_none hc, hptr⟩ ⟨c', of_update_none hc', hptr'⟩
  · exact hs.answered_lt

theorem WellFormed.closeTcp {s : ServerState} (hs : s.WellFormed) {name : ConnName}
    (hconn : s.conns name = none) :
    WellFormed { s with tcp := Function.update s.tcp name none } := by
  constructor
  · intro name' c h
    show Function.update s.tcp name none name' = _
    have hname : name' ≠ name := by
      rintro rfl
      rw [show s.conns name' = some c from h] at hconn
      cases hconn
    rw [Function.update_of_ne hname]
    exact hs.tcp_of_conn h
  · intro name' name'' fd h h'
    exact hs.tcp_inj (of_update_none h) (of_update_none h')
  · intro name' fd h
    exact hs.tcp_lt (of_update_none h)
  · exact hs.ref_lt
  · exact hs.ref_inj
  · exact hs.answered_lt

/-- **Every step keeps the invariant.** -/
theorem WellFormed.step {s s' : ServerState} {e : ServerEvent} (hs : s.WellFormed)
    (h : ServerStep s e s') : s'.WellFormed := by
  cases h with
  | connect hfree => exact hs.connect hfree
  | request hconn hx => exact hs.request hconn hx
  | disconnect hconn => exact hs.disconnect _
  | closeTcp hconn => exact hs.closeTcp hconn
  | lock hidle hsession hlive => exact hs.congr rfl rfl rfl rfl rfl
  | send hfan hpending => exact hs.congr rfl rfl rfl rfl rfl
  | drop hfan hdone => exact hs.congr rfl rfl rfl rfl rfl
  | runTask hqueue hrun => exact hs.congr rfl rfl rfl rfl rfl

theorem wellFormed_init {s : ServerState} (h : serverSystem.init s) : s.WellFormed := by
  obtain ⟨world, rfl, -⟩ := h
  constructor
  · intro name c h; cases h
  · intro name name' fd h; cases h
  · intro name fd h; cases h
  · rintro name ref ⟨c, hc, -⟩; cases hc
  · rintro name name' ref ⟨c, hc, -⟩; cases hc
  · intro name id h; cases h

/-! ## A client that describes a session -/

/-- A session under the suffix `live`, whose SDP has been made. -/
def liveSession : MediaSession RtpRef where
  sessionId := 2
  suffix := ascii "live"
  sdp := ascii "v=0"

/-- A server with that session. -/
def liveWorld : World where
  rtsp := (({} : Rtsp RtpRef).addMediaSession liveSession).2
  rtpConn _ := RtpConnection.zeroed

/-- A parsed DESCRIBE of that session. -/
def describeLive : RtspRequest where
  method := .describe
  channelId := .channel0
  transport := .rtpOverTcp
  requestLineParam
    | .url => some (ascii "rtsp://10.0.0.1/live", 0)
    | .urlIp => some (ascii "10.0.0.1", 0)
    | .urlPort => some ([], 554)
    | .urlSuffix => some (ascii "live", 0)
    | .version => some (ascii "RTSP/1.0", 0)
    | .method => some (ascii "DESCRIBE", 0)
  headerLineParam
    | .cseq => some ([], 1)
    | _ => none
  state := .gotAll

/-- What a DESCRIBE on a connection leads to. -/
def describing (s : ServerState) (name : ConnName) (c : RtspConnection) : ServerState :=
  s.afterRequest name describeLive
    (Serving.handleCmdDescribe .quiet describeLive { conn := c, world := s.world })

/-- The connection the server makes for a client on descriptor 7. -/
def onSeven : RtspConnection := { tcpConn := { fd := 7 } }

/-- A client on descriptor 7 that described the session. -/
def firstClient : ServerState :=
  (({ world := liveWorld } : ServerState).afterConnect 7).describing 0 onSeven

theorem liveWorld_clients (id : MediaSessionId) (session : MediaSession RtpRef)
    (h : liveWorld.rtsp.lookMediaSession id = some session) : session.clients = ∅ := by
  have hinsert : liveWorld.rtsp
      = ({ rtspSuffixMap := liveWorld.rtsp.rtspSuffixMap } : Rtsp RtpRef).setMediaSession 2
        liveSession := rfl
  rw [hinsert, Rtsp.lookMediaSession_setMediaSession] at h
  split at h
  · cases h; rfl
  · cases h

theorem step_firstClient :
    ServerStep (({ world := liveWorld } : ServerState).afterConnect 7)
      (.request 0 .quiet describeLive) firstClient :=
  .request rfl rfl

/-- The connection of the client that described the session. -/
def describedOnSeven : RtspConnection :=
  { tcpConn := { fd := 7 }, sessionId := 2, rtpConnPtr := some 0 }

theorem firstClient_conns {name : ConnName} (h : name ≠ 0) : firstClient.conns name = none :=
  (Function.update_of_ne h ..).trans (Function.update_of_ne h ..)

/-- What exists when there is one connection and no thread at work: the object of this
connection. -/
theorem live_iff_of_single {s : ServerState} {c : RtspConnection} (hc : s.conns 0 = some c)
    (hptr : c.rtpConnPtr = some 0) (hother : ∀ name ≠ 0, s.conns name = none)
    (hidle : ∀ thread, s.fanOuts thread = none) (ref : RtpRef) :
    (ref == 0) = true ↔ s.Live ref := by
  rw [beq_iff_eq]
  constructor
  · rintro rfl
    exact .inl ⟨0, c, hc, hptr⟩
  · rintro (⟨name, c', hc', hptr'⟩ | ⟨thread, f, hf, -⟩)
    · by_cases hname : name = 0
      · rw [hname, hc, Option.some.injEq] at hc'
        rw [← hc', hptr, Option.some.injEq] at hptr'
        exact hptr'.symm
      · rw [hother name hname] at hc'
        cases hc'
    · rw [hidle] at hf
      cases hf

/-- **A run to that state**, all of whose steps meet a condition if these two
do. -/
theorem run_firstClient (good : ServerState → ServerEvent → Prop)
    (hconnect : good { world := liveWorld } (.connect 7))
    (hrequest : good (({ world := liveWorld } : ServerState).afterConnect 7)
      (.request 0 .quiet describeLive)) :
    (serverSystem.restrict good).Run [.connect 7, .request 0 .quiet describeLive]
      firstClient := by
  have hstart : (serverSystem.restrict good).Run [] { world := liveWorld } :=
    .nil ⟨liveWorld, rfl, liveWorld_clients⟩
  have hopen : (serverSystem.restrict good).Run [.connect 7]
      (({ world := liveWorld } : ServerState).afterConnect 7) :=
    hstart.snoc ⟨hconnect, .connect fun _ h => by cases h⟩
  exact hopen.snoc ⟨hrequest, step_firstClient⟩

end ServerState
