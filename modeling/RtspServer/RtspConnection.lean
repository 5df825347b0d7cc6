import RtspServer.Rtsp
import RtspServer.RtpConnection
import RtspServer.RtspReader

/-!
# `RtspConnection`: handling commands

An `RtspConnection` owns the `RtpConnection` of its client: `_rtpConnPtr` is
null until the first DESCRIBE creates it. `RtpConnection` objects live in the
`World`, by reference; who owns an object decides elsewhere whether it still
exists. A handler that reads a member through a null `_rtpConnPtr` ends in
`Fault.nullPointer`.

The request object is the handler's argument. What the operating system
contributes to a request is an `Env`: the random numbers and the memory a new
`RtpConnection` starts from, the sockets and the peer name of a UDP set-up,
the local address and the time for the SDP, and the addresses of objects,
which the code prints as session numbers.

The mode `RTSP_PUSHER` is never set, and its code is left out.
-/

/-- A reference to an `RtpConnection` object. -/
abbrev RtpRef := ℕ

/-- What a handler can reach: the session tables, and the objects created so
far with the reference of the next one. -/
structure World where
  rtsp : Rtsp RtpRef
  rtpConn : RtpRef → RtpConnection
  nextRef : RtpRef := 0

namespace World

/-- Writing an object back. -/
def setRtpConn (w : World) (ref : RtpRef) (c : RtpConnection) : World :=
  { w with rtpConn := Function.update w.rtpConn ref c }

end World

/-- The part of a `TcpConnection` that an `RtspConnection` uses. `connected`
is `state_ == kConnected`. -/
structure TcpConnection where
  fd : ℤ
  connected : Bool := true
deriving DecidableEq

/-- `RtspConnection::ConnectionState`. -/
inductive ConnectionState where
  | startConnect
  | startPlay
  | startPush
deriving DecidableEq, Repr

/-- The fields of `class RtspConnection`, without the request object. -/
structure RtspConnection where
  tcpConn : TcpConnection
  connState : ConnectionState := .startConnect
  sessionId : MediaSessionId := 0
  rtpConnPtr : Option RtpRef := none
deriving DecidableEq

/-- What the operating system contributes to one request. -/
structure Env where
  garbage : RtpConnection
  rd : ℕ → UInt32
  attempts : Fin 10 → UdpAttempt
  peerName : Option SockAddr
  localIp : Bytes
  time : ℕ
  address : RtpRef → UInt64

/-- A system on which nothing special happens. -/
def Env.quiet : Env where
  garbage := RtpConnection.zeroed
  rd _ := 0
  attempts _ := ⟨0, -1, false, -1, false⟩
  peerName := none
  localIp := ascii "0.0.0.0"
  time := 0
  address _ := 0

/-- A connection in its world, and the messages given to
`TcpConnection::send` that it took. -/
structure Serving where
  conn : RtspConnection
  world : World
  sent : List Bytes := []

namespace Serving

/-- `sendMessage`: `TcpConnection::send` takes a message while the connection
is up. -/
def sendMessage (x : Serving) (message : Bytes) : Serving :=
  if x.conn.tcpConn.connected then { x with sent := x.sent ++ [message] } else x

/-- The object `_rtpConnPtr` points to. -/
def rtpConn (x : Serving) : Except Fault (RtpRef × RtpConnection) :=
  match x.conn.rtpConnPtr with
  | none => .error .nullPointer
  | some ref => .ok (ref, x.world.rtpConn ref)

/-- `getRtpSessionId`, as the handlers keep it in a `uint16_t`. -/
def rtpSessionId (env : Env) (ref : RtpRef) : UInt32 := (env.address ref).toUInt16.toUInt32

/-- `_tcpConn` as the `RtpConnection` locks it. -/
def tcpPeer (x : Serving) (env : Env) : Option TcpPeer :=
  some ⟨x.conn.tcpConn.fd, env.peerName⟩

/-! ## The handlers -/

def handleCmdOption (r : RtspRequest) (x : Serving) : Serving :=
  x.sendMessage (r.buildOptionRes 1024)

/-- The start of `handleCmdDescribe`: the `RtpConnection` is created if there
is none. -/
def createRtpConn (env : Env) (x : Serving) : RtpRef × Serving :=
  match x.conn.rtpConnPtr with
  | some ref => (ref, x)
  | none =>
    let ref := x.world.nextRef
    let world := x.world.setRtpConn ref (RtpConnection.new env.garbage env.rd)
    (ref, { x with
      conn := { x.conn with rtpConnPtr := some ref }
      world := { world with nextRef := ref + 1 } })

/-- The clock rate and payload type of a session's sources, given to the
`RtpConnection`. -/
def describeSources {ρ : Type} (session : MediaSession ρ) (c : RtpConnection) : RtpConnection :=
  [MediaChannelId.channel0, .channel1].foldl (fun c chn =>
    match session.mediaSources chn with
    | some source => (c.setClockRate chn source.clockRate).setPayloadType chn source.payload
    | none => c) c

/-- The sessions after a DESCRIBE that found one, and the SDP: the client is
entered, and the text is made if there is none yet. -/
def describeSession (env : Env) (rtsp : Rtsp RtpRef) (id : MediaSessionId)
    (session : MediaSession RtpRef) (fd : ℤ) (ref : RtpRef) : Bytes × Rtsp RtpRef :=
  let session := (session.addClient fd ref).2.1
  let (sdp, session) := session.getSdpMessage rtsp.version env.localIp env.time
  (sdp, rtsp.setMediaSession id session)

def handleCmdDescribe (env : Env) (r : RtspRequest) (x : Serving) : Serving :=
  let (ref, x) := x.createRtpConn env
  match x.world.rtsp.lookMediaSessionBySuffix r.getRtspUrlSuffix with
  | (none, rtsp) =>
    let x := { x with world := { x.world with rtsp := rtsp } }
    x.sendMessage (r.buildNotFoundRes 1024)
  | (some (id, session), rtsp) =>
    let (sdp, rtsp) := describeSession env rtsp id session x.conn.tcpConn.fd ref
    let world := { x.world with rtsp := rtsp }
    let x := { x with
      conn := { x.conn with sessionId := session.sessionId }
      world := world.setRtpConn ref (describeSources session (world.rtpConn ref)) }
    if sdp = [] then x.sendMessage (r.buildServerErrorRes 1024)
    else x.sendMessage (r.buildDescribeRes 1024 sdp)

def handleCmdSetup (env : Env) (r : RtspRequest) (x : Serving) : Except Fault Serving :=
  let channelId := r.channelId
  match x.world.rtsp.lookMediaSession x.conn.sessionId with
  | none => .ok (x.sendMessage (r.buildServerErrorRes 1024))
  | some _ =>
    match r.transport with
    | .rtpOverTcp => do
      let rtpChannel : UInt16 := r.getRtpChannel.toUInt16
      let rtcpChannel : UInt16 := r.getRtcpChannel.toUInt16
      let (ref, c) ← x.rtpConn
      let (_, c) := c.setupRtpOverTcp (x.tcpPeer env) channelId rtpChannel rtcpChannel
      let x := { x with world := x.world.setRtpConn ref c }
      return x.sendMessage
        (r.buildSetupTcpRes 1024 rtpChannel rtcpChannel (rtpSessionId env ref))
    | .rtpOverUdp => do
      let (ref, c) ← x.rtpConn
      let (ok, c, _) := c.setupRtpOverUdp (x.tcpPeer env) env.attempts channelId r.getRtpPort
        r.getRtcpPort
      let x := { x with world := x.world.setRtpConn ref c }
      if ok then
        return x.sendMessage (r.buildSetupUdpRes 1024 (c.localRtpPort channelId)
          (c.localRtcpPort channelId) (rtpSessionId env ref))
      else return x.sendMessage (r.buildServerErrorRes 1024)
    | .rtpOverMulticast => .ok (x.sendMessage (r.buildUnsupportedRes 1024))

def handleCmdPlay (env : Env) (r : RtspRequest) (x : Serving) : Except Fault Serving := do
  let x := { x with conn := { x.conn with connState := .startPlay } }
  let (ref, c) ← x.rtpConn
  let x := { x with world := x.world.setRtpConn ref c.play }
  return x.sendMessage (r.buildPlayRes 1024 none (rtpSessionId env ref))

/-- After the response the connection is shut down. -/
def handleCmdTeardown (env : Env) (r : RtspRequest) (x : Serving) : Except Fault Serving := do
  let (ref, c) ← x.rtpConn
  let x := { x with world := x.world.setRtpConn ref c.teardown }
  let x := x.sendMessage (r.buildTeardownRes 1024 (rtpSessionId env ref))
  return { x with conn.tcpConn.connected := false }

def handleCmdGetParamter (env : Env) (r : RtspRequest) (x : Serving) :
    Except Fault Serving := do
  let (ref, _) ← x.rtpConn
  return x.sendMessage (r.buildGetParamterRes 1024 (rtpSessionId env ref))

/-- The `switch` of `handleRtspRequest`. -/
def handleCmd (env : Env) (r : RtspRequest) (x : Serving) : Except Fault Serving :=
  match r.method with
  | .options => .ok (x.handleCmdOption r)
  | .describe => .ok (x.handleCmdDescribe env r)
  | .setup => x.handleCmdSetup env r
  | .play => x.handleCmdPlay env r
  | .teardown => x.handleCmdTeardown env r
  | .getParameter => x.handleCmdGetParamter env r
  | .rtcp | .none => .ok x

/-! ## What a handler changes -/

@[simp] theorem sendMessage_conn (x : Serving) (message : Bytes) :
    (x.sendMessage message).conn = x.conn := by
  unfold sendMessage
  split <;> rfl

@[simp] theorem sendMessage_world (x : Serving) (message : Bytes) :
    (x.sendMessage message).world = x.world := by
  unfold sendMessage
  split <;> rfl

theorem sendMessage_sent {x : Serving} (h : x.conn.tcpConn.connected = true) (message : Bytes) :
    (x.sendMessage message).sent = x.sent ++ [message] := by
  unfold sendMessage
  rw [if_pos h]

/-- A handler reads `_rtpConnPtr` without a fault exactly when it is set. -/
theorem rtpConn_eq_ok_iff {x : Serving} {res : RtpRef × RtpConnection} :
    x.rtpConn = .ok res ↔ x.conn.rtpConnPtr = some res.1 ∧ res.2 = x.world.rtpConn res.1 := by
  unfold rtpConn
  cases x.conn.rtpConnPtr with
  | none => exact ⟨fun h => (by cases h), fun ⟨h, _⟩ => (by cases h)⟩
  | some ref =>
    constructor
    · intro h; cases h; exact ⟨rfl, rfl⟩
    · rintro ⟨h, h'⟩
      obtain ⟨ref', c⟩ := res
      cases h
      exact congrArg (fun c => Except.ok (ref', c)) h'.symm

/-- **What every command but DESCRIBE leaves alone**: who the connection is,
what it owns, and the tables of the server. With `shutdown` the connection
was shut down. -/
structure SameOwner (shutdown : Bool) (x x' : Serving) : Prop where
  tcpConn : x'.conn.tcpConn =
    { x.conn.tcpConn with connected := !shutdown && x.conn.tcpConn.connected }
  sessionId : x'.conn.sessionId = x.conn.sessionId
  rtpConnPtr : x'.conn.rtpConnPtr = x.conn.rtpConnPtr
  rtsp : x'.world.rtsp = x.world.rtsp
  nextRef : x'.world.nextRef = x.world.nextRef

theorem SameOwner.refl (x : Serving) : SameOwner false x x := ⟨rfl, rfl, rfl, rfl, rfl⟩

theorem SameOwner.sendMessage (x : Serving) (message : Bytes) :
    SameOwner false x (x.sendMessage message) := by
  constructor <;> simp only [sendMessage_conn, sendMessage_world]
  rfl

/-- Writing an object back and sending a message. -/
theorem SameOwner.respond (x : Serving) (ref : RtpRef) (c : RtpConnection) (message : Bytes) :
    SameOwner false x ({ x with world := x.world.setRtpConn ref c }.sendMessage message) := by
  constructor <;> simp only [sendMessage_conn, sendMessage_world] <;> rfl

theorem sameOwner_handleCmdSetup {env : Env} {r : RtspRequest} {x x' : Serving}
    (h : x.handleCmdSetup env r = .ok x') : SameOwner false x x' := by
  unfold handleCmdSetup at h
  cases hs : x.world.rtsp.lookMediaSession x.conn.sessionId with
  | none =>
    simp only [hs] at h
    cases h
    exact .sendMessage ..
  | some session =>
    simp only [hs] at h
    cases ht : r.transport with
    | rtpOverTcp =>
      simp only [ht] at h
      obtain ⟨⟨ref, c⟩, -, h⟩ := Except.bind_eq_ok_iff.mp h
      cases h
      exact .respond ..
    | rtpOverUdp =>
      simp only [ht] at h
      obtain ⟨⟨ref, c⟩, -, h⟩ := Except.bind_eq_ok_iff.mp h
      dsimp only at h
      split at h
      · cases h; exact .respond ..
      · cases h; exact .respond ..
    | rtpOverMulticast =>
      simp only [ht] at h
      cases h
      exact .sendMessage ..

/-- A DESCRIBE always goes through. -/
theorem eq_handleCmdDescribe {env : Env} {r : RtspRequest} {x x' : Serving}
    (h : x.handleCmd env r = .ok x') (hm : r.method = .describe) :
    x' = x.handleCmdDescribe env r := by
  unfold handleCmd at h
  rw [hm] at h
  exact (Except.ok.inj h).symm

/-- **Every command but DESCRIBE leaves the owner alone**, and TEARDOWN shuts
the connection down. -/
theorem sameOwner_handleCmd {env : Env} {r : RtspRequest} {x x' : Serving}
    (h : x.handleCmd env r = .ok x') (hm : r.method ≠ .describe) :
    SameOwner (r.method == .teardown) x x' := by
  unfold handleCmd at h
  cases hr : r.method with
  | options =>
    simp only [hr] at h
    cases h
    exact .sendMessage ..
  | describe => exact absurd hr hm
  | setup =>
    simp only [hr] at h
    exact sameOwner_handleCmdSetup h
  | play =>
    simp only [hr] at h
    obtain ⟨⟨ref, c⟩, -, h⟩ := Except.bind_eq_ok_iff.mp h
    cases h
    constructor <;> simp only [sendMessage_conn, sendMessage_world] <;> rfl
  | teardown =>
    simp only [hr] at h
    obtain ⟨⟨ref, c⟩, -, h⟩ := Except.bind_eq_ok_iff.mp h
    cases h
    constructor <;> simp only [sendMessage_conn, sendMessage_world] <;> rfl
  | getParameter =>
    simp only [hr] at h
    obtain ⟨⟨ref, c⟩, -, h⟩ := Except.bind_eq_ok_iff.mp h
    cases h
    exact .sendMessage ..
  | rtcp => simp only [hr] at h; cases h; exact .refl x
  | none => simp only [hr] at h; cases h; exact .refl x

/-- The reference `_rtpConnPtr` has after a DESCRIBE. -/
def describedRef (x : Serving) : RtpRef := x.conn.rtpConnPtr.getD x.world.nextRef

theorem createRtpConn_spec (env : Env) (x : Serving) :
    (x.createRtpConn env).1 = x.describedRef ∧
    (x.createRtpConn env).2.conn = { x.conn with rtpConnPtr := some x.describedRef } ∧
    (x.createRtpConn env).2.world.rtsp = x.world.rtsp ∧
    (x.createRtpConn env).2.world.nextRef =
      (if x.conn.rtpConnPtr = none then x.world.nextRef + 1 else x.world.nextRef) ∧
    (x.createRtpConn env).2.sent = x.sent := by
  obtain ⟨conn, world, sent⟩ := x
  obtain ⟨tcpConn, connState, sessionId, rtpConnPtr⟩ := conn
  unfold createRtpConn describedRef
  cases rtpConnPtr with
  | none => exact ⟨rfl, rfl, rfl, rfl, rfl⟩
  | some ref => exact ⟨rfl, rfl, rfl, rfl, rfl⟩

/-- **A DESCRIBE of an unknown stream** is answered with 404, and changes no
session. -/
theorem handleCmdDescribe_notFound (env : Env) {r : RtspRequest} {x : Serving}
    (h : (x.world.rtsp.lookMediaSessionBySuffix r.getRtspUrlSuffix).1 = none) :
    (x.handleCmdDescribe env r).conn = { x.conn with rtpConnPtr := some x.describedRef } ∧
    (∀ id, (x.handleCmdDescribe env r).world.rtsp.lookMediaSession id
      = x.world.rtsp.lookMediaSession id) ∧
    (x.handleCmdDescribe env r).world.nextRef = (x.createRtpConn env).2.world.nextRef := by
  obtain ⟨-, hconn, hrtsp, -, -⟩ := createRtpConn_spec env x
  have hlook := (Rtsp.lookMediaSessionBySuffix_spec x.world.rtsp r.getRtspUrlSuffix).2
  unfold handleCmdDescribe
  rcases hc : x.createRtpConn env with ⟨ref, y⟩
  rw [hc] at hconn hrtsp
  dsimp only at hconn hrtsp ⊢
  rw [hrtsp]
  rcases hl : x.world.rtsp.lookMediaSessionBySuffix r.getRtspUrlSuffix with ⟨found, rtsp⟩
  rw [hl] at h hlook
  dsimp only at h
  subst h
  dsimp only
  simp only [sendMessage_conn, sendMessage_world]
  exact ⟨hconn, hlook, trivial⟩

/-- The tables after the client was entered in a session. -/
theorem describeSession_spec (env : Env) (rtsp : Rtsp RtpRef) (id : MediaSessionId)
    (session : MediaSession RtpRef) (fd : ℤ) (ref : RtpRef) :
    ∃ session', (session'.sessionId = session.sessionId ∧
        session'.clients = (session.addClient fd ref).2.1.clients) ∧
      ∀ id', (describeSession env rtsp id session fd ref).2.lookMediaSession id'
        = if id' = id then some session' else rtsp.lookMediaSession id' :=
  ⟨_, ⟨(MediaSession.getSdpMessage_sessionId _ rtsp.version env.localIp env.time).trans
      (session.addClient_sessionId fd ref),
    MediaSession.getSdpMessage_clients _ rtsp.version env.localIp env.time⟩,
    fun id' => Rtsp.lookMediaSession_setMediaSession rtsp id id' _⟩

/-- **A DESCRIBE of a session** enters the connection's `RtpConnection` under
its descriptor, unless there is an entry, and leaves every other session
alone. -/
theorem handleCmdDescribe_found (env : Env) {r : RtspRequest} {x : Serving}
    {id : MediaSessionId} {session : MediaSession RtpRef}
    (h : (x.world.rtsp.lookMediaSessionBySuffix r.getRtspUrlSuffix).1 = some (id, session)) :
    (x.handleCmdDescribe env r).conn = { x.conn with
      rtpConnPtr := some x.describedRef
      sessionId := session.sessionId } ∧
    (∃ session', (session'.sessionId = session.sessionId ∧ session'.clients
        = (session.addClient x.conn.tcpConn.fd x.describedRef).2.1.clients) ∧
      ∀ id', (x.handleCmdDescribe env r).world.rtsp.lookMediaSession id'
        = if id' = id then some session' else x.world.rtsp.lookMediaSession id') ∧
    (x.handleCmdDescribe env r).world.nextRef = (x.createRtpConn env).2.world.nextRef := by
  obtain ⟨href, hconn, hrtsp, -, -⟩ := createRtpConn_spec env x
  have hlook := (Rtsp.lookMediaSessionBySuffix_spec x.world.rtsp r.getRtspUrlSuffix).2
  unfold handleCmdDescribe
  rcases hc : x.createRtpConn env with ⟨ref, y⟩
  rw [hc] at hconn hrtsp href
  dsimp only at hconn hrtsp href ⊢
  rw [hrtsp]
  rcases hl : x.world.rtsp.lookMediaSessionBySuffix r.getRtspUrlSuffix with ⟨found, rtsp⟩
  rw [hl] at h hlook
  dsimp only at h hlook
  subst h href
  dsimp only
  have hfd : y.conn.tcpConn.fd = x.conn.tcpConn.fd := by rw [hconn]
  rw [hfd]
  have hspec := describeSession_spec env rtsp id session x.conn.tcpConn.fd x.describedRef
  simp only [hlook] at hspec
  -- both answers leave the same connection and tables behind
  split <;> simp only [sendMessage_conn, sendMessage_world] <;>
    exact ⟨by rw [hconn], hspec, rfl⟩

/-- **DESCRIBE gives the connection an `RtpConnection`** if it has none, and
leaves the TCP connection alone. -/
theorem handleCmdDescribe_conn (env : Env) (r : RtspRequest) (x : Serving) :
    (x.handleCmdDescribe env r).conn.rtpConnPtr = some x.describedRef ∧
      (x.handleCmdDescribe env r).conn.tcpConn = x.conn.tcpConn := by
  cases h : (x.world.rtsp.lookMediaSessionBySuffix r.getRtspUrlSuffix).1 with
  | none =>
    rw [(handleCmdDescribe_notFound env h).1]
    exact ⟨rfl, rfl⟩
  | some found =>
    rw [(handleCmdDescribe_found env h).1]
    exact ⟨rfl, rfl⟩

/-- **The command finds the `RtpConnection` it uses.** PLAY, TEARDOWN and
GET_PARAMETER use it in any case, SETUP when its session is there and the
transport is not refused. -/
def HasRtpConn (x : Serving) (m : Method) (transport : TransportMode) : Prop :=
  match m with
  | .play | .teardown | .getParameter => x.conn.rtpConnPtr ≠ none
  | .setup => x.conn.rtpConnPtr ≠ none ∨ transport = .rtpOverMulticast
      ∨ x.world.rtsp.lookMediaSession x.conn.sessionId = none
  | _ => True

/-- What matters about the transport is whether it is refused. -/
theorem HasRtpConn.of_transport {x : Serving} {m : Method} {t t' : TransportMode}
    (h : x.HasRtpConn m t)
    (ht : m = .setup → t = .rtpOverMulticast → t' = .rtpOverMulticast) : x.HasRtpConn m t' := by
  cases m with
  | setup => exact h.imp_right fun h => h.imp_left (ht rfl)
  | options | describe | play | teardown | getParameter | rtcp | none => exact h

theorem hasRtpConn_of_some {x : Serving} {ref : RtpRef} (h : x.conn.rtpConnPtr = some ref)
    (r : RtspRequest) : x.HasRtpConn r.method r.transport := by
  have hne : x.conn.rtpConnPtr ≠ none := by
    rw [h]
    exact Option.some_ne_none ref
  unfold HasRtpConn
  cases r.method <;> first | exact hne | exact .inl hne | trivial

/-- A message sent on a connection that is up is one more message. -/
theorem exists_sent {x y : Serving} {message : Bytes} (hup : y.conn.tcpConn.connected = true)
    (hsent : y.sent = x.sent) : ∃ message', (y.sendMessage message).sent = x.sent ++ [message'] :=
  ⟨message, by rw [sendMessage_sent hup, hsent]⟩

/-- DESCRIBE sends one message. -/
theorem handleCmdDescribe_sent (env : Env) (r : RtspRequest) {x : Serving}
    (hup : x.conn.tcpConn.connected = true) :
    ∃ message, (x.handleCmdDescribe env r).sent = x.sent ++ [message] := by
  obtain ⟨-, hconn, -, -, hsent⟩ := createRtpConn_spec env x
  unfold handleCmdDescribe
  rcases hc : x.createRtpConn env with ⟨ref, y⟩
  rw [hc] at hconn hsent
  dsimp only at hconn hsent ⊢
  have hup' : y.conn.tcpConn.connected = true := by
    rw [hconn]
    exact hup
  rcases y.world.rtsp.lookMediaSessionBySuffix r.getRtspUrlSuffix with ⟨_ | ⟨id, session⟩, rtsp⟩
  · exact exists_sent hup' hsent
  · dsimp only
    split
    · exact exists_sent hup' hsent
    · exact exists_sent hup' hsent

/-- SETUP sends one message. -/
theorem handleCmdSetup_answers (env : Env) {r : RtspRequest} {x : Serving}
    (h : x.HasRtpConn .setup r.transport) : ∃ x', x.handleCmdSetup env r = .ok x' ∧
      (x.conn.tcpConn.connected = true → ∃ message, x'.sent = x.sent ++ [message]) := by
  unfold handleCmdSetup
  cases hsession : x.world.rtsp.lookMediaSession x.conn.sessionId with
  | none => exact ⟨_, rfl, fun hup => exists_sent hup rfl⟩
  | some session =>
    by_cases hmulti : r.transport = .rtpOverMulticast
    · simp only [hmulti]
      exact ⟨_, rfl, fun hup => exists_sent hup rfl⟩
    · have hne : x.conn.rtpConnPtr ≠ none := by
        rcases h with h | h | h
        · exact h
        · exact absurd h hmulti
        · rw [hsession] at h
          cases h
      obtain ⟨ref, href⟩ := Option.ne_none_iff_exists'.mp hne
      have hconn : x.rtpConn = .ok (ref, x.world.rtpConn ref) := rtpConn_eq_ok_iff.mpr ⟨href, rfl⟩
      cases ht : r.transport with
      | rtpOverTcp =>
        simp only [hconn, Except.ok_bind]
        exact ⟨_, rfl, fun hup => exists_sent hup rfl⟩
      | rtpOverUdp =>
        simp only [hconn, Except.ok_bind]
        split
        · exact ⟨_, rfl, fun hup => exists_sent hup rfl⟩
        · exact ⟨_, rfl, fun hup => exists_sent hup rfl⟩
      | rtpOverMulticast => exact absurd ht hmulti

/-- **One response is sent** where one command is dispatched: a handler that
finds its `RtpConnection` ends without a fault, and on a connection that is
up it sends one message. -/
theorem handleCmd_answers (env : Env) {r : RtspRequest} {x : Serving}
    (h : x.HasRtpConn r.method r.transport) : ∃ x', x.handleCmd env r = .ok x' ∧
      (x.conn.tcpConn.connected = true → r.method ∈ Method.supported →
        ∃ message, x'.sent = x.sent ++ [message]) := by
  have hget : ∀ y : Serving, y.conn.rtpConnPtr ≠ none →
      ∃ ref, y.rtpConn = .ok (ref, y.world.rtpConn ref) := fun y hne => by
    obtain ⟨ref, href⟩ := Option.ne_none_iff_exists'.mp hne
    exact ⟨ref, rtpConn_eq_ok_iff.mpr ⟨href, rfl⟩⟩
  unfold handleCmd
  cases hm : r.method with
  | options => exact ⟨_, rfl, fun hup _ => exists_sent hup rfl⟩
  | describe => exact ⟨_, rfl, fun hup _ => handleCmdDescribe_sent env r hup⟩
  | setup =>
    rw [hm] at h
    obtain ⟨x', hx', hsent⟩ := handleCmdSetup_answers env h
    exact ⟨x', hx', fun hup _ => hsent hup⟩
  | play =>
    rw [hm] at h
    obtain ⟨ref, hconn⟩ := hget { x with conn := { x.conn with connState := .startPlay } } h
    simp only [handleCmdPlay, hconn, Except.ok_bind]
    exact ⟨_, rfl, fun hup _ => exists_sent hup rfl⟩
  | teardown =>
    rw [hm] at h
    obtain ⟨ref, hconn⟩ := hget x h
    simp only [handleCmdTeardown, hconn, Except.ok_bind]
    exact ⟨_, rfl, fun hup _ => exists_sent hup rfl⟩
  | getParameter =>
    rw [hm] at h
    obtain ⟨ref, hconn⟩ := hget x h
    simp only [handleCmdGetParamter, hconn, Except.ok_bind]
    exact ⟨_, rfl, fun hup _ => exists_sent hup rfl⟩
  | rtcp => exact ⟨_, rfl, fun _ hsupported => absurd hsupported (by decide)⟩
  | none => exact ⟨_, rfl, fun _ hsupported => absurd hsupported (by decide)⟩

end Serving
