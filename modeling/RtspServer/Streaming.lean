import RtspServer.Transition
import RtspServer.Transmissions
import RtspServer.SetupHistory

/-!
# A connection that streams

The runs of one client's connection: its requests are handled, and the tasks
of its media packets are executed, in any order. What the rest of the server
does in between changes the world, but not the client's `RtpConnection`; the
descriptors of the process change too, but no other code closes those of this
connection.

The state remembers what the connection itself forgets: the SETUPs that were
handled, and for each packet that was handed to a send function the SETUPs
before it and what was transmitted. `Inv` says that the `RtpConnection` is
what the SETUPs made it, and that every packet went where it said.
-/

open ResourceTable
open SysCall (uses)
open RtpConnection (Transmission)

/-- A packet that was handed to a send function: the header stamped on it,
the SETUPs handled before, the newest first, where RTCP of its channel would
go, whether the TCP connection was still there, and what was transmitted. -/
structure SentPacket where
  channelId : MediaChannelId
  pkt : RtpPacket
  header : RtpHeader
  setups : List SetupRecord
  rtcpDest : SockAddr
  alive : Bool
  out : List Transmission

/-- The state of a run. `inUse` are the descriptors of the process. -/
structure Streaming where
  serving : Serving
  inUse : Finset ℤ
  setups : List SetupRecord := []
  sent : List SentPacket := []

/-- What happens on the connection, and elsewhere. -/
inductive StreamingEvent where
  | request (env : Env) (r : RtspRequest)
  | task (tcpConn : Option TcpPeer) (sendtoFails : Bool) (channelId : MediaChannelId)
      (pkt : RtpPacket)
  | elsewhere (world : World) (inUse : Finset ℤ)

namespace Streaming

open SetupRecord

/-- The descriptor of the TCP connection. -/
def fd (s : Streaming) : ℤ := s.serving.conn.tcpConn.fd

/-- The state after a task left an object `c` and transmitted `out`. -/
def afterTask (s : Streaming) (ref : RtpRef) (alive : Bool) (ch : MediaChannelId)
    (pkt : RtpPacket) (c : RtpConnection) (out : List Transmission) : Streaming :=
  let before := s.serving.world.rtpConn ref
  { s with
    serving := { s.serving with world := s.serving.world.setRtpConn ref c }
    sent := if (before.setFrameType pkt.type).isSending ch then
        s.sent ++ [⟨ch, pkt, RtpConnection.nextHeader (before.mediaChannelInfo ch) pkt,
          s.setups, before.peerRtcpAddr ch, alive, out⟩]
      else s.sent }

end Streaming

open SetupRecord in
/-- **One step** of a connection: a SETUP, which is entered in the record with what
was asked and what came of it; another command; a task of the queue; or a step of
the rest of the process, which may open and close any descriptors but those of this
connection. -/
inductive StreamingStep : Streaming → StreamingEvent → Streaming → Prop where
  | setup {s : Streaming} {env : Env} {r : RtspRequest} {x : Serving} (hm : r.method = .setup)
      (hcmd : s.serving.handleCmd env r = .ok x)
      (hfresh : Fresh s.inUse (uses (s.serving.setupRecord env r x).calls)) :
      StreamingStep s (.request env r) { s with
        serving := x
        inUse := after s.inUse (uses (s.serving.setupRecord env r x).calls)
        setups := s.serving.setupRecord env r x :: s.setups }
  | command {s : Streaming} {env : Env} {r : RtspRequest} {x : Serving} (hm : r.method ≠ .setup)
      (hcmd : s.serving.handleCmd env r = .ok x) :
      StreamingStep s (.request env r) { s with serving := x }
  | task {s : Streaming} {tcpConn : Option TcpPeer} {sendtoFails : Bool} {ch : MediaChannelId}
      {pkt : RtpPacket} {ref : RtpRef} {c : RtpConnection} {out : List Transmission}
      (href : s.serving.conn.rtpConnPtr = some ref) (hmedia : pkt.IsMedia)
      (htask : (s.serving.world.rtpConn ref).sendTask tcpConn sendtoFails ch pkt = .ok (c, out)) :
      StreamingStep s (.task tcpConn sendtoFails ch pkt)
        (s.afterTask ref tcpConn.isSome ch pkt c out)
  | elsewhere {s : Streaming} {world : World} {inUse : Finset ℤ}
      (hobject : ∀ ref, s.serving.conn.rtpConnPtr = some ref →
        world.rtpConn ref = s.serving.world.rtpConn ref)
      (hfd : s.fd ∈ inUse) (hopen : ∀ ch, openFor s.setups ch ⊆ inUse) :
      StreamingStep s (.elsewhere world inUse)
        { s with serving := { s.serving with world := world }, inUse := inUse }

/-- What a SETUP was answered: 200 with what was set up, or an error. -/
structure SetupRecord.Answered (r : SetupRecord) : Prop where
  asked : r.asked ≠ some .rtpOverMulticast
  transport : ∀ m, r.asked = some m → r.request.transport = m
  tcp : r.outcome = some .rtpOverTcp → ∀ m ∈ r.messages, ∃ sessionId,
    m = r.request.buildSetupTcpRes 1024 r.request.getRtpChannel.toUInt16
      r.request.getRtcpChannel.toUInt16 sessionId
  udp : r.outcome = some .rtpOverUdp → ∀ m ∈ r.messages, ∃ rtpPort rtcpPort sessionId,
    m = r.request.buildSetupUdpRes 1024 rtpPort rtcpPort sessionId
  error : r.outcome = none → ∀ m ∈ r.messages,
    m = r.request.buildServerErrorRes 1024 ∨ m = r.request.buildUnsupportedRes 1024

namespace SentPacket

open SetupRecord

/-- The RTP packet. -/
def rtp (t : SentPacket) : Bytes := RtpConnection.rtpBytes t.header t.pkt

/-- **A packet went where the SETUPs before it said**, on a connection whose
TCP descriptor is `fd`. Over TCP that is an interleaved frame on the channel which
the last SETUP asked for; over UDP a datagram to the address of the peer, from the
socket of the channel unless this was lost with a set-up that failed. The port is the
one for RTCP, which the source puts into both addresses. -/
structure Follows (fd : ℤ) (t : SentPacket) : Prop where
  media : t.pkt.IsMedia
  fd_notMem : fd ∉ openFor t.setups t.channelId
  answered : ∀ r ∈ t.setups, r.Answered
  isSetup : (lastSetup t.setups t.channelId).isSome
  tcp : lastMode t.setups = some .rtpOverTcp → ∃ channel : UInt16,
    (∀ r, lastSetup t.setups t.channelId = some r → r.outcome = some .rtpOverTcp →
      channel = r.request.getRtpChannel.toUInt16) ∧
    t.out = if t.alive then
      [.tcp (RtpConnection.interleavedHead channel t.pkt.size ++ t.rtp)] else []
  udp : lastMode t.setups = some .rtpOverUdp → ∃ rtpfd dest, t.out = [.udp rtpfd dest t.rtp] ∧
    ∀ r, lastSetup t.setups t.channelId = some r → r.outcome = some .rtpOverUdp →
      (rtpfd ∈ openFor t.setups t.channelId ↔ lost t.setups t.channelId = false) ∧
      ∀ peer, r.peerName = some peer →
        dest = ⟨afInet, peer.addr, htons r.request.getRtcpPort⟩ ∧
        t.rtcpDest = ⟨afInet, peer.addr, htons r.request.getRtcpPort⟩

end SentPacket

namespace Streaming

open SetupRecord

/-- The runs of a connection from its start. -/
def system : System Streaming StreamingEvent where
  init s := s.setups = [] ∧ s.sent = [] ∧ s.fd ∈ s.inUse ∧ s.serving.sent = [] ∧
    ∃ fd, s.serving.conn = { tcpConn := { fd := fd } }
  step := StreamingStep

/-- **The invariant.** The `RtpConnection` is what the SETUPs on record have made of
it, every packet on record went where those before it said, and the descriptors of
the connection are open and are not that of its `TcpConnection`. -/
structure Inv (s : Streaming) : Prop where
  fd_mem : s.fd ∈ s.inUse
  fd_notMem : ∀ ch, s.fd ∉ openFor s.setups ch
  answered : ∀ r ∈ s.setups, r.Answered
  noObject : s.serving.conn.rtpConnPtr = none → ∀ r ∈ s.setups, r.asked = none ∧ r.calls = []
  object : ∀ ref, s.serving.conn.rtpConnPtr = some ref →
    (s.serving.world.rtpConn ref).Reflects s.setups s.inUse
  sent : ∀ t ∈ s.sent, t.Follows s.fd

theorem inv_init {s : Streaming} (h : system.init s) : s.Inv := by
  obtain ⟨hsetups, hsent, hfd, -, fd, hconn⟩ := h
  refine ⟨hfd, fun ch => ?_, ?_, ?_, ?_, ?_⟩
  · rw [hsetups]
    exact Finset.notMem_empty _
  · rw [hsetups]
    exact List.forall_mem_nil _
  · rw [hsetups]
    exact fun _ => List.forall_mem_nil _
  · rw [hconn]
    intro ref href
    cases href
  · rw [hsent]
    exact List.forall_mem_nil _

/-! ## Requests -/

/-- The object after it was written back. -/
theorem rtpConn_setRtpConn (w : World) (ref : RtpRef) (c : RtpConnection) :
    (w.setRtpConn ref c).rtpConn ref = c := Function.update_self ..

/-- What is sent on is what was sent, and what is new. -/
theorem drop_sent (x : Serving) (m : Bytes) :
    ∀ m' ∈ (x.sendMessage m).sent.drop x.sent.length, m' = m := by
  unfold Serving.sendMessage
  split
  · rw [List.drop_left]
    exact fun m' h => List.mem_singleton.mp h
  · rw [List.drop_length]
    exact List.forall_mem_nil _

/-- Giving the clock rates and payload types of a session's sources changes
no transport. -/
theorem keepsTransport_describeSources {ρ : Type} (session : MediaSession ρ) (c : RtpConnection) :
    c.KeepsTransport (Serving.describeSources session c) := by
  unfold Serving.describeSources
  refine List.foldlRecOn _ _ (motive := fun c' => c.KeepsTransport c') (.refl c)
    fun c' hc' ch _ => ?_
  split
  · next source _ =>
    have hrate := c'.keepsTransport_modifyInfo ch
      (f := fun info => { info with clockRate := source.clockRate }) fun _ => ⟨rfl, rfl, rfl, rfl⟩
    exact (hc'.trans hrate).trans
      (RtpConnection.keepsTransport_modifyInfo _ ch fun _ => ⟨rfl, rfl, rfl, rfl⟩)
  · exact hc'

/-- The object that DESCRIBE works on. -/
theorem createRtpConn_object (env : Env) (x : Serving) :
    (x.createRtpConn env).2.world.rtpConn x.describedRef
      = x.object.getD (RtpConnection.new env.garbage env.rd) := by
  obtain ⟨conn, world, sent⟩ := x
  obtain ⟨tcpConn, connState, sessionId, rtpConnPtr⟩ := conn
  unfold Serving.createRtpConn Serving.describedRef Serving.object
  cases rtpConnPtr with
  | none => exact rtpConn_setRtpConn world world.nextRef _
  | some ref => rfl

/-- DESCRIBE changes no transport. -/
theorem keepsTransport_describe (env : Env) (r : RtspRequest) (x : Serving) :
    (x.object.getD (RtpConnection.new env.garbage env.rd)).KeepsTransport
      ((x.handleCmdDescribe env r).world.rtpConn x.describedRef) := by
  have hobject := createRtpConn_object env x
  obtain ⟨href, -⟩ := Serving.createRtpConn_spec env x
  unfold Serving.handleCmdDescribe
  rcases hc : x.createRtpConn env with ⟨ref, y⟩
  rw [hc] at hobject href
  dsimp only at hobject href ⊢
  subst href
  rcases y.world.rtsp.lookMediaSessionBySuffix r.getRtspUrlSuffix with ⟨_ | ⟨id, session⟩, rtsp⟩
  · dsimp only
    rw [Serving.sendMessage_world, ← hobject]
    exact .refl _
  · dsimp only
    have hkeeps : ∀ rtsp', (x.object.getD (RtpConnection.new env.garbage env.rd)).KeepsTransport
        ((World.setRtpConn { y.world with rtsp := rtsp' } x.describedRef
          (Serving.describeSources session (y.world.rtpConn x.describedRef))).rtpConn
            x.describedRef) := by
      intro rtsp'
      rw [rtpConn_setRtpConn, hobject]
      exact keepsTransport_describeSources session _
    split
    · rw [Serving.sendMessage_world]
      exact hkeeps _
    · rw [Serving.sendMessage_world]
      exact hkeeps _

/-- **A command that is not a SETUP changes no transport.** -/
theorem keepsTransport_handleCmd {env : Env} {r : RtspRequest} {x x' : Serving}
    (h : x.handleCmd env r = .ok x') (hm : r.method ≠ .setup) {ref : RtpRef}
    (href : x'.conn.rtpConnPtr = some ref) :
    (x.object.getD (RtpConnection.new env.garbage env.rd)).KeepsTransport
      (x'.world.rtpConn ref) := by
  by_cases hdescribe : r.method = .describe
  · cases Serving.eq_handleCmdDescribe h hdescribe
    rw [(Serving.handleCmdDescribe_conn env r x).1] at href
    cases href
    exact keepsTransport_describe env r x
  · rw [(Serving.sameOwner_handleCmd h hdescribe).rtpConnPtr] at href
    have hobject : x.object = some (x.world.rtpConn ref) := by
      unfold Serving.object
      rw [href]
      rfl
    rw [hobject, Option.getD_some]
    unfold Serving.handleCmd at h
    cases hr : r.method with
    | options =>
      simp only [hr] at h
      cases h
      unfold Serving.handleCmdOption
      rw [Serving.sendMessage_world]
      exact .refl _
    | describe => exact absurd hr hdescribe
    | setup => exact absurd hr hm
    | play =>
      simp only [hr] at h
      obtain ⟨⟨ref', c⟩, hconn, h⟩ := Except.bind_eq_ok_iff.mp h
      obtain ⟨href', hc⟩ := Serving.rtpConn_eq_ok_iff.mp hconn
      dsimp only at href' hc
      cases href.symm.trans href'
      cases h
      rw [Serving.sendMessage_world, hc]
      show (x.world.rtpConn ref).KeepsTransport ((x.world.setRtpConn ref _).rtpConn ref)
      rw [rtpConn_setRtpConn]
      exact RtpConnection.keepsTransport_play _
    | teardown =>
      simp only [hr] at h
      obtain ⟨⟨ref', c⟩, hconn, h⟩ := Except.bind_eq_ok_iff.mp h
      obtain ⟨href', hc⟩ := Serving.rtpConn_eq_ok_iff.mp hconn
      dsimp only at href' hc
      cases href.symm.trans href'
      cases h
      dsimp only
      rw [Serving.sendMessage_world, hc, rtpConn_setRtpConn]
      exact RtpConnection.keepsTransport_teardown _
    | getParameter =>
      simp only [hr] at h
      obtain ⟨⟨ref', c⟩, -, h⟩ := Except.bind_eq_ok_iff.mp h
      cases h
      rw [Serving.sendMessage_world]
      exact .refl _
    | rtcp => simp only [hr] at h; cases h; exact .refl _
    | none => simp only [hr] at h; cases h; exact .refl _

/-- No command changes the TCP connection or drops the object. -/
theorem conn_handleCmd {env : Env} {r : RtspRequest} {x x' : Serving}
    (h : x.handleCmd env r = .ok x') : x'.conn.tcpConn.fd = x.conn.tcpConn.fd ∧
      (x'.conn.rtpConnPtr = none → x.conn.rtpConnPtr = none) := by
  by_cases hdescribe : r.method = .describe
  · cases Serving.eq_handleCmdDescribe h hdescribe
    obtain ⟨hptr, htcp⟩ := Serving.handleCmdDescribe_conn env r x
    rw [hptr, htcp]
    exact ⟨rfl, fun h => by cases h⟩
  · have howner := Serving.sameOwner_handleCmd h hdescribe
    rw [howner.tcpConn, howner.rtpConnPtr]
    exact ⟨rfl, id⟩

/-- The object, or the one that a DESCRIBE would create. -/
theorem Inv.reflects {s : Streaming} (hs : s.Inv) (env : Env) :
    (s.serving.object.getD (RtpConnection.new env.garbage env.rd)).Reflects s.setups s.inUse := by
  unfold Serving.object
  cases href : s.serving.conn.rtpConnPtr with
  | none => exact RtpConnection.reflects_new _ _ (hs.noObject href) s.inUse
  | some ref => exact hs.object ref href

theorem Inv.command {s : Streaming} (hs : s.Inv) {env : Env} {r : RtspRequest} {x : Serving}
    (hm : r.method ≠ .setup) (hcmd : s.serving.handleCmd env r = .ok x) :
    Inv { s with serving := x } := by
  obtain ⟨hfd, hptr⟩ := conn_handleCmd hcmd
  refine ⟨?_, fun ch => ?_, hs.answered, fun hnone => hs.noObject (hptr hnone), fun ref href => ?_,
    fun t ht => ?_⟩
  · show x.conn.tcpConn.fd ∈ s.inUse
    rw [hfd]
    exact hs.fd_mem
  · show x.conn.tcpConn.fd ∉ openFor s.setups ch
    rw [hfd]
    exact hs.fd_notMem ch
  · exact (hs.reflects env).of_keeps (keepsTransport_handleCmd hcmd hm href)
  · show t.Follows x.conn.tcpConn.fd
    rw [hfd]
    exact hs.sent t ht

/-! ## SETUP -/

/-- Multicast is refused, so it is never asked for. -/
theorem asks_ne_multicast (x : Serving) (r : RtspRequest) :
    x.asks r ≠ some .rtpOverMulticast := by
  unfold Serving.asks
  split
  · exact nofun
  · split
    · exact nofun
    · next hne => exact fun h => hne (Option.some.inj h)

/-- Only a SETUP over UDP calls the kernel. -/
theorem calls_of_not_udp {env : Env} {r : RtspRequest} {x x' : Serving}
    (h : x.asks r ≠ some .rtpOverUdp) : (x.setupRecord env r x').calls = [] := if_neg h

/-- Only a SETUP over UDP can fail. -/
theorem outcome_of_not_udp {env : Env} {r : RtspRequest} {x x' : Serving}
    (h : x.asks r ≠ some .rtpOverUdp) : (x.setupRecord env r x').outcome = x.asks r := by
  unfold outcome Serving.setupRecord
  cases hasks : x.asks r with
  | none => rfl
  | some m =>
    cases m with
    | rtpOverTcp => rfl
    | rtpOverUdp => exact absurd hasks h
    | rtpOverMulticast => exact absurd hasks (asks_ne_multicast x r)

/-- A SETUP over UDP is recorded as `setupRtpOverUdp` returned. -/
theorem record_of_udp {env : Env} {r : RtspRequest} {x x' : Serving} {ref : RtpRef}
    (href : x.conn.rtpConnPtr = some ref) (hasks : x.asks r = some .rtpOverUdp) {ok : Bool}
    {c : RtpConnection} {calls : List SysCall}
    (hres : x.setupUdp env r (x.world.rtpConn ref) = (ok, c, calls)) :
    (x.setupRecord env r x').calls = calls ∧ (x.setupRecord env r x').succeeded = ok := by
  have hobject : x.object = some (x.world.rtpConn ref) := by
    unfold Serving.object
    rw [href]
    rfl
  unfold Serving.setupRecord
  rw [hasks, hobject]
  dsimp only [Option.map_some, Option.getD_some]
  rw [hres]
  exact ⟨rfl, Bool.false_or _⟩

theorem conn_answerWith (x : Serving) (ref : RtpRef) (c : RtpConnection) (m : Bytes) :
    (x.answerWith ref c m).conn = x.conn := Serving.sendMessage_conn ..

theorem rtpConn_answerWith (x : Serving) (ref : RtpRef) (c : RtpConnection) (m : Bytes) :
    (x.answerWith ref c m).world.rtpConn ref = c := by
  unfold Serving.answerWith
  rw [Serving.sendMessage_world]
  exact rtpConn_setRtpConn ..

/-- The messages of a record, when one message is sent at the end. -/
theorem messages_answerWith {env : Env} {r : RtspRequest} {x : Serving} (ref : RtpRef)
    (c : RtpConnection) (m : Bytes) :
    ∀ m' ∈ (x.setupRecord env r (x.answerWith ref c m)).messages, m' = m :=
  drop_sent { x with world := x.world.setRtpConn ref c } m

/-- A SETUP whose record fits what it did to the object. -/
theorem Inv.record {s : Streaming} (hs : s.Inv) {x : Serving} {record : SetupRecord}
    (hfd : x.conn.tcpConn.fd = s.fd) (hfresh : Fresh s.inUse (uses record.calls))
    (hreleases : ReleasesOwned (openFor s.setups record.request.channelId) (uses record.calls))
    (hopen : ∀ ch, openFor s.setups ch ⊆ s.inUse) (hanswered : record.Answered)
    (hnone : x.conn.rtpConnPtr = none → ∀ r ∈ record :: s.setups, r.asked = none ∧ r.calls = [])
    (hobject : ∀ ref, x.conn.rtpConnPtr = some ref →
      (x.world.rtpConn ref).Reflects (record :: s.setups) (after s.inUse (uses record.calls))) :
    Inv { s with
      serving := x, inUse := after s.inUse (uses record.calls), setups := record :: s.setups } := by
  have hother := after_other (hopen record.request.channelId) hfresh hreleases hs.fd_mem
    (hs.fd_notMem record.request.channelId)
  refine ⟨?_, fun ch => ?_, List.forall_mem_cons.mpr ⟨hanswered, hs.answered⟩, hnone, hobject,
    fun t ht => ?_⟩
  · show x.conn.tcpConn.fd ∈ _
    rw [hfd]
    exact hother.1
  · show x.conn.tcpConn.fd ∉ openFor (record :: s.setups) ch
    rw [hfd, openFor]
    split
    · next hch => subst hch; exact hother.2
    · exact hs.fd_notMem ch
  · show t.Follows x.conn.tcpConn.fd
    rw [hfd]
    exact hs.sent t ht

/-- The sockets of a channel are in use. -/
theorem Inv.open_subset {s : Streaming} (hs : s.Inv) (ch : MediaChannelId) :
    openFor s.setups ch ⊆ s.inUse :=
  (hs.reflects Env.quiet).open_subset ch

/-- A SETUP that is refused. -/
theorem Inv.refused {s : Streaming} (hs : s.Inv) {env : Env} {r : RtspRequest} {x : Serving}
    (hasks : s.serving.asks r = none)
    (hx : x = s.serving.sendMessage (r.buildServerErrorRes 1024) ∨
      x = s.serving.sendMessage (r.buildUnsupportedRes 1024)) :
    Inv { s with
      serving := x
      inUse := after s.inUse (uses (s.serving.setupRecord env r x).calls)
      setups := s.serving.setupRecord env r x :: s.setups } := by
  have hnot : s.serving.asks r ≠ some .rtpOverUdp := by
    rw [hasks]
    exact nofun
  have hcalls : (s.serving.setupRecord env r x).calls = [] := calls_of_not_udp hnot
  have hout : (s.serving.setupRecord env r x).outcome = none :=
    (outcome_of_not_udp hnot).trans hasks
  have hsent : ∃ m, x = s.serving.sendMessage m := by
    rcases hx with hx | hx
    · exact ⟨_, hx⟩
    · exact ⟨_, hx⟩
  obtain ⟨hconn, hworld⟩ : x.conn = s.serving.conn ∧ x.world = s.serving.world := by
    obtain ⟨m, rfl⟩ := hsent
    exact ⟨Serving.sendMessage_conn .., Serving.sendMessage_world ..⟩
  refine hs.record ?_ ?_ ?_ hs.open_subset
    ⟨?_, fun _ => Serving.transport_of_asks, ?_, ?_, fun _ m hm => ?_⟩ (fun hnone => ?_)
    fun ref href => ?_
  · rw [hconn]; rfl
  · rw [hcalls]; trivial
  · rw [hcalls]; trivial
  · exact asks_ne_multicast s.serving r
  · rw [hout]; intro h; cases h
  · rw [hout]; intro h; cases h
  · rcases hx with rfl | rfl
    · exact .inl (drop_sent s.serving _ m hm)
    · exact .inr (drop_sent s.serving _ m hm)
  · rw [hconn] at hnone
    exact List.forall_mem_cons.mpr ⟨⟨hasks, hcalls⟩, hs.noObject hnone⟩
  · rw [hconn] at href
    rw [hworld, hcalls]
    exact (hs.object ref href).refused hasks hcalls

/-- A SETUP over TCP. -/
theorem Inv.setupTcp {s : Streaming} (hs : s.Inv) {env : Env} {r : RtspRequest} {x : Serving}
    {ref : RtpRef} (href : s.serving.conn.rtpConnPtr = some ref)
    (hasks : s.serving.asks r = some .rtpOverTcp)
    (hx : x = s.serving.answerWith ref (s.serving.setupTcp env r (s.serving.world.rtpConn ref))
      (r.buildSetupTcpRes 1024 r.getRtpChannel.toUInt16 r.getRtcpChannel.toUInt16
        (Serving.rtpSessionId env ref))) :
    Inv { s with
      serving := x
      inUse := after s.inUse (uses (s.serving.setupRecord env r x).calls)
      setups := s.serving.setupRecord env r x :: s.setups } := by
  have hnot : s.serving.asks r ≠ some .rtpOverUdp := by
    rw [hasks]
    exact nofun
  have hcalls : (s.serving.setupRecord env r x).calls = [] := calls_of_not_udp hnot
  have hout : (s.serving.setupRecord env r x).outcome = some .rtpOverTcp :=
    (outcome_of_not_udp hnot).trans hasks
  have hconn : x.conn = s.serving.conn := by
    rw [hx]
    exact conn_answerWith ..
  refine hs.record ?_ ?_ ?_ hs.open_subset
    ⟨?_, fun _ => Serving.transport_of_asks,
      fun _ m hm => ⟨Serving.rtpSessionId env ref, ?_⟩, ?_, ?_⟩ (fun hnone => ?_)
    fun ref' href' => ?_
  · rw [hconn]; rfl
  · rw [hcalls]; trivial
  · rw [hcalls]; trivial
  · exact asks_ne_multicast s.serving r
  · subst hx
    exact messages_answerWith ref _ _ m hm
  · rw [hout]; intro h; cases h
  · rw [hout]; intro h; cases h
  · rw [hconn, href] at hnone
    cases hnone
  · rw [hconn] at href'
    cases href.symm.trans href'
    have hworld : x.world.rtpConn ref = s.serving.setupTcp env r (s.serving.world.rtpConn ref) := by
      rw [hx]
      exact rtpConn_answerWith ..
    rw [hworld, hcalls]
    exact (hs.object ref href).setupTcp hout hcalls ⟨s.fd, env.peerName⟩ _

/-- A SETUP over UDP. -/
theorem Inv.setupUdp {s : Streaming} (hs : s.Inv) {env : Env} {r : RtspRequest} {x : Serving}
    {ref : RtpRef} (href : s.serving.conn.rtpConnPtr = some ref)
    (hasks : s.serving.asks r = some .rtpOverUdp) {ok : Bool} {c : RtpConnection}
    {calls : List SysCall}
    (hres : s.serving.setupUdp env r (s.serving.world.rtpConn ref) = (ok, c, calls))
    (hx : x = s.serving.answerWith ref c
      (if ok then r.buildSetupUdpRes 1024 (c.localRtpPort r.channelId)
          (c.localRtcpPort r.channelId) (Serving.rtpSessionId env ref)
        else r.buildServerErrorRes 1024))
    (hfresh : Fresh s.inUse (uses (s.serving.setupRecord env r x).calls)) :
    Inv { s with
      serving := x
      inUse := after s.inUse (uses (s.serving.setupRecord env r x).calls)
      setups := s.serving.setupRecord env r x :: s.setups } := by
  obtain ⟨hcalls, hsucceeded⟩ : (s.serving.setupRecord env r x).calls = calls ∧
      (s.serving.setupRecord env r x).succeeded = ok := record_of_udp href hasks hres
  have hconn : x.conn = s.serving.conn := by
    rw [hx]
    exact conn_answerWith ..
  have hmessage : ∀ m ∈ (s.serving.setupRecord env r x).messages, m =
      if ok then r.buildSetupUdpRes 1024 (c.localRtpPort r.channelId)
          (c.localRtcpPort r.channelId) (Serving.rtpSessionId env ref)
        else r.buildServerErrorRes 1024 := by
    subst hx
    exact messages_answerWith ref _ _
  have hout : (s.serving.setupRecord env r x).outcome = if ok then some .rtpOverUdp else none := by
    unfold outcome
    rw [hsucceeded]
    show (if ok = true then s.serving.asks r else none) = _
    rw [hasks]
  refine hs.record ?_ hfresh ?_ hs.open_subset
    ⟨?_, fun _ => Serving.transport_of_asks, ?_, fun ho m hm => ?_, fun ho m hm => ?_⟩
    (fun hnone => ?_) fun ref' href' => ?_
  · rw [hconn]; rfl
  · rw [hcalls] at hfresh ⊢
    exact RtpConnection.setupRtpOverUdp_releasesOwned hres (hs.open_subset _) hfresh
  · exact asks_ne_multicast s.serving r
  · rw [hout]
    cases ok with
    | false => intro h; cases h
    | true => intro h; cases h
  · have hm := hmessage m hm
    rw [hout] at ho
    cases ok with
    | false => cases ho
    | true => exact ⟨_, _, _, hm⟩
  · have hm := hmessage m hm
    rw [hout] at ho
    cases ok with
    | false => exact .inl hm
    | true => cases ho
  · rw [hconn, href] at hnone
    cases hnone
  · rw [hconn] at href'
    cases href.symm.trans href'
    have hworld : x.world.rtpConn ref = c := by
      rw [hx]
      exact rtpConn_answerWith ..
    rw [hworld]
    have hres' : (s.serving.world.rtpConn ref).setupRtpOverUdp (some ⟨s.fd, env.peerName⟩)
        env.attempts r.channelId r.getRtpPort r.getRtcpPort
        = ((s.serving.setupRecord env r x).succeeded, c,
          (s.serving.setupRecord env r x).calls) := by
      rw [hsucceeded, hcalls]
      exact hres
    exact (hs.object ref href).setupUdp hasks hres' rfl hfresh

theorem Inv.setup {s : Streaming} (hs : s.Inv) {env : Env} {r : RtspRequest} {x : Serving}
    (hm : r.method = .setup) (hcmd : s.serving.handleCmd env r = .ok x)
    (hfresh : Fresh s.inUse (uses (s.serving.setupRecord env r x).calls)) :
    Inv { s with
      serving := x
      inUse := after s.inUse (uses (s.serving.setupRecord env r x).calls)
      setups := s.serving.setupRecord env r x :: s.setups } := by
  have hsetup : s.serving.handleCmdSetup env r = .ok x := by
    unfold Serving.handleCmd at hcmd
    rw [hm] at hcmd
    exact hcmd
  cases Serving.handleCmdSetup_cases hsetup with
  | refused hasks hx => exact hs.refused hasks hx
  | tcp hasks ref href hx => exact hs.setupTcp href hasks hx
  | udp hasks ref href ok c calls hres hx => exact hs.setupUdp href hasks hres hx hfresh

/-! ## Packets -/

/-- A channel that is sending is set up. -/
theorem isSetup_of_isSending {c : RtpConnection} {setups : List SetupRecord} {inUse : Finset ℤ}
    (h : c.Reflects setups inUse) {type : UInt8} {ch : MediaChannelId}
    (hsend : (c.setFrameType type).isSending ch = true) : (lastSetup setups ch).isSome = true := by
  unfold RtpConnection.isSending at hsend
  rw [RtpConnection.setFrameType_mediaChannelInfo] at hsend
  rw [← (h.channel ch).isSetup]
  exact (h.channel ch).active (Bool.and_eq_true_iff.mp hsend).1

/-- **A packet that is handed over follows the SETUPs.** -/
theorem Inv.follows {s : Streaming} (hs : s.Inv) {tcpConn : Option TcpPeer} {sendtoFails : Bool}
    {ch : MediaChannelId} {pkt : RtpPacket} {ref : RtpRef} {c : RtpConnection}
    {out : List Transmission} (href : s.serving.conn.rtpConnPtr = some ref) (hmedia : pkt.IsMedia)
    (htask : (s.serving.world.rtpConn ref).sendTask tcpConn sendtoFails ch pkt = .ok (c, out))
    (hsend : ((s.serving.world.rtpConn ref).setFrameType pkt.type).isSending ch = true) :
    SentPacket.Follows s.fd ⟨ch, pkt,
      RtpConnection.nextHeader ((s.serving.world.rtpConn ref).mediaChannelInfo ch) pkt, s.setups,
      (s.serving.world.rtpConn ref).peerRtcpAddr ch, tcpConn.isSome, out⟩ := by
  have hreflects := hs.object ref href
  have hchannel := hreflects.channel ch
  rw [RtpConnection.sendTask_eq _ tcpConn sendtoFails ch hmedia, if_pos hsend] at htask
  refine ⟨hmedia, hs.fd_notMem ch, hs.answered, isSetup_of_isSending hreflects hsend,
    fun hmode => ?_, fun hmode => ?_⟩
  · rw [if_pos (hreflects.mode _ hmode)] at htask
    cases htask
    exact ⟨_, hchannel.tcp, rfl⟩
  · have hne : (s.serving.world.rtpConn ref).transportMode ≠ .rtpOverTcp := by
      rw [hreflects.mode _ hmode]
      decide
    rw [if_neg hne] at htask
    cases htask
    exact ⟨_, _, rfl, hchannel.udp⟩

theorem Inv.task {s : Streaming} (hs : s.Inv) {tcpConn : Option TcpPeer} {sendtoFails : Bool}
    {ch : MediaChannelId} {pkt : RtpPacket} {ref : RtpRef} {c : RtpConnection}
    {out : List Transmission} (href : s.serving.conn.rtpConnPtr = some ref) (hmedia : pkt.IsMedia)
    (htask : (s.serving.world.rtpConn ref).sendTask tcpConn sendtoFails ch pkt = .ok (c, out)) :
    (s.afterTask ref tcpConn.isSome ch pkt c out).Inv := by
  refine ⟨hs.fd_mem, hs.fd_notMem, hs.answered, hs.noObject, fun ref' href' => ?_, fun t ht => ?_⟩
  · cases href.symm.trans href'
    show ((s.serving.world.setRtpConn ref c).rtpConn ref).Reflects _ _
    rw [rtpConn_setRtpConn]
    exact (hs.object ref href).of_keeps (RtpConnection.keepsTransport_sendTask htask)
  · unfold afterTask at ht
    dsimp only at ht
    split at ht
    · next hsend =>
      rcases List.mem_append.mp ht with ht | ht
      · exact hs.sent t ht
      · rw [List.mem_singleton.mp ht]
        exact hs.follows href hmedia htask hsend
    · exact hs.sent t ht

theorem Inv.elsewhere {s : Streaming} (hs : s.Inv) {world : World} {inUse : Finset ℤ}
    (hobject : ∀ ref, s.serving.conn.rtpConnPtr = some ref →
      world.rtpConn ref = s.serving.world.rtpConn ref)
    (hfd : s.fd ∈ inUse) (hopen : ∀ ch, openFor s.setups ch ⊆ inUse) :
    Inv { s with serving := { s.serving with world := world }, inUse := inUse } := by
  refine ⟨hfd, hs.fd_notMem, hs.answered, hs.noObject, fun ref href => ?_, hs.sent⟩
  show (world.rtpConn ref).Reflects s.setups inUse
  rw [hobject ref href]
  obtain ⟨hmode, -, hchannel⟩ := hs.object ref href
  exact ⟨hmode, hopen, hchannel⟩

theorem Inv.step {s s' : Streaming} {e : StreamingEvent} (hs : s.Inv) (h : StreamingStep s e s') :
    s'.Inv := by
  cases h with
  | setup hm hcmd hfresh => exact hs.setup hm hcmd hfresh
  | command hm hcmd => exact hs.command hm hcmd
  | task href hmedia htask => exact hs.task href hmedia htask
  | elsewhere hobject hfd hopen => exact hs.elsewhere hobject hfd hopen

/-- **Every run keeps the invariant.** -/
theorem inv_of_run {es : List StreamingEvent} {s : Streaming} (h : system.Run es s) : s.Inv :=
  h.invariant (fun _ => inv_init) fun _ _ _ hs hstep => hs.step hstep

end Streaming
