import RtspServer.Sockets
import RtspServer.RtspConnection

/-!
# What the SETUPs of a connection have negotiated

Every SETUP request that is handled leaves a `SetupRecord`: what it asked
for, what came of it, and what it was answered. The records of a connection,
the newest first, say what was negotiated for each channel: the transport of
the last SETUP that succeeded, the sockets that were opened for the channel,
and whether those were lost again.

A session that is gone and a transport the server refuses set nothing up
(`asks`). The handler writes one channel of the `RtpConnection` and the
transport of the whole, and sends one message (`handleCmdSetup_cases`).
-/

open ResourceTable
open SysCall (uses uses_append)

/-- A SETUP that was handled. `asked` is the transport it tried to set up,
`calls` are its system calls and `messages` what was sent in answer. -/
structure SetupRecord where
  request : RtspRequest
  peerName : Option SockAddr
  asked : Option TransportMode
  succeeded : Bool
  calls : List SysCall
  messages : List Bytes

namespace SetupRecord

/-- The transport that was set up. -/
def outcome (r : SetupRecord) : Option TransportMode := if r.succeeded then r.asked else none

theorem asked_of_outcome {r : SetupRecord} {m : TransportMode} (h : r.outcome = some m) :
    r.asked = some m := by
  unfold outcome at h
  split at h
  · exact h
  · cases h

/-- The transport of the connection: that of the last SETUP that succeeded. -/
def lastMode (setups : List SetupRecord) : Option TransportMode := setups.findSome? outcome

/-- The last SETUP of a channel that succeeded. -/
def lastSetup (setups : List SetupRecord) (ch : MediaChannelId) : Option SetupRecord :=
  setups.find? fun r => r.request.channelId = ch ∧ r.outcome.isSome

/-- **The transport negotiated for a channel.** -/
def negotiated (setups : List SetupRecord) (ch : MediaChannelId) : Option TransportMode :=
  (lastSetup setups ch).bind outcome

/-- The sockets opened for a channel and not closed since. -/
def openFor : List SetupRecord → MediaChannelId → Finset ℤ
  | [], _ => ∅
  | r :: setups, ch =>
    if r.request.channelId = ch then after (openFor setups ch) (uses r.calls)
    else openFor setups ch

/-- A SETUP of the channel over UDP failed after the last one that
succeeded. -/
def lost : List SetupRecord → MediaChannelId → Bool
  | [], _ => false
  | r :: setups, ch =>
    if r.request.channelId = ch then
      if r.outcome.isSome then false else r.asked == some .rtpOverUdp || lost setups ch
    else lost setups ch

theorem lastMode_cons (r : SetupRecord) (setups : List SetupRecord) :
    lastMode (r :: setups) = match r.outcome with
      | some m => some m
      | none => lastMode setups := by
  unfold lastMode
  rw [List.findSome?_cons]
  cases r.outcome <;> rfl

/-- A SETUP of another channel, or one without success, is not the last of
this channel that succeeded. -/
theorem lastSetup_cons_of_not {r : SetupRecord} {ch : MediaChannelId}
    (h : r.request.channelId = ch → r.outcome = none) (setups : List SetupRecord) :
    lastSetup (r :: setups) ch = lastSetup setups ch := by
  refine List.find?_cons_of_neg fun hr => ?_
  obtain ⟨hch, hout⟩ := of_decide_eq_true hr
  rw [h hch] at hout
  cases hout

theorem lastSetup_cons_self {r : SetupRecord} {m : TransportMode} (h : r.outcome = some m)
    (setups : List SetupRecord) :
    lastSetup (r :: setups) r.request.channelId = some r := by
  refine List.find?_cons_of_pos (decide_eq_true ⟨rfl, ?_⟩)
  rw [h]
  rfl

/-- What was last set up is a SETUP of the channel that succeeded. -/
theorem of_lastSetup {setups : List SetupRecord} {ch : MediaChannelId} {r : SetupRecord}
    (h : lastSetup setups ch = some r) :
    r ∈ setups ∧ r.request.channelId = ch ∧ ∃ m, r.outcome = some m := by
  have hr := List.find?_some h
  obtain ⟨hch, hout⟩ := of_decide_eq_true hr
  exact ⟨List.mem_of_find?_eq_some h, hch, Option.isSome_iff_exists.mp hout⟩

end SetupRecord

namespace Serving

/-- The transport a SETUP tries to set up. -/
def asks (r : RtspRequest) (x : Serving) : Option TransportMode :=
  if (x.world.rtsp.lookMediaSession x.conn.sessionId).isNone then none
  else if r.transport = .rtpOverMulticast then none
  else some r.transport

theorem transport_of_asks {r : RtspRequest} {x : Serving} {m : TransportMode}
    (h : x.asks r = some m) : r.transport = m := by
  unfold asks at h
  split at h
  · cases h
  · split at h
    · cases h
    · exact Option.some.inj h

/-- The object the connection points to. -/
def object (x : Serving) : Option RtpConnection := x.conn.rtpConnPtr.map x.world.rtpConn

/-- `setupRtpOverUdp` as `handleCmdSetup` calls it. -/
def setupUdp (env : Env) (r : RtspRequest) (x : Serving) (c : RtpConnection) :
    Bool × RtpConnection × List SysCall :=
  c.setupRtpOverUdp (x.tcpPeer env) env.attempts r.channelId r.getRtpPort r.getRtcpPort

/-- `setupRtpOverTcp` as `handleCmdSetup` calls it. -/
def setupTcp (env : Env) (r : RtspRequest) (x : Serving) (c : RtpConnection) : RtpConnection :=
  (c.setupRtpOverTcp (x.tcpPeer env) r.channelId r.getRtpChannel.toUInt16
    r.getRtcpChannel.toUInt16).2

/-- The record of a SETUP that is handled in `x` and leads to `x'`. -/
def setupRecord (env : Env) (r : RtspRequest) (x x' : Serving) : SetupRecord :=
  let asked := x.asks r
  let udp := (x.object.map (x.setupUdp env r)).getD (false, RtpConnection.zeroed, [])
  { request := r
    peerName := env.peerName
    asked := asked
    succeeded := asked == some .rtpOverTcp || asked == some .rtpOverUdp && udp.1
    calls := if asked = some .rtpOverUdp then udp.2.2 else []
    messages := x'.sent.drop x.sent.length }

/-- The object is written back, and the answer is sent. -/
def answerWith (x : Serving) (ref : RtpRef) (c : RtpConnection) (message : Bytes) : Serving :=
  { x with world := x.world.setRtpConn ref c }.sendMessage message

/-- **What a SETUP does.** The three cases are those of the handler: it sends an error
and changes nothing, it sets the channel up over TCP, or it looks for ports for it. In
the last the object is written back in any case, also when no ports were found. -/
inductive SetUp (env : Env) (r : RtspRequest) (x x' : Serving) : Prop where
  /-- The session is gone, or the transport is refused. -/
  | refused (hasks : x.asks r = none) (hx' : x' = x.sendMessage (r.buildServerErrorRes 1024) ∨
      x' = x.sendMessage (r.buildUnsupportedRes 1024))
  /-- The channel is set up over TCP. -/
  | tcp (hasks : x.asks r = some .rtpOverTcp) (ref : RtpRef)
      (href : x.conn.rtpConnPtr = some ref)
      (hx' : x' = x.answerWith ref (x.setupTcp env r (x.world.rtpConn ref))
        (r.buildSetupTcpRes 1024 r.getRtpChannel.toUInt16 r.getRtcpChannel.toUInt16
          (rtpSessionId env ref)))
  /-- The channel is set up over UDP, or no ports are found. -/
  | udp (hasks : x.asks r = some .rtpOverUdp) (ref : RtpRef)
      (href : x.conn.rtpConnPtr = some ref) (ok : Bool) (c : RtpConnection)
      (calls : List SysCall) (hres : x.setupUdp env r (x.world.rtpConn ref) = (ok, c, calls))
      (hx' : x' = x.answerWith ref c
        (if ok then r.buildSetupUdpRes 1024 (c.localRtpPort r.channelId)
            (c.localRtcpPort r.channelId) (rtpSessionId env ref)
          else r.buildServerErrorRes 1024))

theorem handleCmdSetup_cases {env : Env} {r : RtspRequest} {x x' : Serving}
    (h : x.handleCmdSetup env r = .ok x') : SetUp env r x x' := by
  unfold handleCmdSetup at h
  cases hs : x.world.rtsp.lookMediaSession x.conn.sessionId with
  | none =>
    simp only [hs] at h
    cases h
    refine .refused ?_ (.inl rfl)
    unfold asks
    rw [hs]
    rfl
  | some session =>
    have hasks : x.asks r = if r.transport = .rtpOverMulticast then none else some r.transport := by
      unfold asks
      rw [hs]
      rfl
    simp only [hs] at h
    cases ht : r.transport with
    | rtpOverTcp =>
      rw [ht, if_neg (by decide)] at hasks
      simp only [ht] at h
      obtain ⟨⟨ref, c⟩, hconn, h⟩ := Except.bind_eq_ok_iff.mp h
      obtain ⟨href, hc⟩ := rtpConn_eq_ok_iff.mp hconn
      dsimp only at href hc
      subst hc
      cases h
      exact .tcp hasks ref href rfl
    | rtpOverUdp =>
      rw [ht, if_neg (by decide)] at hasks
      simp only [ht] at h
      obtain ⟨⟨ref, c⟩, hconn, h⟩ := Except.bind_eq_ok_iff.mp h
      obtain ⟨href, hc⟩ := rtpConn_eq_ok_iff.mp hconn
      dsimp only at href hc
      subst hc
      rcases hres : x.setupUdp env r (x.world.rtpConn ref) with ⟨ok, c, calls⟩
      have hres' := hres
      unfold setupUdp at hres'
      dsimp only at h
      rw [hres'] at h
      refine .udp hasks ref href ok c calls hres ?_
      cases ok with
      | false => cases h; rfl
      | true => cases h; rfl
    | rtpOverMulticast =>
      rw [ht, if_pos rfl] at hasks
      simp only [ht] at h
      cases h
      exact .refused hasks (.inr rfl)

end Serving

namespace RtpConnection

open SetupRecord

/-- Whether a channel plays or records. -/
def isActive (c : RtpConnection) (ch : MediaChannelId) : Bool :=
  (c.mediaChannelInfo ch).isPlay || (c.mediaChannelInfo ch).isRecord

/-- **What no operation but a set-up changes.** Only a channel that is set up
is started. -/
structure KeepsTransport (c c' : RtpConnection) : Prop where
  transportMode : c'.transportMode = c.transportMode
  rtpfd : c'.rtpfd = c.rtpfd
  peers : c'.peerRtpAddr = c.peerRtpAddr ∧ c'.peerRtcpAddr = c.peerRtcpAddr
  channel : ∀ ch, (c'.mediaChannelInfo ch).isSetup = (c.mediaChannelInfo ch).isSetup ∧
    (c'.mediaChannelInfo ch).rtpChannel = (c.mediaChannelInfo ch).rtpChannel
  active : ∀ ch, c'.isActive ch = true →
    (c.mediaChannelInfo ch).isSetup = true ∨ c.isActive ch = true

theorem KeepsTransport.refl (c : RtpConnection) : c.KeepsTransport c :=
  ⟨rfl, rfl, ⟨rfl, rfl⟩, fun _ => ⟨rfl, rfl⟩, fun _ => .inr⟩

theorem KeepsTransport.trans {c c' c'' : RtpConnection} (h : c.KeepsTransport c')
    (h' : c'.KeepsTransport c'') : c.KeepsTransport c'' := by
  refine ⟨h'.transportMode.trans h.transportMode, h'.rtpfd.trans h.rtpfd,
    ⟨h'.peers.1.trans h.peers.1, h'.peers.2.trans h.peers.2⟩, fun ch => ⟨?_, ?_⟩, fun ch hact => ?_⟩
  · exact (h'.channel ch).1.trans (h.channel ch).1
  · exact (h'.channel ch).2.trans (h.channel ch).2
  · rcases h'.active ch hact with hsetup | hact
    · rw [(h.channel ch).1] at hsetup
      exact .inl hsetup
    · exact h.active ch hact

/-- An operation that changes neither transport nor flags of a channel. -/
theorem keepsTransport_modifyInfo (c : RtpConnection) (ch : MediaChannelId)
    {f : MediaChannelInfo → MediaChannelInfo}
    (hf : ∀ info, (f info).isSetup = info.isSetup ∧ (f info).rtpChannel = info.rtpChannel ∧
      (f info).isPlay = info.isPlay ∧ (f info).isRecord = info.isRecord) :
    c.KeepsTransport (c.modifyInfo ch f) := by
  refine ⟨rfl, rfl, ⟨rfl, rfl⟩, fun ch' => ⟨?_, ?_⟩, fun ch' hact => .inr ?_⟩
  · exact c.modifyInfo_proj ch ch' (·.isSetup) fun info => (hf info).1
  · exact c.modifyInfo_proj ch ch' (·.rtpChannel) fun info => (hf info).2.1
  · have hflags : (c.modifyInfo ch f).isActive ch' = c.isActive ch' :=
      c.modifyInfo_proj ch ch' (fun info => info.isPlay || info.isRecord) fun info => by
        rw [(hf info).2.2.1, (hf info).2.2.2]
    rw [← hflags]
    exact hact

/-- An operation that changes the flags of the channels: it starts those that
are set up, or stops. -/
theorem keepsTransport_mapInfo (c : RtpConnection) {f : MediaChannelInfo → MediaChannelInfo}
    (hf : ∀ info, (f info).isSetup = info.isSetup ∧ (f info).rtpChannel = info.rtpChannel ∧
      (((f info).isPlay || (f info).isRecord) = true →
        info.isSetup = true ∨ (info.isPlay || info.isRecord) = true)) :
    c.KeepsTransport (c.mapInfo f) :=
  ⟨rfl, rfl, ⟨rfl, rfl⟩, fun _ => ⟨(hf _).1, (hf _).2.1⟩, fun _ => (hf _).2.2⟩

theorem keepsTransport_play (c : RtpConnection) : c.KeepsTransport c.play := by
  refine keepsTransport_mapInfo c fun info => ?_
  split
  · next h => exact ⟨rfl, rfl, fun _ => .inl h⟩
  · exact ⟨rfl, rfl, .inr⟩

theorem keepsTransport_teardown (c : RtpConnection) : c.KeepsTransport c.teardown := by
  unfold teardown
  split
  · exact .refl c
  · exact ⟨rfl, rfl, ⟨rfl, rfl⟩, fun _ => ⟨rfl, rfl⟩, fun _ h => by cases h⟩

theorem keepsTransport_prepare (c : RtpConnection) (ch : MediaChannelId) (pkt : RtpPacket) :
    c.KeepsTransport (c.prepare ch pkt).1 := by
  have hframe : c.KeepsTransport (c.setFrameType pkt.type) := by
    obtain ⟨hasIDRFrame, h⟩ := c.setFrameType_eq pkt.type
    rw [h]
    exact ⟨rfl, rfl, ⟨rfl, rfl⟩, fun _ => ⟨rfl, rfl⟩, fun _ => .inr⟩
  rcases prepare_cases c ch pkt with ⟨-, h⟩ | ⟨-, h⟩
  · rw [h]
    have hstamp := keepsTransport_modifyInfo (c.setFrameType pkt.type) ch
      (f := fun info => { info with
        rtpHeader := nextHeader (c.mediaChannelInfo ch) pkt
        packetSeq := info.packetSeq + 1 }) fun _ => ⟨rfl, rfl, rfl, rfl⟩
    exact hframe.trans hstamp
  · rw [h]
    exact hframe

theorem keepsTransport_sendTask {c c' : RtpConnection} {tcpConn : Option TcpPeer}
    {sendtoFails : Bool} {ch : MediaChannelId} {pkt : RtpPacket} {out : List Transmission}
    (h : c.sendTask tcpConn sendtoFails ch pkt = .ok (c', out)) : c.KeepsTransport c' := by
  rcases sendTask_conn h with rfl | rfl
  · exact keepsTransport_prepare c ch pkt
  · exact (keepsTransport_prepare c ch pkt).trans (keepsTransport_teardown _)

end RtpConnection

namespace RtpConnection

open SetupRecord

/-- **A channel is what its SETUPs made it.** It is set up when one of them
succeeded. Its numbers are those of the last that succeeded, for a set-up writes over
what another has left; but the socket of this may be `lost` to one that failed later. -/
structure ReflectsOn (c : RtpConnection) (setups : List SetupRecord) (ch : MediaChannelId) :
    Prop where
  isSetup : (c.mediaChannelInfo ch).isSetup = (lastSetup setups ch).isSome
  active : c.isActive ch = true → (c.mediaChannelInfo ch).isSetup = true
  tcp : ∀ r, lastSetup setups ch = some r → r.outcome = some .rtpOverTcp →
    (c.mediaChannelInfo ch).rtpChannel = r.request.getRtpChannel.toUInt16
  udp : ∀ r, lastSetup setups ch = some r → r.outcome = some .rtpOverUdp →
    (c.rtpfd ch ∈ openFor setups ch ↔ lost setups ch = false) ∧
    ∀ peer, r.peerName = some peer →
      c.peerRtpAddr ch = ⟨afInet, peer.addr, htons r.request.getRtcpPort⟩ ∧
      c.peerRtcpAddr ch = ⟨afInet, peer.addr, htons r.request.getRtcpPort⟩

/-- **The connection is what its SETUPs made it.** `inUse` are the descriptors
of the process. -/
structure Reflects (c : RtpConnection) (setups : List SetupRecord) (inUse : Finset ℤ) :
    Prop where
  mode : ∀ m, lastMode setups = some m → c.transportMode = m
  open_subset : ∀ ch, openFor setups ch ⊆ inUse
  channel : ∀ ch, c.ReflectsOn setups ch

theorem Reflects.of_keeps {c c' : RtpConnection} {setups : List SetupRecord} {inUse : Finset ℤ}
    (h : c.Reflects setups inUse) (hkeeps : c.KeepsTransport c') : c'.Reflects setups inUse := by
  refine ⟨?_, h.open_subset, fun ch => ⟨?_, fun hact => ?_, fun r hr ho => ?_, fun r hr ho => ?_⟩⟩
  · rw [hkeeps.transportMode]
    exact h.mode
  · rw [(hkeeps.channel ch).1]
    exact (h.channel ch).isSetup
  · rw [(hkeeps.channel ch).1]
    exact (hkeeps.active ch hact).elim id (h.channel ch).active
  · rw [(hkeeps.channel ch).2]
    exact (h.channel ch).tcp r hr ho
  · rw [hkeeps.rtpfd, hkeeps.peers.1, hkeeps.peers.2]
    exact (h.channel ch).udp r hr ho

/-- A SETUP of another channel. -/
theorem ReflectsOn.of_frame {c c' : RtpConnection} {setups : List SetupRecord}
    {ch : MediaChannelId} (h : c.ReflectsOn setups ch) {r : SetupRecord}
    (hch : r.request.channelId ≠ ch) (hinfo : c'.mediaChannelInfo ch = c.mediaChannelInfo ch)
    (hrtpfd : c'.rtpfd ch = c.rtpfd ch) (hpeers : c'.peerRtpAddr ch = c.peerRtpAddr ch ∧
      c'.peerRtcpAddr ch = c.peerRtcpAddr ch) : c'.ReflectsOn (r :: setups) ch := by
  have hlast : lastSetup (r :: setups) ch = lastSetup setups ch :=
    lastSetup_cons_of_not (fun h => absurd h hch) setups
  have hopen : openFor (r :: setups) ch = openFor setups ch := if_neg hch
  have hlost : lost (r :: setups) ch = lost setups ch := if_neg hch
  refine ⟨?_, ?_, ?_, ?_⟩
  · rw [hinfo, hlast]
    exact h.isSetup
  · unfold isActive
    rw [hinfo]
    exact h.active
  · rw [hinfo, hlast]
    exact h.tcp
  · rw [hlast, hopen, hlost, hrtpfd, hpeers.1, hpeers.2]
    exact h.udp

/-- A SETUP that set nothing up. -/
theorem Reflects.refused {c : RtpConnection} {setups : List SetupRecord} {inUse : Finset ℤ}
    (h : c.Reflects setups inUse) {r : SetupRecord} (hasked : r.asked = none)
    (hcalls : r.calls = []) : c.Reflects (r :: setups) inUse := by
  have hout : r.outcome = none := by
    unfold outcome
    rw [hasked, ite_self]
  have hopen : ∀ ch, openFor (r :: setups) ch = openFor setups ch := by
    intro ch
    rw [openFor, hcalls]
    exact ite_self _
  have hlost : ∀ ch, lost (r :: setups) ch = lost setups ch := by
    intro ch
    rw [lost, hout, hasked]
    exact ite_self _
  refine ⟨?_, fun ch => ?_, fun ch => ?_⟩
  · rw [lastMode_cons, hout]
    exact h.mode
  · rw [hopen]
    exact h.open_subset ch
  · obtain ⟨hsetup, hactive, htcp, hudp⟩ := h.channel ch
    rw [← lastSetup_cons_of_not (fun _ => hout) setups] at hsetup htcp hudp
    rw [← hopen, ← hlost] at hudp
    exact ⟨hsetup, hactive, htcp, hudp⟩

/-- A new connection, when nothing was set up. -/
theorem reflects_new (garbage : RtpConnection) (rd : ℕ → UInt32) {setups : List SetupRecord}
    (h : ∀ r ∈ setups, r.asked = none ∧ r.calls = []) (inUse : Finset ℤ) :
    (RtpConnection.new garbage rd).Reflects setups inUse := by
  induction setups with
  | nil =>
    refine ⟨fun m hm => ?_, fun ch => Finset.empty_subset _, fun ch =>
      ⟨rfl, fun h => ?_, fun r hr => ?_, fun r hr => ?_⟩⟩
    · cases hm
    · cases h
    · cases hr
    · cases hr
  | cons r setups ih =>
    obtain ⟨⟨hasked, hcalls⟩, h⟩ := List.forall_mem_cons.mp h
    exact (ih h).refused hasked hcalls

/-- A SETUP over TCP. -/
theorem Reflects.setupTcp {c : RtpConnection} {setups : List SetupRecord} {inUse : Finset ℤ}
    (h : c.Reflects setups inUse) {r : SetupRecord} (hout : r.outcome = some .rtpOverTcp)
    (hcalls : r.calls = []) (tcp : TcpPeer) (rtcpChannel : UInt16) :
    (c.setupRtpOverTcp (some tcp) r.request.channelId r.request.getRtpChannel.toUInt16
      rtcpChannel).2.Reflects (r :: setups) inUse := by
  refine ⟨fun m hm => ?_, fun ch => ?_, fun ch => ?_⟩
  · rw [lastMode_cons, hout] at hm
    cases hm
    rfl
  · rw [openFor, hcalls]
    show (if _ then openFor setups ch else _) ⊆ _
    rw [ite_self]
    exact h.open_subset ch
  · by_cases hch : r.request.channelId = ch
    · subst hch
      have hlast := lastSetup_cons_self hout setups
      have hinfo : (c.setupRtpOverTcp (some tcp) r.request.channelId
          r.request.getRtpChannel.toUInt16 rtcpChannel).2.mediaChannelInfo r.request.channelId
          = { c.mediaChannelInfo r.request.channelId with
              rtpChannel := r.request.getRtpChannel.toUInt16
              rtcpChannel := rtcpChannel
              isSetup := true } := Function.update_self ..
      refine ⟨?_, fun _ => ?_, fun r' hr' _ => ?_, fun r' hr' ho => ?_⟩
      · rw [hlast, hinfo]; rfl
      · rw [hinfo]
      · rw [hlast] at hr'
        cases hr'
        rw [hinfo]
      · rw [hlast] at hr'
        cases hr'
        rw [hout] at ho
        cases ho
    · have hne : ch ≠ r.request.channelId := Ne.symm hch
      exact (h.channel ch).of_frame hch (Function.update_of_ne hne ..)
        (Function.update_of_ne hne ..) ⟨rfl, rfl⟩

/-- The channels that a SETUP over UDP is not about. -/
theorem UdpSetUp.reflectsOn {c c' : RtpConnection} {setups : List SetupRecord}
    {r : SetupRecord} {tcp : TcpPeer} {rtpPort rtcpPort : UInt16} {ok : Bool}
    (h : UdpSetUp c tcp r.request.channelId rtpPort rtcpPort ok c') {ch : MediaChannelId}
    (hch : r.request.channelId ≠ ch) (hold : c.ReflectsOn setups ch) :
    c'.ReflectsOn (r :: setups) ch := by
  have hne : ch ≠ r.request.channelId := Ne.symm hch
  refine hold.of_frame hch ?_ (h.descriptors ch hne).1 ⟨?_, ?_⟩
  · rw [h.mediaChannelInfo, Function.update_of_ne hne]
  · rw [h.peers.1]
    split
    · exact Function.update_of_ne hne ..
    · rfl
  · rw [h.peers.2]
    split
    · exact Function.update_of_ne hne ..
    · rfl

/-- The flags of the channel of a SETUP over UDP. -/
theorem UdpSetUp.info {c c' : RtpConnection} {tcp : TcpPeer} {ch : MediaChannelId}
    {rtpPort rtcpPort : UInt16} {ok : Bool} (h : UdpSetUp c tcp ch rtpPort rtcpPort ok c') :
    (c'.mediaChannelInfo ch).isSetup = (ok || (c.mediaChannelInfo ch).isSetup) ∧
    (c'.mediaChannelInfo ch).rtpChannel = (c.mediaChannelInfo ch).rtpChannel ∧
    c'.isActive ch = c.isActive ch := by
  unfold isActive
  rw [h.mediaChannelInfo, Function.update_self]
  exact ⟨rfl, rfl, rfl⟩

/-- A SETUP over UDP that found no ports. -/
theorem Reflects.setupUdp_failed {c c' : RtpConnection} {setups : List SetupRecord}
    {inUse : Finset ℤ} (h : c.Reflects setups inUse) {r : SetupRecord}
    (hasked : r.asked = some .rtpOverUdp) (hfail : r.succeeded = false) {tcp : TcpPeer}
    {rtpPort rtcpPort : UInt16}
    (hspec : UdpSetUp c tcp r.request.channelId rtpPort rtcpPort false c')
    (hafter : after (openFor setups r.request.channelId) (uses r.calls)
      = openFor setups r.request.channelId)
    (hrtpfd : c'.rtpfd r.request.channelId ∉ inUse) : c'.Reflects (r :: setups) inUse := by
  have hout : r.outcome = none := by
    unfold outcome
    rw [hfail]
    rfl
  have hlast : ∀ ch, lastSetup (r :: setups) ch = lastSetup setups ch := fun ch =>
    lastSetup_cons_of_not (fun _ => hout) setups
  have hopen : ∀ ch, openFor (r :: setups) ch = openFor setups ch := by
    intro ch
    rw [openFor]
    split
    · next hch => subst hch; exact hafter
    · rfl
  refine ⟨fun m hm => ?_, fun ch => ?_, fun ch => ?_⟩
  · rw [lastMode_cons, hout] at hm
    rw [hspec.transportMode]
    exact h.mode m hm
  · rw [hopen]
    exact h.open_subset ch
  · by_cases hch : r.request.channelId = ch
    · subst hch
      obtain ⟨hsetup, hchannel, hactive⟩ := hspec.info
      have hold := h.channel r.request.channelId
      rw [Bool.false_or] at hsetup
      refine ⟨?_, fun hact => ?_, fun r' hr' ho => ?_, fun r' hr' ho => ⟨?_, ?_⟩⟩
      · rw [hsetup, hlast]
        exact hold.isSetup
      · rw [hactive] at hact
        rw [hsetup]
        exact hold.active hact
      · rw [hlast] at hr'
        rw [hchannel]
        exact hold.tcp r' hr' ho
      · -- the number in `_rtpfd` is that of a socket that is closed again
        have hlost : lost (r :: setups) r.request.channelId = true := by
          rw [lost, if_pos rfl, hout, hasked]
          rfl
        rw [hopen, hlost]
        exact iff_of_false (fun hmem => hrtpfd (h.open_subset _ hmem)) Bool.noConfusion
      · rw [hlast] at hr'
        rw [hspec.peers.1, hspec.peers.2]
        exact (hold.udp r' hr' ho).2
    · exact hspec.reflectsOn hch (h.channel ch)

/-- A SETUP over UDP that left two sockets open. -/
theorem Reflects.setupUdp_opened {c c' : RtpConnection} {setups : List SetupRecord}
    {inUse : Finset ℤ} (h : c.Reflects setups inUse) {r : SetupRecord}
    (hout : r.outcome = some .rtpOverUdp) {tcp : TcpPeer} (hpeer : r.peerName = tcp.peerName)
    (hspec : UdpSetUp c tcp r.request.channelId r.request.getRtpPort r.request.getRtcpPort true c')
    {p q : ℤ} (hafter : after (openFor setups r.request.channelId) (uses r.calls)
      = insert q (insert p (openFor setups r.request.channelId)))
    (hrtpfd : c'.rtpfd r.request.channelId = p) :
    c'.Reflects (r :: setups) (insert q (insert p inUse)) := by
  have hlast : lastSetup (r :: setups) r.request.channelId = some r :=
    lastSetup_cons_self hout setups
  have hsub : inUse ⊆ insert q (insert p inUse) :=
    (Finset.subset_insert p _).trans (Finset.subset_insert q _)
  refine ⟨fun m hm => ?_, fun ch => ?_, fun ch => ?_⟩
  · rw [lastMode_cons, hout] at hm
    cases hm
    exact hspec.transportMode
  · rw [openFor]
    split
    · next hch =>
      subst hch
      rw [hafter]
      exact Finset.insert_subset_insert _ (Finset.insert_subset_insert _ (h.open_subset _))
    · exact (h.open_subset ch).trans hsub
  · by_cases hch : r.request.channelId = ch
    · subst hch
      obtain ⟨hsetup, -, -⟩ := hspec.info
      rw [Bool.true_or] at hsetup
      refine ⟨?_, fun _ => hsetup, fun r' hr' ho => ?_, fun r' hr' _ => ⟨?_, fun peer hname => ?_⟩⟩
      · rw [hsetup, hlast]
        rfl
      · rw [hlast] at hr'
        cases hr'
        rw [hout] at ho
        cases ho
      · have hlost : lost (r :: setups) r.request.channelId = false := by
          rw [lost, if_pos rfl, hout]
          rfl
        rw [openFor, if_pos rfl, hafter, hrtpfd, hlost]
        exact iff_of_true (Finset.mem_insert_of_mem (Finset.mem_insert_self p _)) rfl
      · rw [hlast] at hr'
        cases hr'
        rw [hpeer] at hname
        rw [hspec.peers.1, hspec.peers.2, hname]
        exact ⟨Function.update_self .., Function.update_self ..⟩
    · exact hspec.reflectsOn hch (h.channel ch)

/-- A SETUP over UDP, whether it found ports or not. -/
theorem Reflects.setupUdp {c c' : RtpConnection} {setups : List SetupRecord} {inUse : Finset ℤ}
    (h : c.Reflects setups inUse) {r : SetupRecord} (hasked : r.asked = some .rtpOverUdp)
    {tcp : TcpPeer} {attempts : Fin 10 → UdpAttempt}
    (hres : c.setupRtpOverUdp (some tcp) attempts r.request.channelId r.request.getRtpPort
      r.request.getRtcpPort = (r.succeeded, c', r.calls))
    (hpeer : r.peerName = tcp.peerName) (hfresh : Fresh inUse (uses r.calls)) :
    c'.Reflects (r :: setups) (after inUse (uses r.calls)) := by
  obtain ⟨hok, hcalls, hrtpfd, -, hspec⟩ := setupRtpOverUdp_spec c tcp attempts
    r.request.channelId r.request.getRtpPort r.request.getRtcpPort
  rw [hres] at hok hcalls hrtpfd hspec
  dsimp only at hok hcalls hrtpfd hspec
  have hsub := h.open_subset r.request.channelId
  have hself := Finset.Subset.refl inUse
  rw [hcalls] at hfresh
  cases hbound : boundAttempt (List.ofFn attempts) with
  | none =>
    obtain ⟨hfail, -, hafter, hfd⟩ := openPorts_failed hsub _ _ hbound hfresh
    obtain ⟨-, -, hinUse, -⟩ := openPorts_failed hself _ _ hbound hfresh
    rw [← hcalls] at hafter hinUse
    rw [hfail] at hok hspec
    rw [← hrtpfd] at hfd
    rw [hinUse]
    refine h.setupUdp_failed hasked hok hspec hafter (hfd.resolve_right fun hnil => ?_)
    exact absurd (congrArg List.length hnil.2) (by rw [List.length_ofFn]; decide)
  | some a =>
    obtain ⟨hdone, hp, -, -, hafter, -⟩ := openPorts_opened hsub _ _ hbound hfresh
    obtain ⟨-, -, -, -, hinUse, -⟩ := openPorts_opened hself _ _ hbound hfresh
    rw [← hcalls] at hafter hinUse
    rw [hdone] at hok hspec
    have hout : r.outcome = some .rtpOverUdp := by
      unfold outcome
      rw [hok, hasked]
      rfl
    rw [hinUse]
    exact h.setupUdp_opened hout hpeer hspec hafter ((congrFun hrtpfd _).trans hp)

end RtpConnection
