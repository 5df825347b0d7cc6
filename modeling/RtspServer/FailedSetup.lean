import RtspServer.SocketOwnership
import RtspServer.RtpRun

/-!
# A set-up over UDP that fails

`setupRtpOverUdp` writes the ports and descriptors of its channel round by
round, before it knows whether it will find two ports, and the ports of the
client before that. When all ten rounds fail the channel keeps what the last
one wrote: the number of a socket that is closed again, on a channel that may
be playing at that time. Only when the TCP connection is gone does a failed
set-up leave its channel alone.

The operations that are not set-ups join those of `SocketOwnership` here. In a
run in which every set-up over UDP finds its ports, and the TCP connection
outlives the channels that are set up over it, a channel that is set up has
open descriptors of its own to send on (`sendsOnOpen_of_run`).
-/

open ResourceTable
open SysCall (uses uses_append)

namespace RtpConnection

/-! ## The operations that set nothing up -/

/-- Neither the descriptors are changed nor which channels are set up. -/
structure KeepsSockets (c c' : RtpConnection) : Prop where
  descriptors : c'.rtpfd = c.rtpfd ∧ c'.rtcpfd = c.rtcpfd
  isSetup : ∀ ch, (c'.mediaChannelInfo ch).isSetup = (c.mediaChannelInfo ch).isSetup

theorem KeepsSockets.trans {c c' c'' : RtpConnection} (h : c.KeepsSockets c')
    (h' : c'.KeepsSockets c'') : c.KeepsSockets c'' :=
  ⟨⟨h'.descriptors.1.trans h.descriptors.1, h'.descriptors.2.trans h.descriptors.2⟩,
    fun ch => (h'.isSetup ch).trans (h.isSetup ch)⟩

theorem keepsSockets_modifyInfo (c : RtpConnection) (ch : MediaChannelId)
    {f : MediaChannelInfo → MediaChannelInfo} (hf : ∀ info, (f info).isSetup = info.isSetup) :
    c.KeepsSockets (c.modifyInfo ch f) :=
  ⟨⟨rfl, rfl⟩, fun ch' => c.modifyInfo_proj ch ch' (·.isSetup) hf⟩

theorem keepsSockets_mapInfo (c : RtpConnection) {f : MediaChannelInfo → MediaChannelInfo}
    (hf : ∀ info, (f info).isSetup = info.isSetup) : c.KeepsSockets (c.mapInfo f) :=
  ⟨⟨rfl, rfl⟩, fun _ => hf _⟩

theorem keepsSockets_teardown (c : RtpConnection) : c.KeepsSockets c.teardown := by
  unfold teardown
  split
  · exact ⟨⟨rfl, rfl⟩, fun _ => rfl⟩
  · exact ⟨⟨rfl, rfl⟩, fun _ => rfl⟩

theorem keepsSockets_prepare (c : RtpConnection) (ch : MediaChannelId) (pkt : RtpPacket) :
    c.KeepsSockets (c.prepare ch pkt).1 := by
  have hframe : c.KeepsSockets (c.setFrameType pkt.type) := by
    obtain ⟨hasIDRFrame, h⟩ := c.setFrameType_eq pkt.type
    rw [h]
    exact ⟨⟨rfl, rfl⟩, fun _ => rfl⟩
  rcases prepare_cases c ch pkt with ⟨-, h⟩ | ⟨-, h⟩
  · rw [h]
    have hstamp := keepsSockets_modifyInfo (c.setFrameType pkt.type) ch
      (f := fun info => { info with
        rtpHeader := nextHeader (c.mediaChannelInfo ch) pkt
        packetSeq := info.packetSeq + 1 }) fun _ => rfl
    exact hframe.trans hstamp
  · rw [h]
    exact hframe

/-- The operation is a set-up. -/
def Op.isSetup : Op → Bool
  | .setupRtpOverTcp .. => true
  | .setupRtpOverUdp .. => true
  | _ => false

/-- **Only a set-up changes the descriptors**, or sets a channel up. -/
theorem keepsSockets_exec {c c' : RtpConnection} {op : Op} (h : c.exec op = .ok c')
    (hop : op.isSetup = false) : c.KeepsSockets c' := by
  cases op with
  | setClockRate ch clockRate =>
    cases h
    exact keepsSockets_modifyInfo c ch (f := fun info => { info with clockRate := clockRate })
      fun _ => rfl
  | setPayloadType ch payload =>
    cases h
    exact keepsSockets_modifyInfo c ch (f := fun info =>
      { info with rtpHeader := { info.rtpHeader with payload := .ofNat 7 payload.toNat } })
      fun _ => rfl
  | setupRtpOverTcp tcpConn ch rtpChannel rtcpChannel => cases hop
  | setupRtpOverUdp tcpConn attempts ch rtpPort rtcpPort => cases hop
  | play =>
    cases h
    refine keepsSockets_mapInfo c fun info => ?_
    split <;> rfl
  | record =>
    cases h
    refine keepsSockets_mapInfo c fun info => ?_
    split <;> rfl
  | teardown =>
    cases h
    exact keepsSockets_teardown c
  | task tcpConn sendtoFails ch pkt =>
    obtain ⟨⟨d, out⟩, hsend, rfl⟩ := Except.map_eq_ok_iff.mp h
    rcases sendTask_conn hsend with rfl | rfl
    · exact keepsSockets_prepare c ch pkt
    · exact (keepsSockets_prepare c ch pkt).trans (keepsSockets_teardown _)

/-- **One channel is set up**, and the other is as it was. -/
structure SetsUp (c c' : RtpConnection) (ch : MediaChannelId) : Prop where
  isSetup : (c'.mediaChannelInfo ch).isSetup = true
  other : ∀ ch' ≠ ch, c'.rtpfd ch' = c.rtpfd ch' ∧ c'.rtcpfd ch' = c.rtcpfd ch' ∧
    c'.mediaChannelInfo ch' = c.mediaChannelInfo ch'

/-- A set-up over TCP gives its channel the descriptor of the connection. -/
theorem setsUp_setupRtpOverTcp (c : RtpConnection) (tcp : TcpPeer) (ch : MediaChannelId)
    (a b : UInt16) :
    let c' := (c.setupRtpOverTcp (some tcp) ch a b).2
    c.SetsUp c' ch ∧ c'.rtpfd ch = tcp.fd ∧ c'.rtcpfd ch = tcp.fd := by
  refine ⟨⟨?_, fun ch' h => ⟨?_, ?_, ?_⟩⟩, Function.update_self .., Function.update_self ..⟩
  · show (Function.update c.mediaChannelInfo ch _ ch).isSetup = true
    rw [Function.update_self]
  · exact Function.update_of_ne h ..
  · exact Function.update_of_ne h ..
  · exact Function.update_of_ne h ..

theorem UdpSetUp.setsUp {c c' : RtpConnection} {tcp : TcpPeer} {ch : MediaChannelId}
    {a b : UInt16} (h : UdpSetUp c tcp ch a b true c') : c.SetsUp c' ch := by
  refine ⟨?_, fun ch' hch => ⟨(h.descriptors ch' hch).1, (h.descriptors ch' hch).2, ?_⟩⟩
  · rw [h.mediaChannelInfo, Function.update_self]
    rfl
  · rw [h.mediaChannelInfo, Function.update_of_ne hch]

/-! ## Runs with all operations -/

/-- What happens to an `RtpConnection`: a step that concerns its descriptors,
or an operation that is not a set-up. -/
inductive ChannelEvent where
  | descriptors (e : SocketEvent)
  | operation (op : Op)

/-- **One step.** -/
inductive ChannelStep : SocketState → ChannelEvent → SocketState → Prop where
  | descriptors {s s' : SocketState} {e : SocketEvent} (h : SocketStep s e s') :
      ChannelStep s (.descriptors e) s'
  | operation {s : SocketState} {op : Op} {c : RtpConnection} (halive : s.destroyed = false)
      (hop : op.isSetup = false) (hexec : s.conn.exec op = .ok c) :
      ChannelStep s (.operation op) { s with conn := c }

/-- **The channel is as it was**: ports, descriptors, destination addresses,
and everything in its `MediaChannelInfo`. -/
structure SameChannel (c c' : RtpConnection) (ch : MediaChannelId) : Prop where
  ports : c'.localRtpPort ch = c.localRtpPort ch ∧ c'.localRtcpPort ch = c.localRtcpPort ch
  descriptors : c'.rtpfd ch = c.rtpfd ch ∧ c'.rtcpfd ch = c.rtcpfd ch
  peers : c'.peerRtpAddr ch = c.peerRtpAddr ch ∧ c'.peerRtcpAddr ch = c.peerRtcpAddr ch
  info : c'.mediaChannelInfo ch = c.mediaChannelInfo ch

namespace SocketState

/-- An `RtpConnection` from its construction on, with all its operations. -/
def channelSystem : System SocketState ChannelEvent where
  init := system.init
  step := ChannelStep

/-- **A set-up over UDP that returns `false` leaves its channel as it was**,
and the descriptors open that were open. So an error that the client is answered
with has cost it nothing, and it may try again or play what was set up before. -/
def LeavesChannel (s : SocketState) (e : ChannelEvent) (s' : SocketState) : Prop :=
  ∀ peerName attempts ch rtpPort rtcpPort,
    e = .descriptors (.setupRtpOverUdp peerName attempts ch rtpPort rtcpPort) →
    (s.conn.setupRtpOverUdp (s.peer peerName) attempts ch rtpPort rtcpPort).1 = false →
    s.conn.SameChannel s'.conn ch ∧ s.inUse ⊆ s'.inUse

/-- The number is that of an open socket of the connection's own, or of the
socket of its TCP connection. -/
def Open (s : SocketState) (fd : ℤ) : Prop := fd ∈ s.inUse ∧ (fd ∈ s.owned ∨ s.tcp = some fd)

/-- **A channel that is set up has open descriptors to send on**, its own or
that of the TCP connection. On a number that was closed the packets would go
to nobody, or to whoever has opened it since. -/
def SendsOnOpen (s : SocketState) : Prop :=
  s.destroyed = false → ∀ ch, (s.conn.mediaChannelInfo ch).isSetup = true →
    s.Open (s.conn.rtpfd ch) ∧ s.Open (s.conn.rtcpfd ch)

/-- **A set-up over UDP finds its two ports** in one of its rounds, unless the
TCP connection is gone; and this is not closed under a channel that is set up
over it. Ten rounds without success leave closed descriptors in the channel,
and its flag as it was: one that was set up before counts as set up still. With
the TCP connection gone no round is begun. -/
def FindsPorts (s : SocketState) : ChannelEvent → Prop
  | .descriptors (.setupRtpOverUdp _ attempts _ _ _) =>
    s.tcp = none ∨ (boundAttempt (List.ofFn attempts)).isSome
  | .descriptors .tcpClosed => s.destroyed = false → ∀ ch,
    (s.conn.mediaChannelInfo ch).isSetup = true →
      s.tcp ≠ some (s.conn.rtpfd ch) ∧ s.tcp ≠ some (s.conn.rtcpfd ch)
  | _ => True

/-! ## The invariant -/

/-- **What a set-up leaves in the descriptors** of a channel: two sockets of
its own, or twice the socket of the TCP connection. -/
def HoldsSockets (s : SocketState) (ch : MediaChannelId) : Prop :=
  (s.conn.rtpfd ch ∈ s.owned ∧ s.conn.rtcpfd ch ∈ s.owned) ∨
    (s.tcp = some (s.conn.rtpfd ch) ∧ s.tcp = some (s.conn.rtcpfd ch))

/-- **The invariant** while the connection is alive: what it owns is open, and so is
the socket of its TCP connection, which it does not own; a channel that is set up holds
sockets, and one that is not has the number 0 still. -/
structure Kept (s : SocketState) : Prop where
  owned_subset : s.owned ⊆ s.inUse
  tcp : ∀ fd, s.tcp = some fd → fd ∈ s.inUse ∧ fd ∉ s.owned
  holds : ∀ ch, (s.conn.mediaChannelInfo ch).isSetup = true → s.HoldsSockets ch
  unset : ∀ ch, (s.conn.mediaChannelInfo ch).isSetup = false → s.conn.rtpfd ch = 0

/-- A connection that is destroyed has no channels. -/
def KeptAlive (s : SocketState) : Prop := s.destroyed = false → s.Kept

theorem Kept.sendsOnOpen {s : SocketState} (hs : s.Kept) : s.SendsOnOpen := by
  intro _ ch hsetup
  rcases hs.holds ch hsetup with ⟨hrtp, hrtcp⟩ | ⟨hrtp, hrtcp⟩
  · exact ⟨⟨hs.owned_subset hrtp, .inl hrtp⟩, hs.owned_subset hrtcp, .inl hrtcp⟩
  · exact ⟨⟨(hs.tcp _ hrtp).1, .inr hrtp⟩, (hs.tcp _ hrtcp).1, .inr hrtcp⟩

theorem kept_init {s : SocketState} (h : channelSystem.init s) : s.Kept := by
  obtain ⟨garbage, rd, fd, inUse, hfd, rfl⟩ := h
  refine ⟨Finset.empty_subset _, ?_, fun ch hsetup => ?_, fun _ _ => rfl⟩
  · rintro fd' ⟨rfl⟩
    exact ⟨hfd, Finset.notMem_empty _⟩
  · cases hsetup

/-- A step that changes none of the channels that are set up. -/
theorem Kept.of_frame {s s' : SocketState} (hs : s.Kept) (howned : s'.owned = s.owned)
    (hinUse : s'.inUse = s.inUse) (htcp : s'.tcp = s.tcp) (hconn : s.conn.KeepsSockets s'.conn) :
    s'.Kept := by
  refine ⟨?_, ?_, fun ch hsetup => ?_, fun ch hunset => ?_⟩
  · rw [howned, hinUse]
    exact hs.owned_subset
  · rw [htcp, hinUse, howned]
    exact hs.tcp
  · rw [hconn.isSetup] at hsetup
    unfold HoldsSockets
    rw [howned, htcp, hconn.descriptors.1, hconn.descriptors.2]
    exact hs.holds ch hsetup
  · rw [hconn.isSetup] at hunset
    rw [hconn.descriptors.1]
    exact hs.unset ch hunset

/-- A channel is set up with sockets of its own, or the connection's. -/
theorem Kept.setsUp {s s' : SocketState} (hs : s.Kept) {ch : MediaChannelId}
    (hconn : s.conn.SetsUp s'.conn ch) (hsub : s.owned ⊆ s'.owned) (htcp : s'.tcp = s.tcp)
    (hholds : s'.HoldsSockets ch) (howned : s'.owned ⊆ s'.inUse)
    (hfd : ∀ fd, s.tcp = some fd → fd ∈ s'.inUse ∧ fd ∉ s'.owned) : s'.Kept := by
  refine ⟨howned, htcp ▸ hfd, fun ch' hsetup => ?_, fun ch' hunset => ?_⟩
  · by_cases hch : ch' = ch
    · subst hch
      exact hholds
    · obtain ⟨hrtp, hrtcp, hinfo⟩ := hconn.other ch' hch
      rw [hinfo] at hsetup
      rw [HoldsSockets, htcp, hrtp, hrtcp]
      exact (hs.holds ch' hsetup).imp_left fun h => ⟨hsub h.1, hsub h.2⟩
  · by_cases hch : ch' = ch
    · subst hch
      rw [hconn.isSetup] at hunset
      cases hunset
    · obtain ⟨hrtp, -, hinfo⟩ := hconn.other ch' hch
      rw [hinfo] at hunset
      rw [hrtp]
      exact hs.unset ch' hunset

theorem Kept.setupRtpOverTcp {s : SocketState} (hs : s.Kept) {ch : MediaChannelId}
    {a b : UInt16} : Kept { s with conn := (s.conn.setupRtpOverTcp (s.peer none) ch a b).2 } := by
  cases hpeer : s.peer none with
  | none => exact hs.of_frame rfl rfl rfl ⟨⟨rfl, rfl⟩, fun _ => rfl⟩
  | some tcp =>
    obtain ⟨fd, htcp, rfl⟩ := Option.map_eq_some_iff.mp hpeer
    obtain ⟨hsetsUp, hrtp, hrtcp⟩ := setsUp_setupRtpOverTcp s.conn ⟨fd, none⟩ ch a b
    refine hs.setsUp hsetsUp (Finset.Subset.refl _) rfl (.inr ⟨?_, ?_⟩) hs.owned_subset hs.tcp
    · exact htcp.trans (congrArg some hrtp.symm)
    · exact htcp.trans (congrArg some hrtcp.symm)

/-- A set-up over UDP that finds its ports. -/
theorem Kept.opened {s s' : SocketState} (hs : s.Kept) {ch : MediaChannelId} {p q : ℤ}
    (hp : p ∉ s.inUse) (hq : q ∉ insert p s.inUse)
    (howned : s'.owned = insert q (insert p s.owned))
    (hinUse : s'.inUse = insert q (insert p s.inUse)) (htcp : s'.tcp = s.tcp)
    (hfds : s'.conn.rtpfd ch = p ∧ s'.conn.rtcpfd ch = q) (hconn : s.conn.SetsUp s'.conn ch) :
    s'.Kept := by
  refine hs.setsUp hconn ?_ htcp (.inl ?_) ?_ fun fd h => ?_
  · rw [howned]
    exact (Finset.subset_insert p _).trans (Finset.subset_insert q _)
  · rw [howned, hfds.1, hfds.2]
    exact ⟨Finset.mem_insert_of_mem (Finset.mem_insert_self p _), Finset.mem_insert_self q _⟩
  · rw [howned, hinUse]
    exact Finset.insert_subset_insert _ (Finset.insert_subset_insert _ hs.owned_subset)
  · obtain ⟨hin, hnot⟩ := hs.tcp fd h
    have hfdp : fd ≠ p := fun heq => hp (heq ▸ hin)
    have hfdq : fd ≠ q := fun heq => hq (heq ▸ Finset.mem_insert_of_mem hin)
    rw [howned, hinUse]
    refine ⟨Finset.mem_insert_of_mem (Finset.mem_insert_of_mem hin), fun hmem => ?_⟩
    exact hnot (Finset.mem_of_mem_insert_of_ne (Finset.mem_of_mem_insert_of_ne hmem hfdq) hfdp)

theorem Kept.setupRtpOverUdp {s : SocketState} (hs : s.Kept) {peerName : Option SockAddr}
    {attempts : Fin 10 → UdpAttempt} {ch : MediaChannelId} {a b : UInt16} {ok : Bool}
    {c : RtpConnection} {calls : List SysCall}
    (hres : s.conn.setupRtpOverUdp (s.peer peerName) attempts ch a b = (ok, c, calls))
    (hfresh : Fresh s.inUse (uses calls))
    (hgood : s.FindsPorts (.descriptors (.setupRtpOverUdp peerName attempts ch a b))) :
    Kept { s.make calls with
      conn := c, opened := Function.update s.opened ch (ok || s.opened ch) } := by
  cases udpStep hs.owned_subset hres hfresh with
  | gone htcp => exact hs.of_frame (owned_make s []) rfl rfl ⟨⟨rfl, rfl⟩, fun _ => rfl⟩
  | failed hpeer hbound =>
    rcases hgood with htcp | hfound
    · rw [peer_eq_none.mpr htcp] at hpeer
      cases hpeer
    · rw [hbound] at hfound
      cases hfound
  | opened hpeer hbound hspec hreleases howned hinUse hp hq hfds =>
    -- the sockets that the channel had before stay open, though no field holds them
    exact hs.opened hp hq howned hinUse rfl hfds hspec.setsUp

theorem Kept.tcpClosed {s : SocketState} (hs : s.Kept) {fd : ℤ} (halive : s.destroyed = false)
    (htcp : s.tcp = some fd) (hgood : s.FindsPorts (.descriptors .tcpClosed)) :
    Kept { s with tcp := none, inUse := s.inUse.erase fd } := by
  refine ⟨Finset.subset_erase.mpr ⟨hs.owned_subset, (hs.tcp fd htcp).2⟩, fun fd' h => ?_,
    fun ch hsetup => ?_, hs.unset⟩
  · cases h
  · rcases hs.holds ch hsetup with howned | ⟨hrtp, -⟩
    · exact .inl howned
    · exact absurd hrtp (hgood halive ch hsetup).1

theorem Kept.openElsewhere {s : SocketState} (hs : s.Kept) (fd : ℤ) :
    Kept { s with inUse := insert fd s.inUse } :=
  ⟨hs.owned_subset.trans (Finset.subset_insert _ _),
    fun fd' h => ⟨Finset.mem_insert_of_mem (hs.tcp fd' h).1, (hs.tcp fd' h).2⟩, hs.holds,
    hs.unset⟩

theorem Kept.closeElsewhere {s : SocketState} (hs : s.Kept) {fd : ℤ} (hother : fd ∉ s.owned)
    (htcp : s.tcp ≠ some fd) : Kept { s with inUse := s.inUse.erase fd } := by
  refine ⟨Finset.subset_erase.mpr ⟨hs.owned_subset, hother⟩, fun fd' h => ⟨?_, (hs.tcp fd' h).2⟩,
    hs.holds, hs.unset⟩
  have hne : fd' ≠ fd := by
    rintro rfl
    exact htcp h
  exact Finset.mem_erase.mpr ⟨hne, (hs.tcp fd' h).1⟩

/-- **A step that finds its ports keeps the invariant.** -/
theorem KeptAlive.step {s s' : SocketState} {e : ChannelEvent} (hs : s.KeptAlive)
    (hgood : s.FindsPorts e) (h : ChannelStep s e s') : s'.KeptAlive := by
  intro halive
  cases h with
  | operation halive' hop hexec =>
    exact (hs halive').of_frame rfl rfl rfl (keepsSockets_exec hexec hop)
  | descriptors h =>
    cases h with
    | setupRtpOverTcp halive' => exact (hs halive').setupRtpOverTcp
    | setupRtpOverUdp halive' hres hfresh =>
      exact (hs halive').setupRtpOverUdp hres hfresh hgood
    | destroy _ => cases halive
    | tcpClosed htcp => exact (hs halive).tcpClosed halive htcp hgood
    | openElsewhere _ => exact (hs halive).openElsewhere _
    | closeElsewhere hother htcp => exact (hs halive).closeElsewhere hother htcp

/-! ## What a failed set-up leaves -/

/-- A set-up over UDP that finds its ports fails only when the TCP connection
is gone, and then it has done nothing. -/
theorem leavesChannel_of_findsPorts {s s' : SocketState} {e : ChannelEvent}
    (hs : s.KeptAlive) (h : ChannelStep s e s') (hgood : s.FindsPorts e) :
    s.LeavesChannel e s' := by
  rintro peerName attempts ch a b rfl hfail
  obtain ⟨h⟩ := h
  obtain _ | ⟨halive, hres, hfresh⟩ := h
  rw [hres] at hfail
  cases udpStep (hs halive).owned_subset hres hfresh with
  | gone _ => exact ⟨⟨⟨rfl, rfl⟩, ⟨rfl, rfl⟩, ⟨rfl, rfl⟩, rfl⟩, Finset.Subset.refl _⟩
  | failed hpeer hbound =>
    rcases hgood with htcp | hfound
    · rw [peer_eq_none.mpr htcp] at hpeer
      cases hpeer
    · rw [hbound] at hfound
      cases hfound
  | opened => cases hfail

/-- **A set-up over UDP that finds no ports changes its channel**: the number
in `_rtpfd` was open before, and now it is that of a socket that is closed. -/
theorem findsPorts_of_leavesChannel {s s' : SocketState} {e : ChannelEvent}
    (hs : s.KeptAlive) (hstdin : 0 ∈ s.inUse) (h : ChannelStep s e s')
    (hleaves : s.LeavesChannel e s') (hsends : s'.SendsOnOpen) : s.FindsPorts e := by
  cases h with
  | operation => trivial
  | descriptors h =>
    cases h with
    | setupRtpOverTcp _ => trivial
    | destroy _ => trivial
    | openElsewhere _ => trivial
    | closeElsewhere _ _ => trivial
    | tcpClosed htcp =>
      intro halive ch hsetup
      obtain ⟨hrtp, hrtcp⟩ := hsends halive ch hsetup
      rw [htcp]
      exact ⟨fun heq => Finset.ne_of_mem_erase hrtp.1 (Option.some.inj heq).symm,
        fun heq => Finset.ne_of_mem_erase hrtcp.1 (Option.some.inj heq).symm⟩
    | @setupRtpOverUdp peerName attempts ch a b ok c calls halive hres hfresh _ =>
      cases udpStep (hs halive).owned_subset hres hfresh with
      | gone htcp => exact .inl htcp
      | opened _ hbound => exact .inr (hbound ▸ rfl)
      | failed hpeer hbound hspec hreleases howned hinUse hrtpfd =>
        -- the number left in the field was free, and the one before is in use
        have hsame : c.rtpfd ch = s.conn.rtpfd ch :=
          (hleaves _ _ _ _ _ rfl (congrArg (·.1) hres)).1.descriptors.1
        refine absurd ?_ hrtpfd
        rw [hsame]
        cases hsetup : (s.conn.mediaChannelInfo ch).isSetup with
        | true => exact ((hs halive).sendsOnOpen halive ch hsetup).1.1
        | false =>
          rw [(hs halive).unset ch hsetup]
          exact hstdin

/-- **A channel that is set up has open descriptors to send on**, in every
state that is reached by steps that find their ports; the next set-up over UDP
that fails leaves its channel as it was if it is one of them, and with the
standard input open only then. -/
theorem sendsOnOpen_of_run {es : List ChannelEvent} {s : SocketState}
    (hrun : (channelSystem.restrict FindsPorts).Run es s) :
    s.SendsOnOpen ∧ ∀ e s', ChannelStep s e s' →
      (s.FindsPorts e → s.LeavesChannel e s') ∧
      (0 ∈ s.inUse → s.LeavesChannel e s' → s'.SendsOnOpen → s.FindsPorts e) := by
  have hkept : s.KeptAlive := by
    refine System.Run.invariant (S := channelSystem.restrict FindsPorts) ?_ ?_ hrun
    · intro s hs _
      exact kept_init hs
    · rintro s e s' hs ⟨hgood, hstep⟩
      exact KeptAlive.step hs hgood hstep
  refine ⟨fun halive => (hkept halive).sendsOnOpen halive, fun e s' hstep => ⟨?_, ?_⟩⟩
  · exact leavesChannel_of_findsPorts hkept hstep
  · exact fun hstdin => findsPorts_of_leavesChannel hkept hstdin hstep

/-! ## Two set-ups of one channel -/

/-- A channel whose second round found both ports. -/
theorem sendsOnOpen_udpClient :
    (udpClient.conn.mediaChannelInfo .channel0).isSetup = true ∧ udpClient.SendsOnOpen := by
  have hrun : (channelSystem.restrict FindsPorts).Run [] client := .nil init_client
  have hstep : ChannelStep client (.descriptors (.setupRtpOverUdp none secondRound .channel0
      5000 5001)) udpClient := .descriptors step_udpClient
  have hfinds : client.FindsPorts (.descriptors (.setupRtpOverUdp none secondRound .channel0
      5000 5001)) := Or.inr rfl
  exact ⟨rfl, (sendsOnOpen_of_run (hrun.snoc ⟨hfinds, hstep⟩)).1⟩

/-- The same channel playing. -/
def playingClient : SocketState := { udpClient with conn := udpClient.conn.play }

/-- Ten rounds in which the RTP port is taken. -/
def noRound (i : Fin 10) : UdpAttempt := ⟨30000 + 2 * i.val.toUInt32, 10, false, 11, false⟩

/-- The client after a SETUP of the playing channel that found no ports. -/
def lostClient : SocketState :=
  let r := playingClient.conn.setupRtpOverUdp (playingClient.peer none) noRound .channel0 6000 6001
  { playingClient.make r.2.2 with
    conn := r.2.1
    opened := Function.update playingClient.opened .channel0 true }

theorem step_lostClient : SocketStep playingClient
    (.setupRtpOverUdp none noRound .channel0 6000 6001) lostClient := by
  let r := playingClient.conn.setupRtpOverUdp (playingClient.peer none) noRound .channel0 6000 6001
  have hfresh : Fresh playingClient.inUse (uses r.2.2) := by decide
  have hcalls : r.2.2 = (List.finRange 10).flatMap fun i =>
      [.socket 10, .bind 10 (30000 + 2 * i.val.toUInt16) false, .close 10] := by decide
  have hnonneg : ∀ fd, .socket fd ∈ r.2.2 → 0 ≤ fd := by
    intro fd h
    rw [hcalls] at h
    obtain ⟨i, -, hi⟩ := List.mem_flatMap.mp h
    have hfd : fd = 10 := by simpa using hi
    omega
  have hres : playingClient.conn.setupRtpOverUdp (playingClient.peer none) noRound .channel0
      6000 6001 = (false, r.2.1, r.2.2) := rfl
  exact .setupRtpOverUdp rfl hres hfresh hnonneg

/-- The client has a channel set up and plays it. -/
theorem run_playingClient : channelSystem.Run ([.descriptors (.setupRtpOverUdp none secondRound
    .channel0 5000 5001)] ++ [.operation .play]) playingClient := by
  have hstart : channelSystem.Run [] client := .nil init_client
  have hudp := hstart.snoc (.descriptors step_udpClient)
  exact hudp.snoc (.operation rfl rfl rfl)

/-- **A playing channel is left with the number of a closed socket** by a
set-up that returns `false`. -/
theorem lostClient_not_left :
    (¬ ∀ es s e s', channelSystem.Run es s → ChannelStep s e s' → s.LeavesChannel e s') ∧
      ¬ ∀ es s, channelSystem.Run es s → s.SendsOnOpen := by
  have hstep : ChannelStep playingClient (.descriptors (.setupRtpOverUdp none noRound .channel0
      6000 6001)) lostClient := .descriptors step_lostClient
  constructor
  · intro h
    have hsame := (h _ _ _ _ run_playingClient hstep _ _ _ _ _ rfl rfl).1
    have hfd : (10 : ℤ) = 8 := hsame.descriptors.1
    exact absurd hfd (by decide)
  · intro h
    have hsends : lostClient.SendsOnOpen := h _ _ (run_playingClient.snoc hstep)
    have hclosed : 10 ∈ lostClient.inUse := (hsends rfl .channel0 rfl).1.1
    revert hclosed
    decide

end SocketState

end RtpConnection
