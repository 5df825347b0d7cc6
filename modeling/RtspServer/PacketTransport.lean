import RtspServer.Interleaved
import RtspServer.Streaming
import RtspServer.ServerRun

/-!
# Which transport a packet takes

The channel numbers, ports and sockets of a set-up are kept for each channel,
the transport once for the connection. A packet goes the way its own channel
negotiated if and only if the transport of the connection is still the one of
that channel, and the sockets of the channel, when it is UDP, were not lost
in a later attempt (`keepsToTransport_iff`).
-/

namespace RtpConnection

open Interleaved

/-- The four bytes in front of a media packet make it a frame. -/
theorem interleavedHead_append (rtpChannel : UInt16) {pkt : RtpPacket} (h : pkt.IsMedia)
    (header : RtpHeader) :
    interleavedHead rtpChannel pkt.size ++ rtpBytes header pkt
      = encode ⟨rtpChannel.toUInt8, rtpBytes header pkt⟩ := by
  have hlow := h.headers_le
  have hhigh := h.size_le
  have hlength := length_rtpBytes header h
  have hsub : (pkt.size - 4).toNat = (rtpBytes header pkt).length := by
    have h4 : (4 : UInt32).toNat = 4 := rfl
    rw [UInt32.toNat_sub_of_le _ _ (by rw [UInt32.le_iff_toNat_le, h4]; omega), h4, hlength]
  set n := (rtpBytes header pkt).length with hn
  have hhi : (((pkt.size - 4) &&& 0xFF00) >>> 8).toUInt8 = .ofNat (n / 256) := by
    rw [← UInt8.toNat_inj, UInt8.toNat_ofNat', UInt32.toNat_toUInt8, UInt32.toNat_shiftRight,
      UInt32.toNat_and, hsub]
    show ((n &&& 0xFF00) >>> 8) % 256 = n / 256 % 256
    rw [Nat.shiftRight_and_distrib, Nat.shiftRight_eq_div_pow]
    show (n / 256 &&& 255) % 256 = n / 256 % 256
    rw [Nat.and_two_pow_sub_one_eq_mod _ 8]
    exact Nat.mod_mod _ 256
  have hlo : ((pkt.size - 4) &&& 0xFF).toUInt8 = .ofNat n := by
    rw [← UInt8.toNat_inj, UInt8.toNat_ofNat', UInt32.toNat_toUInt8, UInt32.toNat_and, hsub]
    show (n &&& 255) % 256 = n % 256
    rw [Nat.and_two_pow_sub_one_eq_mod n 8]
    exact Nat.mod_mod n 256
  unfold interleavedHead encode
  rw [hhi, hlo]

end RtpConnection

namespace SentPacket

open SetupRecord
open RtpConnection (Transmission)

/-- **The packet goes the way its channel negotiated**: as an interleaved
frame, or as a datagram from a socket opened for the channel. -/
def AsNegotiated (t : SentPacket) : Transmission → Prop
  | .tcp bytes => negotiated t.setups t.channelId = some .rtpOverTcp ∧
    ∃ channel, Interleaved.readFrame bytes = some (⟨channel, t.rtp⟩, [])
  | .udp rtpfd _ bytes => negotiated t.setups t.channelId = some .rtpOverUdp ∧
    rtpfd ∈ openFor t.setups t.channelId ∧ bytes = t.rtp

/-- Bytes on the descriptor of the TCP connection that are not a frame. -/
def OutsideFrame (fd : ℤ) : Transmission → Prop
  | .tcp bytes => ¬ Interleaved.IsFrame bytes
  | .udp rtpfd _ _ => rtpfd = fd

/-- **The connection agrees with the channel**: the last SETUP that succeeded
on any channel chose the transport that this channel negotiated last, and no
UDP set-up of the channel failed after that. Such a failure leaves in the channel the
number of a socket that was closed again. -/
structure Agrees (t : SentPacket) : Prop where
  mode : lastMode t.setups = negotiated t.setups t.channelId
  kept : negotiated t.setups t.channelId = some .rtpOverUdp → lost t.setups t.channelId = false

/-- The transport of the connection, when some channel is set up. -/
theorem Follows.mode {fd : ℤ} {t : SentPacket} (h : t.Follows fd) :
    lastMode t.setups = some .rtpOverTcp ∨ lastMode t.setups = some .rtpOverUdp := by
  obtain ⟨r, hr⟩ := Option.isSome_iff_exists.mp h.isSetup
  obtain ⟨hmem, -, m, hm⟩ := of_lastSetup hr
  have hsome : ∃ m, lastMode t.setups = some m := by
    cases hmode : lastMode t.setups with
    | some m => exact ⟨m, rfl⟩
    | none =>
      have hnone := List.findSome?_eq_none_iff.mp hmode r hmem
      rw [hm] at hnone
      cases hnone
  obtain ⟨m', hmode⟩ := hsome
  obtain ⟨r', hr', hout⟩ := List.exists_of_findSome?_eq_some hmode
  cases m' with
  | rtpOverTcp => exact .inl hmode
  | rtpOverUdp => exact .inr hmode
  | rtpOverMulticast => exact absurd (asked_of_outcome hout) (h.answered r' hr').asked

/-- The length of a packet fits the length field of a frame. -/
theorem Follows.length_rtp {fd : ℤ} {t : SentPacket} (h : t.Follows fd) : t.rtp.length < 65536 := by
  have hsize := h.media.size_le
  have hlength : t.rtp.length = t.pkt.size.toNat - 4 :=
    RtpConnection.length_rtpBytes t.header h.media
  omega

/-- **What is sent over TCP is the packet as a frame**, on the channel that
was asked for when its channel was set up over TCP. -/
theorem Follows.frame {fd : ℤ} {t : SentPacket} (h : t.Follows fd)
    (hmode : lastMode t.setups = some .rtpOverTcp) : ∃ channel : UInt16,
    (∀ r, lastSetup t.setups t.channelId = some r → r.outcome = some .rtpOverTcp →
      channel = r.request.getRtpChannel.toUInt16) ∧
    t.out = if t.alive then [.tcp (Interleaved.encode ⟨channel.toUInt8, t.rtp⟩)] else [] := by
  obtain ⟨channel, hchannel, hout⟩ := h.tcp hmode
  have hframe : RtpConnection.interleavedHead channel t.pkt.size ++ t.rtp
      = Interleaved.encode ⟨channel.toUInt8, t.rtp⟩ :=
    RtpConnection.interleavedHead_append channel h.media t.header
  rw [hframe] at hout
  exact ⟨channel, hchannel, hout⟩

end SentPacket

namespace Streaming

open SetupRecord SentPacket
open RtpConnection (Transmission)

/-- **A packet takes the transport of its channel if and only if the
connection agrees with it.** The connection has one transport, that of the last
set-up of any channel, and the task looks at this one only. With two channels that
were set up differently, one of them is sent the other's way. -/
theorem asNegotiated_iff {es : List StreamingEvent} {s : Streaming} (hrun : system.Run es s)
    {t : SentPacket} (ht : t ∈ s.sent) {x : Transmission} (hx : x ∈ t.out) :
    (t.AsNegotiated x ∧ ¬ OutsideFrame s.fd x) ↔ t.Agrees := by
  have hfollows := (inv_of_run hrun).sent t ht
  obtain ⟨r, hr⟩ := Option.isSome_iff_exists.mp hfollows.isSetup
  have hnegotiated : negotiated t.setups t.channelId = r.outcome := by
    unfold negotiated
    rw [hr]
    rfl
  rcases hfollows.mode with hmode | hmode
  · obtain ⟨channel, -, hout⟩ := hfollows.frame hmode
    have hx' : x = .tcp (Interleaved.encode ⟨channel.toUInt8, t.rtp⟩) := by
      rw [hout] at hx
      split at hx
      · exact List.mem_singleton.mp hx
      · cases hx
    have hread : Interleaved.readFrame (Interleaved.encode ⟨channel.toUInt8, t.rtp⟩)
        = some (⟨channel.toUInt8, t.rtp⟩, []) :=
      Interleaved.readFrame_encode_alone hfollows.length_rtp
    subst hx'
    constructor
    · rintro ⟨⟨hneg, -⟩, -⟩
      refine ⟨hmode.trans hneg.symm, fun hudp => ?_⟩
      rw [hneg] at hudp
      cases hudp
    · intro hagrees
      exact ⟨⟨hagrees.mode.symm.trans hmode, _, hread⟩, not_not_intro ⟨_, hread⟩⟩
  · obtain ⟨rtpfd, dest, hout, hudp⟩ := hfollows.udp hmode
    rw [hout] at hx
    rw [List.mem_singleton.mp hx]
    constructor
    · rintro ⟨⟨hneg, hopen, -⟩, -⟩
      rw [hnegotiated] at hneg
      exact ⟨by rw [hmode, hnegotiated, hneg], fun _ => (hudp r hr hneg).1.mp hopen⟩
    · intro hagrees
      have hneg := hagrees.mode.symm.trans hmode
      have hopen := (hudp r hr (hnegotiated.symm.trans hneg)).1.mpr (hagrees.kept hneg)
      refine ⟨⟨hneg, hopen, rfl⟩, fun hfd => hfollows.fd_notMem ?_⟩
      rw [← show rtpfd = s.fd from hfd]
      exact hopen

/-! ## Two clients -/

/-- A SETUP of a channel, with the channel numbers 0 and 1 and two ports. -/
def setupRequest (channelId : MediaChannelId) (transport : TransportMode) : RtspRequest where
  method := .setup
  channelId := channelId
  transport := transport
  headerLineParam
    | .cseq => some ([], 2)
    | .rtpChannel => some ([], 0)
    | .rtcpChannel => some ([], 1)
    | .rtpPort => some ([], 5000)
    | .rtcpPort => some ([], 5001)
  state := .gotAll

/-- A PLAY. -/
def playRequest : RtspRequest where
  method := .play
  channelId := .channel0
  transport := .rtpOverTcp
  headerLineParam
    | .cseq => some ([], 3)
    | _ => none
  state := .gotAll

/-- The peer is 10.0.0.2, and every port is free. -/
def freePorts : Env :=
  { Env.quiet with
    attempts := fun _ => ⟨20000, 8, true, 9, true⟩
    peerName := some ⟨afInet, 0x0200000a, 0x3412⟩ }

/-- A packet of a key frame. -/
def keyPacket : RtpPacket :=
  { data := .filled 1600 7, size := 20, timestamp := 90000, type := videoFrameI, last := 1 }

theorem isMedia_keyPacket : keyPacket.IsMedia := ⟨by decide, by decide⟩

/-- A client on descriptor 7 that has just connected. -/
def connected : Streaming where
  serving := { conn := ServerState.onSeven, world := ServerState.liveWorld }
  inUse := {7}

/-- The client after its DESCRIBE. -/
def described : Streaming :=
  { connected with
    serving := connected.serving.handleCmdDescribe .quiet ServerState.describeLive }

theorem run_described (good : Streaming → StreamingEvent → Prop)
    (hgood : good connected (.request .quiet ServerState.describeLive)) :
    (system.restrict good).Run [.request .quiet ServerState.describeLive] described := by
  have hconnected : (system.restrict good).Run [] connected :=
    .nil ⟨rfl, rfl, by decide, rfl, 7, rfl⟩
  have hstep : StreamingStep connected (.request .quiet ServerState.describeLive) described :=
    .command (by decide) rfl
  exact hconnected.snoc ⟨hgood, hstep⟩

/-- `asNegotiated_iff` for a client with one channel over TCP. -/
theorem asNegotiated_iff_oneChannel : ∃ (s : Streaming) (t : SentPacket) (x : Transmission),
    t ∈ s.sent ∧ x ∈ t.out ∧ ((t.AsNegotiated x ∧ ¬ OutsideFrame s.fd x) ↔ t.Agrees) := by
  have hrun := (run_described (fun _ _ => True) trivial).of_restrict
  have hsetup := hrun.snoc (show StreamingStep _ (.request freePorts
    (setupRequest .channel0 .rtpOverTcp)) _ from .setup rfl rfl (by decide))
  have hplay := hsetup.snoc (show StreamingStep _ (.request freePorts playRequest) _ from
    .command (by decide) rfl)
  have htask := hplay.snoc (show StreamingStep _ (.task (some ⟨7, none⟩) false .channel0
    keyPacket) _ from .task rfl isMedia_keyPacket rfl)
  refine ⟨_, _, _, ?_, ?_, asNegotiated_iff htask (List.mem_singleton.mpr rfl)
    (List.mem_singleton.mpr rfl)⟩
  · exact List.mem_singleton.mpr rfl
  · exact List.mem_singleton.mpr rfl

/-- **A channel over TCP and then one over UDP**: the packet of the first goes
out as a datagram on the descriptor of the TCP connection. -/
theorem mixed_transports : ¬ ∀ es s, system.Run es s → ∀ t ∈ s.sent, ∀ x ∈ t.out,
    t.AsNegotiated x ∧ ¬ OutsideFrame s.fd x := by
  intro h
  have hrun := (run_described (fun _ _ => True) trivial).of_restrict
  have htcp := hrun.snoc (show StreamingStep _ (.request freePorts
    (setupRequest .channel0 .rtpOverTcp)) _ from .setup rfl rfl (by decide))
  have hudp := htcp.snoc (show StreamingStep _ (.request freePorts
    (setupRequest .channel1 .rtpOverUdp)) _ from .setup rfl rfl (by decide))
  have hplay := hudp.snoc (show StreamingStep _ (.request freePorts playRequest) _ from
    .command (by decide) rfl)
  have htask := hplay.snoc (show StreamingStep _ (.task none false .channel0 keyPacket) _ from
    .task rfl isMedia_keyPacket rfl)
  obtain ⟨-, hout⟩ := h _ _ htask _ (List.mem_singleton.mpr rfl) _ (List.mem_singleton.mpr rfl)
  exact hout rfl

end Streaming
