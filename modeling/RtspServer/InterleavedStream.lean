import Mathlib.Data.List.Forall2
import RtspServer.Decimal
import RtspServer.PacketTransport

/-!
# RTP over the RTSP connection

When every channel of a connection is set up over TCP, what the connection
passes to `TcpConnection::send` for its packets is a stream of interleaved
frames: a reader finds in it exactly the packets sent, in order, each on the
channel number that the response to the SETUP of its channel printed.

The channel number of a request is cut to a byte when it is read; the
response prints that byte, and the frame carries it.
-/

namespace RtspRequest

/-- A response whose transport line prints the channel `n`. -/
def PrintsChannel (message : Bytes) (n : ℕ) : Prop :=
  ∃ cseq rtcpChannel session, message = response "200 OK"
    [cseq, ascii "Transport: RTP/AVP/TCP;unicast;interleaved=" ++ decimal n ++ ascii "-"
      ++ rtcpChannel, session]

/-- The response to a SETUP over TCP fits its buffer. -/
theorem buildSetupTcpRes_eq (r : RtspRequest) (rtpChn rtcpChn : UInt16) (sessionId : UInt32) :
    r.buildSetupTcpRes 1024 rtpChn rtcpChn sessionId = response "200 OK"
      [r.cseqLine, ascii "Transport: RTP/AVP/TCP;unicast;interleaved=" ++ decimal rtpChn.toNat
        ++ ascii "-" ++ decimal rtcpChn.toNat, sessionLine sessionId] := by
  have hrtp := Scanf.length_decimal_uint16 rtpChn
  have hrtcp := Scanf.length_decimal_uint16 rtcpChn
  have hcseq := Scanf.length_decimal_uint32 r.getCSeq
  have hsession := Scanf.length_decimal_uint32 sessionId
  unfold buildSetupTcpRes
  refine snprintf_of_lt ?_
  unfold response cseqLine sessionLine
  simp only [List.map_cons, List.map_nil, List.flatten_cons, List.flatten_nil, List.append_nil,
    List.length_append, length_line]
  have hstatus : (ascii ("RTSP/1.0 " ++ "200 OK")).length = 15 := by decide
  have htransport : (ascii "Transport: RTP/AVP/TCP;unicast;interleaved=").length = 43 := by decide
  have hnames : (ascii "CSeq: ").length = 6 ∧ (ascii "Session: ").length = 9 ∧
      (ascii "-").length = 1 ∧ crlf.length = 2 := by decide
  omega

/-- **The response to a SETUP over TCP** prints the channel it was given. -/
theorem printsChannel_buildSetupTcpRes (r : RtspRequest) (rtpChn rtcpChn : UInt16)
    (sessionId : UInt32) :
    PrintsChannel (r.buildSetupTcpRes 1024 rtpChn rtcpChn sessionId) rtpChn.toNat :=
  ⟨_, _, _, r.buildSetupTcpRes_eq rtpChn rtcpChn sessionId⟩

end RtspRequest

namespace RtpConnection

/-- What is passed to `TcpConnection::send`. -/
def Transmission.tcpBytes : Transmission → Bytes
  | .tcp bytes => bytes
  | .udp _ _ _ => []

end RtpConnection

namespace Streaming

open SetupRecord SentPacket Interleaved
open RtpConnection (Transmission)

/-- What the connection passed to `TcpConnection::send` for its packets. -/
def tcpBytes (s : Streaming) : Bytes :=
  s.sent.flatMap fun t => t.out.flatMap Transmission.tcpBytes

/-- Every SETUP asks for TCP, or for a transport that is refused: the transport
is the connection's and not the channel's, so that one SETUP over UDP would take
all channels off the stream. -/
def OverTcp (_ : Streaming) : StreamingEvent → Prop
  | .request _ r => r.method = .setup → r.transport ≠ .rtpOverUdp
  | _ => True

end Streaming

/-- **The frame of a packet**: its data is the RTP packet, and its channel is
the number printed in the response to the last SETUP of the packet's channel
that succeeded. -/
structure SentPacket.IsFrame (t : SentPacket) (f : Interleaved.Frame) : Prop where
  data : f.data = t.rtp
  channel : ∃ r, SetupRecord.lastSetup t.setups t.channelId = some r ∧
    ∀ m ∈ r.messages, RtspRequest.PrintsChannel m f.channel.toNat

namespace Streaming

open SetupRecord SentPacket Interleaved
open RtpConnection (Transmission)

/-- No set-up over UDP was tried. -/
structure NoUdp (s : Streaming) : Prop where
  setups : ∀ r ∈ s.setups, r.asked ≠ some .rtpOverUdp
  sent : ∀ t ∈ s.sent, ∀ r ∈ t.setups, r.asked ≠ some .rtpOverUdp

theorem NoUdp.step {s s' : Streaming} {e : StreamingEvent} (hs : s.NoUdp) (hgood : s.OverTcp e)
    (h : StreamingStep s e s') : s'.NoUdp := by
  cases h with
  | setup hm hcmd hfresh =>
    refine ⟨List.forall_mem_cons.mpr ⟨?_, hs.setups⟩, hs.sent⟩
    show Serving.asks _ _ ≠ _
    unfold Serving.asks
    split
    · decide
    · split
      · decide
      · exact fun h => hgood hm (Option.some.inj h)
  | command hm hcmd => exact ⟨hs.setups, hs.sent⟩
  | task href hmedia htask =>
    refine ⟨hs.setups, fun t ht => ?_⟩
    unfold afterTask at ht
    dsimp only at ht
    split at ht
    · rcases List.mem_append.mp ht with ht | ht
      · exact hs.sent t ht
      · rw [List.mem_singleton.mp ht]
        exact hs.setups
    · exact hs.sent t ht
  | elsewhere hobject hfd hopen => exact ⟨hs.setups, hs.sent⟩

theorem noUdp_of_run {es : List StreamingEvent} {s : Streaming}
    (h : (system.restrict OverTcp).Run es s) : s.NoUdp := by
  refine System.Run.invariant (S := system.restrict OverTcp) ?_ ?_ h
  · rintro s ⟨hsetups, hsent, -⟩
    refine ⟨?_, ?_⟩
    · rw [hsetups]
      exact List.forall_mem_nil _
    · rw [hsent]
      exact List.forall_mem_nil _
  · rintro s e s' hs ⟨hgood, hstep⟩
    exact hs.step hgood hstep

/-- Where no set-up over UDP was tried, each packet is one frame. -/
theorem exists_frame {fd : ℤ} {t : SentPacket} (h : t.Follows fd)
    (hudp : ∀ r ∈ t.setups, r.asked ≠ some .rtpOverUdp) : ∃ f : Frame,
      t.IsFrame f ∧ f.data.length < 65536 ∧
      t.out.flatMap Transmission.tcpBytes = if t.alive then encode f else [] := by
  have hout : ∀ r ∈ t.setups, r.outcome ≠ some .rtpOverUdp := fun r hr ho =>
    hudp r hr (asked_of_outcome ho)
  have hmode : lastMode t.setups = some .rtpOverTcp := by
    refine h.mode.resolve_right fun hmode => ?_
    obtain ⟨r, hr, ho⟩ := List.exists_of_findSome?_eq_some hmode
    exact hout r hr ho
  obtain ⟨r, hr⟩ := Option.isSome_iff_exists.mp h.isSetup
  obtain ⟨hmem, -, m, hm⟩ := of_lastSetup hr
  have htcp : r.outcome = some .rtpOverTcp := by
    cases m with
    | rtpOverTcp => exact hm
    | rtpOverUdp => exact absurd hm (hout r hmem)
    | rtpOverMulticast => exact absurd (asked_of_outcome hm) (h.answered r hmem).asked
  obtain ⟨channel, hchannel, hframe⟩ := h.frame hmode
  have hnumber : channel = r.request.getRtpChannel.toUInt16 := hchannel r hr htcp
  have hbyte : channel.toUInt8.toNat = r.request.getRtpChannel.toUInt16.toNat := by
    rw [hnumber, UInt8.toUInt8_toUInt16, UInt8.toNat_toUInt16]
  refine ⟨⟨channel.toUInt8, t.rtp⟩, ⟨rfl, r, hr, fun m hm => ?_⟩, h.length_rtp, ?_⟩
  · obtain ⟨sessionId, rfl⟩ := (h.answered r hmem).tcp htcp m hm
    dsimp only
    rw [hbyte]
    exact RtspRequest.printsChannel_buildSetupTcpRes ..
  · rw [hframe]
    cases t.alive with
    | false => rfl
    | true => exact List.flatMap_singleton ..

/-- The frames of a list of packets. -/
theorem exists_frames {ts : List SentPacket}
    (h : ∀ t ∈ ts, ∃ f : Frame, t.IsFrame f ∧ f.data.length < 65536 ∧
      t.out.flatMap Transmission.tcpBytes = if t.alive then encode f else []) :
    ∃ fs : List Frame, (∀ f ∈ fs, f.data.length < 65536) ∧
      (ts.flatMap fun t => t.out.flatMap Transmission.tcpBytes) = fs.flatMap encode ∧
      List.Forall₂ IsFrame (ts.filter (·.alive)) fs := by
  induction ts with
  | nil => exact ⟨[], List.forall_mem_nil _, rfl, .nil⟩
  | cons t ts ih =>
    obtain ⟨⟨f, hf, hlength, hbytes⟩, h⟩ := List.forall_mem_cons.mp h
    obtain ⟨fs, hfs, hts, hall⟩ := ih h
    rw [List.flatMap_cons, hbytes, hts]
    cases halive : t.alive with
    | false =>
      rw [List.filter_cons_of_neg (by rw [halive]; decide)]
      exact ⟨fs, hfs, rfl, hall⟩
    | true =>
      rw [List.filter_cons_of_pos halive]
      exact ⟨f :: fs, List.forall_mem_cons.mpr ⟨hlength, hfs⟩, rfl, .cons hf hall⟩

/-- **The stream of a connection over TCP** is a sequence of whole frames,
those of the packets sent while the TCP connection was there. The reader is that of
the protocol: it takes a `$`, a channel and a length, then as many bytes, and begins
again. So no packet is cut, and none has a length but its own. -/
theorem read_tcpBytes {es : List StreamingEvent} {s : Streaming}
    (hrun : (system.restrict OverTcp).Run es s) :
    ∃ fs, read s.tcpBytes = some fs ∧ List.Forall₂ IsFrame (s.sent.filter (·.alive)) fs := by
  have hsent := (inv_of_run hrun.of_restrict).sent
  have hudp := (noUdp_of_run hrun).sent
  obtain ⟨fs, hlength, hbytes, hall⟩ := exists_frames fun t ht =>
    exists_frame (hsent t ht) (hudp t ht)
  refine ⟨fs, ?_, hall⟩
  unfold tcpBytes
  rw [hbytes]
  exact read_encode hlength

/-- The SETUP of channel 1, with the channel numbers 2 and 3. -/
def setupSecond : RtspRequest :=
  { setupRequest .channel1 .rtpOverTcp with
    headerLineParam
      | .cseq => some ([], 3)
      | .rtpChannel => some ([], 2)
      | .rtcpChannel => some ([], 3)
      | _ => none }

/-- `read_tcpBytes` for a client with two channels over TCP, which is sent three packets,
one of them after its TCP connection has gone. -/
theorem read_tcpBytes_twoChannels : ∃ es s fs, (system.restrict OverTcp).Run es s ∧
    s.sent.map (fun t => (t.channelId, t.alive))
      = [(.channel0, true), (.channel1, true), (.channel0, false)] ∧
    read s.tcpBytes = some fs ∧ fs.length = 2 ∧
    List.Forall₂ IsFrame (s.sent.filter (·.alive)) fs := by
  have hdescribed := run_described OverTcp nofun
  have hfirst := hdescribed.snoc_restrict (show StreamingStep _
    (.request freePorts (setupRequest .channel0 .rtpOverTcp)) _
      from .setup rfl rfl (by decide)) fun _ => by decide
  have hsecond := hfirst.snoc_restrict (show StreamingStep _
    (.request freePorts setupSecond) _ from .setup rfl rfl (by decide)) fun _ => by decide
  have hplay := hsecond.snoc_restrict (show StreamingStep _
    (.request freePorts playRequest) _ from .command (by decide) rfl) nofun
  have htask₀ := hplay.snoc_restrict (show StreamingStep _
    (.task (some ⟨7, none⟩) false .channel0 keyPacket) _
      from .task rfl isMedia_keyPacket rfl) trivial
  have htask₁ := htask₀.snoc_restrict (show StreamingStep _
    (.task (some ⟨7, none⟩) false .channel1 keyPacket) _
      from .task rfl isMedia_keyPacket rfl) trivial
  have hgone := htask₁.snoc_restrict (show StreamingStep _
    (.task none false .channel0 keyPacket) _ from .task rfl isMedia_keyPacket rfl) trivial
  obtain ⟨fs, hread, hall⟩ := read_tcpBytes hgone
  exact ⟨_, _, fs, hgone, rfl, hread, hall.length_eq.symm, hall⟩

end Streaming
