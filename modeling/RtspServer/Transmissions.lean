import RtspServer.H264Source
import RtspServer.RtpConnection

/-!
# What a send task transmits

A media packet has its 12-byte header behind the four bytes kept free. The
task of such a packet transmits at most once: header and payload, on a
connection set up over TCP behind the four bytes of the interleaved header
(`sendTask_eq`).
-/

/-- The packet has room for both headers and ends inside its buffer. -/
structure RtpPacket.IsMedia (pkt : RtpPacket) : Prop where
  headers_le : 16 ≤ pkt.size.toNat
  size_le : pkt.size.toNat ≤ 1600

namespace H264Source

theorem Emitted.isMedia {frame : AVFrame} {pkt : RtpPacket} {payload : Bytes} {last : UInt8}
    (h : Emitted frame pkt payload last) (hlen : payload.length ≤ maxRtpPayloadSize) :
    pkt.IsMedia := by
  have hsize := h.size_eq
  have hmax : payload.length ≤ 1420 := hlen
  exact ⟨by omega, by omega⟩

theorem Fragmented.isMedia {frame : AVFrame} {ind hdr : UInt8} {rest : Bytes}
    {pkts : List RtpPacket} (h : Fragmented frame ind hdr rest pkts) :
    ∀ pkt ∈ pkts, pkt.IsMedia := by
  have hfragment : ∀ bs : Bytes, bs.length ≤ fragmentSize → ∀ a b : UInt8,
      (a :: b :: bs).length ≤ maxRtpPayloadSize := fun bs hbs _ _ => Nat.add_le_add_right hbs 2
  induction h with
  | last _ hlen hemit =>
    intro pkt hpkt
    rw [List.mem_singleton.mp hpkt]
    exact hemit.isMedia (hfragment _ hlen _ _)
  | more hlen hemit _ ih =>
    intro pkt hpkt
    rcases List.mem_cons.mp hpkt with rfl | hpkt
    · exact hemit.isMedia (hfragment _ hlen.le _ _)
    · exact ih pkt hpkt

/-- **The packetizer makes media packets.** -/
theorem PacketsOf.isMedia {frame : AVFrame} {pkts : List RtpPacket} (h : PacketsOf frame pkts)
    (hbuf : frame.buffer.length = frame.size.toNat) : ∀ pkt ∈ pkts, pkt.IsMedia := by
  cases h with
  | single hsize hemit =>
    intro pkt hpkt
    rw [List.mem_singleton.mp hpkt]
    refine hemit.isMedia ?_
    rw [hbuf]
    exact hsize
  | fragmented _ _ hfrag => exact hfrag.isMedia

/-- **Every callback of the packetizer is given media packets**, for a frame
of any size at which the loop test does not wrap. -/
theorem handleFrame_isMedia (now : UInt32) (heap : ℕ → Block 1600) (frame : AVFrame)
    (hbuf : frame.buffer.length = frame.size.toNat) (hmax : frame.size.toNat + 1 < 2 ^ 32) :
    ∃ pkts, (∀ pkt ∈ pkts, pkt.IsMedia) ∧
      ∀ {σ : Type} (cb : Option (SendFrameCallback σ)) (ch : MediaChannelId) (s : σ),
        handleFrame now heap cb ch frame s = .ok (feed cb ch pkts s) := by
  obtain ⟨pkts, hpkts, hfeed⟩ := handleFrame_eq_feed now heap frame hbuf hmax
  refine ⟨pkts, hpkts.isMedia ?_, hfeed⟩
  rw [buffer_stamped, size_stamped]
  exact hbuf

end H264Source

namespace RtpConnection

/-- An RTP packet on the wire. -/
def rtpBytes (header : RtpHeader) (pkt : RtpPacket) : Bytes := header.toBytes ++ pkt.payload

/-- The length of an RTP packet on the wire. -/
theorem length_rtpBytes (header : RtpHeader) {pkt : RtpPacket} (h : pkt.IsMedia) :
    (rtpBytes header pkt).length = pkt.size.toNat - 4 := by
  have hlow := h.headers_le
  have hhigh := h.size_le
  unfold rtpBytes RtpPacket.payload
  rw [List.length_append, RtpHeader.length_toBytes, List.length_drop, List.length_take,
    pkt.data.toList_length, Nat.min_eq_left hhigh]
  show 12 + (pkt.size.toNat - 16) = pkt.size.toNat - 4
  omega

/-- A stamped packet reads header and payload behind its first four bytes. -/
theorem drop_used_stamp (header : RtpHeader) {pkt : RtpPacket} (h : pkt.IsMedia) :
    (stamp pkt header).used.drop 4 = rtpBytes header pkt := by
  have hlen : 4 ≤ pkt.data.toList.length := by rw [pkt.data.toList_length]; decide
  have hdrop : (stamp pkt header).data.toList.drop 4 = header.toBytes ++ pkt.data.toList.drop 16 :=
    drop_overwrite hlen
  have hsize : pkt.size.toNat - 4 = header.toBytes.length + (pkt.size.toNat - 16) := by
    have hlow := h.headers_le
    rw [RtpHeader.length_toBytes]
    show _ = 12 + _
    omega
  unfold RtpPacket.used rtpBytes RtpPacket.payload
  rw [List.drop_take, hdrop, List.drop_take]
  show List.take (pkt.size.toNat - 4) _ = _
  rw [hsize, List.take_length_add_append]

/-- The packet that `sendRtpOverTcp` passes on. -/
theorem used_write_head (pkt : RtpPacket) {head : Bytes} (hhead : head.length = 4)
    (h : pkt.IsMedia) (hfits : 0 + head.length ≤ 1600) :
    ({ pkt with data := pkt.data.write 0 head hfits } : RtpPacket).used
      = head ++ pkt.used.drop 4 := by
  have hsize : pkt.size.toNat = head.length + (pkt.size.toNat - 4) := by
    have hlow := h.headers_le
    omega
  unfold RtpPacket.used
  rw [List.drop_take]
  show (overwrite pkt.data.toList 0 head).take pkt.size.toNat = _
  unfold overwrite
  rw [List.take_zero, List.nil_append, Nat.zero_add, hsize, List.take_length_add_append,
    hhead, Nat.add_sub_cancel_left]

theorem readUsed_of_isMedia {pkt : RtpPacket} (h : pkt.size.toNat ≤ 1600) :
    readUsed pkt = .ok pkt.used := by
  refine if_pos ?_
  rw [UInt32.le_iff_toNat_le]
  exact h

theorem length_interleavedHead (rtpChannel : UInt16) (size : UInt32) :
    (interleavedHead rtpChannel size).length = 4 := rfl

theorem sendRtpOverTcp_eq (c : RtpConnection) (tcp : TcpPeer) (ch : MediaChannelId)
    {pkt : RtpPacket} (h : pkt.IsMedia) :
    c.sendRtpOverTcp (some tcp) ch pkt
      = .ok [.tcp (interleavedHead (c.mediaChannelInfo ch).rtpChannel pkt.size
        ++ pkt.used.drop 4)] := by
  set head := interleavedHead (c.mediaChannelInfo ch).rtpChannel pkt.size with hhead
  have hfits : 0 + head.length ≤ 1600 := by rw [hhead, length_interleavedHead]; decide
  set framed : RtpPacket := { pkt with data := pkt.data.write 0 head hfits } with hframed
  have hread : readUsed framed = .ok framed.used := readUsed_of_isMedia h.size_le
  rw [hframed, used_write_head pkt (length_interleavedHead _ _) h hfits] at hread
  exact congrArg (fun x => x >>= fun bytes => pure [Transmission.tcp bytes]) hread

theorem sendRtpOverUdp_eq (c : RtpConnection) (sendtoFails : Bool) (ch : MediaChannelId)
    {pkt : RtpPacket} (h : pkt.IsMedia) :
    c.sendRtpOverUdp sendtoFails ch pkt
      = .ok (if sendtoFails then c.teardown else c,
        [.udp (c.rtpfd ch) (c.peerRtpAddr ch) (pkt.used.drop 4)]) := by
  unfold sendRtpOverUdp
  rw [readUsed_of_isMedia h.size_le]
  rfl

/-- The connection after the header of a packet was stamped. -/
def advance (c : RtpConnection) (ch : MediaChannelId) (pkt : RtpPacket) : RtpConnection :=
  (c.setFrameType pkt.type).modifyInfo ch fun info =>
    { info with
      rtpHeader := nextHeader (c.mediaChannelInfo ch) pkt
      packetSeq := info.packetSeq + 1 }

/-- Stamping a header changes no field that says where packets go. -/
theorem advance_fields (c : RtpConnection) (ch : MediaChannelId) (pkt : RtpPacket) :
    (c.advance ch pkt).transportMode = c.transportMode ∧ (c.advance ch pkt).rtpfd = c.rtpfd ∧
      (c.advance ch pkt).peerRtpAddr = c.peerRtpAddr ∧
      ((c.advance ch pkt).mediaChannelInfo ch).rtpChannel = (c.mediaChannelInfo ch).rtpChannel := by
  have hframe : (c.setFrameType pkt.type).transportMode = c.transportMode ∧
      (c.setFrameType pkt.type).rtpfd = c.rtpfd ∧
      (c.setFrameType pkt.type).peerRtpAddr = c.peerRtpAddr := by
    obtain ⟨hasIDRFrame, h⟩ := c.setFrameType_eq pkt.type
    rw [h]
    exact ⟨rfl, rfl, rfl⟩
  obtain ⟨hmode, hrtpfd, hpeer⟩ := hframe
  refine ⟨hmode, hrtpfd, hpeer, ?_⟩
  unfold advance
  rw [modifyInfo_self, setFrameType_mediaChannelInfo]

/-- **What the task of a media packet transmits.** -/
theorem sendTask_eq (c : RtpConnection) (tcpConn : Option TcpPeer) (sendtoFails : Bool)
    (ch : MediaChannelId) {pkt : RtpPacket} (h : pkt.IsMedia) :
    c.sendTask tcpConn sendtoFails ch pkt =
      if (c.setFrameType pkt.type).isSending ch then
        if c.transportMode = .rtpOverTcp then
          .ok (c.advance ch pkt, if tcpConn.isSome then
            [.tcp (interleavedHead (c.mediaChannelInfo ch).rtpChannel pkt.size
              ++ rtpBytes (nextHeader (c.mediaChannelInfo ch) pkt) pkt)] else [])
        else
          .ok (if sendtoFails then (c.advance ch pkt).teardown else c.advance ch pkt,
            [.udp (c.rtpfd ch) (c.peerRtpAddr ch)
              (rtpBytes (nextHeader (c.mediaChannelInfo ch) pkt) pkt)])
      else .ok (c.setFrameType pkt.type, []) := by
  set header := nextHeader (c.mediaChannelInfo ch) pkt with hheader
  unfold sendTask
  rcases prepare_cases c ch pkt with ⟨hopen, hprepare⟩ | ⟨hclosed, hprepare⟩
  · replace hprepare : c.prepare ch pkt = (c.advance ch pkt, some (stamp pkt header)) := hprepare
    obtain ⟨hmode, hrtpfd, hpeer, hchannel⟩ := c.advance_fields ch pkt
    have hstamp : (stamp pkt header).IsMedia := ⟨h.headers_le, h.size_le⟩
    have htcp : (c.advance ch pkt).sendRtpOverTcp tcpConn ch (stamp pkt header)
        = .ok (if tcpConn.isSome then
          [.tcp (interleavedHead (c.mediaChannelInfo ch).rtpChannel pkt.size
            ++ rtpBytes header pkt)] else []) := by
      cases tcpConn with
      | none => rfl
      | some tcp =>
        rw [sendRtpOverTcp_eq _ tcp ch hstamp, hchannel, drop_used_stamp header h]
        rfl
    have hudp : (c.advance ch pkt).sendRtpOverUdp sendtoFails ch (stamp pkt header)
        = .ok (if sendtoFails then (c.advance ch pkt).teardown else c.advance ch pkt,
            [.udp (c.rtpfd ch) (c.peerRtpAddr ch) (rtpBytes header pkt)]) := by
      rw [sendRtpOverUdp_eq _ sendtoFails ch hstamp, hrtpfd, hpeer, drop_used_stamp header h]
    rw [hprepare, if_pos hopen]
    dsimp only
    rw [hmode]
    cases hm : c.transportMode with
    | rtpOverTcp =>
      dsimp only
      rw [htcp, if_pos rfl]
      rfl
    | rtpOverUdp => exact hudp
    | rtpOverMulticast => exact hudp
  · rw [hprepare, if_neg (by rw [hclosed]; decide)]

end RtpConnection
