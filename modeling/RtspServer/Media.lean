import RtspServer.Memory

/-!
# Media types: `media.h` and `rtp.h`

The records that travel between the packetizer, the sessions and the RTP
connections. An `AVFrame` owns the bytes of one frame; an `RtpPacket` owns a
buffer of 1600 bytes laid out as

    0      4                 16                     size        1600
    | '$'… | 12-byte header  | payload              | unused    |

where the first four bytes are kept free for the interleaved header of RTP
over TCP. The buffer is a `Block 1600`, so no packet of the model can have
another size, and its unused bytes are whatever the allocator left there.
-/

/-- The channels of a session; `MAX_MEDIA_CHANNEL` is their number. -/
inductive MediaChannelId where
  | channel0
  | channel1
deriving DecidableEq, Repr

namespace MediaChannelId

/-- The channel as an array index. -/
def index : MediaChannelId → ℕ
  | channel0 => 0
  | channel1 => 1

end MediaChannelId

/-- `MediaSessionId`, a `uint32_t`. -/
abbrev MediaSessionId := UInt32

/-- How RTP packets reach the client. -/
inductive TransportMode where
  | rtpOverTcp
  | rtpOverUdp
  | rtpOverMulticast
deriving DecidableEq, Repr

/-- `RTP_VERSION`. -/
def rtpVersion : ℕ := 2

/-- `RTP_HEADER_SIZE`. -/
def rtpHeaderSize : ℕ := 12

/-- `RTP_TCP_HEAD_SIZE`. -/
def rtpTcpHeadSize : ℕ := 4

/-- `MAX_RTP_PAYLOAD_SIZE`. -/
def maxRtpPayloadSize : ℕ := 1420

/-- `VIDEO_FRAME_I`. -/
def videoFrameI : UInt8 := 0x01

/-- An encoded frame. `size` is the length the code goes by; the buffer is
what was allocated for it. -/
structure AVFrame where
  buffer : Bytes
  size : UInt32
  type : UInt8 := 0
  timestamp : UInt32 := 0
deriving DecidableEq, Repr

/-- An RTP packet in the making. -/
structure RtpPacket where
  data : Block 1600
  size : UInt32 := 0
  timestamp : UInt32 := 0
  type : UInt8 := 0
  last : UInt8 := 0
deriving DecidableEq

namespace RtpPacket

/-- The bytes behind the RTP header, from offset 16 to `size`. -/
def payload (p : RtpPacket) : Bytes := (p.data.toList.take p.size.toNat).drop 16

/-- The bytes in use, from offset 0 to `size`. -/
def used (p : RtpPacket) : Bytes := p.data.toList.take p.size.toNat

/-- **The payload of a packet is what was last written at offset 16**, when
the size was set to end there. -/
theorem payload_of_overwrite {p : RtpPacket} {d : Block 1600} {xs : Bytes}
    (hd : p.data.toList = overwrite d.toList 16 xs)
    (hsize : p.size.toNat = 16 + xs.length) : p.payload = xs := by
  have hlen : 16 ≤ d.toList.length := by rw [d.toList_length]; omega
  unfold payload
  rw [hd, hsize, List.drop_take, Nat.add_sub_cancel_left, take_drop_overwrite hlen]

end RtpPacket
