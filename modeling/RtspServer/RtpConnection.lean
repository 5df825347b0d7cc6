import Mathlib.Logic.Function.Basic
import RtspServer.Media

/-!
# `RtpConnection`: one client's media channels

An `RtpConnection` keeps, for each of the two media channels, the RTP header
it stamps on packets, the transport parameters the client asked for and the
play flags, and for the connection as a whole whether it was torn down and
whether a key frame went by.

Memory that the constructor does not write (`_transportMode`, the local
ports, the peer addresses) has whatever value was there; the constructor of
the model takes those from a `garbage` connection. What the operating system
decides – the descriptors `socket` returns, the outcome of `bind`, the peer
of the TCP connection, the random numbers – comes in as parameters, and the
calls made are returned as a list of `SysCall`s.

The header is the C bit-field struct of `rtp.h` as gcc lays it out on a
little-endian host: bit-fields from the least significant bit up, and the
`htons`/`htonl` of the code being byte swaps.
-/

/-! ## The RTP header in memory -/

/-- `htons` on a little-endian host: the two bytes swapped. -/
def htons (x : UInt16) : UInt16 := .ofNat (x.toNat % 256 * 256 + x.toNat / 256)

/-- `htonl` on a little-endian host: the four bytes reversed. -/
def htonl (x : UInt32) : UInt32 :=
  .ofNat (x.toNat % 256 * 16777216 + x.toNat / 256 % 256 * 65536
    + x.toNat / 65536 % 256 * 256 + x.toNat / 16777216)

/-- The two bytes of a `uint16_t`, least significant first. -/
def leBytes16 (x : UInt16) : Bytes := [.ofNat x.toNat, .ofNat (x.toNat / 256)]

/-- The four bytes of a `uint32_t`, least significant first. -/
def leBytes32 (x : UInt32) : Bytes :=
  [.ofNat x.toNat, .ofNat (x.toNat / 256), .ofNat (x.toNat / 65536),
    .ofNat (x.toNat / 16777216)]

theorem toNat_htons (x : UInt16) :
    (htons x).toNat = x.toNat % 256 * 256 + x.toNat / 256 := by
  have hx := x.toNat_lt
  exact UInt16.toNat_ofNat_of_lt' (by show _ < 65536; omega)

theorem toNat_htonl (x : UInt32) :
    (htonl x).toNat = x.toNat % 256 * 16777216 + x.toNat / 256 % 256 * 65536
      + x.toNat / 65536 % 256 * 256 + x.toNat / 16777216 := by
  have hx := x.toNat_lt
  exact UInt32.toNat_ofNat_of_lt' (by show _ < 4294967296; omega)

/-- `struct RtpHeader`. -/
structure RtpHeader where
  cc : BitVec 4 := 0
  ext : BitVec 1 := 0
  padding : BitVec 1 := 0
  version : BitVec 2 := 0
  payload : BitVec 7 := 0
  marker : BitVec 1 := 0
  seq : UInt16 := 0
  ts : UInt32 := 0
  ssrc : UInt32 := 0
deriving DecidableEq

namespace RtpHeader

/-- The header as it lies in memory. -/
def toBytes (h : RtpHeader) : Bytes :=
  [.ofNat (h.cc.toNat + 16 * h.ext.toNat + 32 * h.padding.toNat + 64 * h.version.toNat),
    .ofNat (h.payload.toNat + 128 * h.marker.toNat)]
    ++ leBytes16 h.seq ++ leBytes32 h.ts ++ leBytes32 h.ssrc

@[simp] theorem length_toBytes (h : RtpHeader) : h.toBytes.length = rtpHeaderSize := rfl

end RtpHeader

/-! ## The state of a connection -/

/-- `struct MediaChannelInfo`. -/
structure MediaChannelInfo where
  rtpHeader : RtpHeader := {}
  rtpChannel : UInt16 := 0
  rtcpChannel : UInt16 := 0
  rtpPort : UInt16 := 0
  rtcpPort : UInt16 := 0
  packetSeq : UInt16 := 0
  clockRate : UInt32 := 0
  isSetup : Bool := false
  isPlay : Bool := false
  isRecord : Bool := false
deriving DecidableEq

/-- `struct sockaddr_in`, with address and port in network order. -/
structure SockAddr where
  family : UInt16
  addr : UInt32
  port : UInt16
deriving DecidableEq

/-- `AF_INET`. -/
def afInet : UInt16 := 2

/-- The fields of `class RtpConnection`. -/
structure RtpConnection where
  isClosed : Bool := false
  hasIDRFrame : Bool := false
  transportMode : TransportMode
  frameType : UInt8 := 0
  localRtpPort : MediaChannelId → UInt16
  localRtcpPort : MediaChannelId → UInt16
  rtpfd : MediaChannelId → ℤ
  rtcpfd : MediaChannelId → ℤ
  peerAddr : SockAddr
  peerRtpAddr : MediaChannelId → SockAddr
  peerRtcpAddr : MediaChannelId → SockAddr
  mediaChannelInfo : MediaChannelId → MediaChannelInfo

/-- What `_tcpConn.lock()` gives while the TCP connection exists: its
descriptor, and the answer of `getpeername` on it (`none` when that call
fails and leaves the address alone). -/
structure TcpPeer where
  fd : ℤ
  peerName : Option SockAddr
deriving DecidableEq

/-- A system call made on a descriptor, with its outcome. -/
inductive SysCall where
  | socket (fd : ℤ)
  | bind (fd : ℤ) (port : UInt16) (bound : Bool)
  | close (fd : ℤ)
deriving DecidableEq

/-- What one round of the port search meets: the number drawn, the
descriptors returned by the two `socket` calls and whether each `bind`
succeeds. -/
structure UdpAttempt where
  draw : UInt32
  rtpSocket : ℤ
  rtpBound : Bool
  rtcpSocket : ℤ
  rtcpBound : Bool
deriving DecidableEq

namespace RtpConnection

/-- A connection whose memory was all zero. -/
def zeroed : RtpConnection where
  transportMode := .rtpOverTcp
  localRtpPort _ := 0
  localRtcpPort _ := 0
  rtpfd _ := 0
  rtcpfd _ := 0
  peerAddr := ⟨0, 0, 0⟩
  peerRtpAddr _ := ⟨0, 0, 0⟩
  peerRtcpAddr _ := ⟨0, 0, 0⟩
  mediaChannelInfo _ := {}

/-- The connection with one channel's `MediaChannelInfo` changed. -/
def modifyInfo (c : RtpConnection) (ch : MediaChannelId)
    (f : MediaChannelInfo → MediaChannelInfo) : RtpConnection :=
  { c with mediaChannelInfo := Function.update c.mediaChannelInfo ch (f (c.mediaChannelInfo ch)) }

@[simp] theorem modifyInfo_self (c : RtpConnection) (ch : MediaChannelId)
    (f : MediaChannelInfo → MediaChannelInfo) :
    (c.modifyInfo ch f).mediaChannelInfo ch = f (c.mediaChannelInfo ch) :=
  Function.update_self ..

theorem modifyInfo_of_ne (c : RtpConnection) {ch ch' : MediaChannelId} (h : ch' ≠ ch)
    (f : MediaChannelInfo → MediaChannelInfo) :
    (c.modifyInfo ch f).mediaChannelInfo ch' = c.mediaChannelInfo ch' :=
  Function.update_of_ne h ..

/-- What a change keeps of a record it keeps of every channel's. -/
theorem modifyInfo_proj {β : Type*} (c : RtpConnection) (ch ch' : MediaChannelId)
    {f : MediaChannelInfo → MediaChannelInfo} (g : MediaChannelInfo → β)
    (hg : ∀ info, g (f info) = g info) :
    g ((c.modifyInfo ch f).mediaChannelInfo ch') = g (c.mediaChannelInfo ch') := by
  by_cases h : ch' = ch
  · subst h
    rw [modifyInfo_self]
    exact hg _
  · rw [modifyInfo_of_ne c h]

/-- The connection with both channels' `MediaChannelInfo` changed alike. -/
def mapInfo (c : RtpConnection) (f : MediaChannelInfo → MediaChannelInfo) : RtpConnection :=
  { c with mediaChannelInfo := fun ch => f (c.mediaChannelInfo ch) }

@[simp] theorem mapInfo_mediaChannelInfo (c : RtpConnection)
    (f : MediaChannelInfo → MediaChannelInfo) (ch : MediaChannelId) :
    (c.mapInfo f).mediaChannelInfo ch = f (c.mediaChannelInfo ch) := rfl

/-- The constructor. `rd` are the values of the random device, three for each
channel. -/
def new (garbage : RtpConnection) (rd : ℕ → UInt32) : RtpConnection :=
  { garbage with
    isClosed := false
    hasIDRFrame := false
    frameType := 0
    rtpfd := fun _ => 0
    rtcpfd := fun _ => 0
    mediaChannelInfo := fun ch =>
      { packetSeq := (rd (3 * ch.index) % 0xffff).toUInt16
        rtpHeader :=
          { version := .ofNat 2 rtpVersion
            seq := 0
            ts := htonl (rd (3 * ch.index + 1))
            ssrc := htonl (rd (3 * ch.index + 2)) } } }

def setClockRate (c : RtpConnection) (channelId : MediaChannelId) (clockRate : UInt32) :
    RtpConnection :=
  c.modifyInfo channelId fun info => { info with clockRate := clockRate }

/-- `rtpHeader.payload` is a field of seven bits: the rest is cut off. -/
def setPayloadType (c : RtpConnection) (channelId : MediaChannelId) (payload : UInt32) :
    RtpConnection :=
  c.modifyInfo channelId fun info =>
    { info with rtpHeader := { info.rtpHeader with payload := .ofNat 7 payload.toNat } }

/-! ## Setting a channel up -/

def setupRtpOverTcp (c : RtpConnection) (tcpConn : Option TcpPeer)
    (channelId : MediaChannelId) (rtpChannel rtcpChannel : UInt16) : Bool × RtpConnection :=
  match tcpConn with
  | none => (false, c)
  | some tcp =>
    let c := c.modifyInfo channelId fun info =>
      { info with rtpChannel := rtpChannel, rtcpChannel := rtcpChannel, isSetup := true }
    (true, { c with
      rtpfd := Function.update c.rtpfd channelId tcp.fd
      rtcpfd := Function.update c.rtcpfd channelId tcp.fd
      transportMode := .rtpOverTcp })

/-- The port search of `setupRtpOverUdp`: one round for each attempt left,
and failure when none is. A failed round closes what it opened and goes on;
the ports and descriptors stay in the fields. -/
def openPorts (c : RtpConnection) (channelId : MediaChannelId) :
    List UdpAttempt → Bool × RtpConnection × List SysCall
  | [] => (false, c, [])
  | a :: attempts =>
    let rtpPort : UInt16 := (a.draw &&& 0xfffe).toUInt16
    let rtcpPort : UInt16 := rtpPort + 1
    let c := { c with
      localRtpPort := Function.update c.localRtpPort channelId rtpPort
      localRtcpPort := Function.update c.localRtcpPort channelId rtcpPort
      rtpfd := Function.update c.rtpfd channelId a.rtpSocket }
    let calls : List SysCall := [.socket a.rtpSocket, .bind a.rtpSocket rtpPort a.rtpBound]
    if a.rtpBound then
      let c := { c with rtcpfd := Function.update c.rtcpfd channelId a.rtcpSocket }
      let calls := calls ++ [.socket a.rtcpSocket, .bind a.rtcpSocket rtcpPort a.rtcpBound]
      if a.rtcpBound then (true, c, calls)
      else
        let (ok, c, rest) := openPorts c channelId attempts
        (ok, c, calls ++ [.close a.rtcpSocket, .close a.rtpSocket] ++ rest)
    else
      let (ok, c, rest) := openPorts c channelId attempts
      (ok, c, calls ++ [.close a.rtpSocket] ++ rest)

/-- Both peer addresses are given the RTCP port, as in the source. -/
def setupRtpOverUdp (c : RtpConnection) (tcpConn : Option TcpPeer)
    (attempts : Fin 10 → UdpAttempt) (channelId : MediaChannelId)
    (rtpPort rtcpPort : UInt16) : Bool × RtpConnection × List SysCall :=
  match tcpConn with
  | none => (false, c, [])
  | some tcp =>
    let c := { c with peerAddr := tcp.peerName.getD c.peerAddr }
    let c := c.modifyInfo channelId fun info =>
      { info with rtpPort := rtpPort, rtcpPort := rtcpPort }
    match c.openPorts channelId (List.ofFn attempts) with
    | (false, c, calls) => (false, c, calls)
    | (true, c, calls) =>
      let peer : SockAddr :=
        { family := afInet
          addr := c.peerAddr.addr
          port := htons (c.mediaChannelInfo channelId).rtcpPort }
      let c := { c with
        peerRtpAddr := Function.update c.peerRtpAddr channelId peer
        peerRtcpAddr := Function.update c.peerRtcpAddr channelId peer
        transportMode := .rtpOverUdp }
      (true, c.modifyInfo channelId fun info => { info with isSetup := true }, calls)

/-! ## Starting and stopping -/

def play (c : RtpConnection) : RtpConnection :=
  c.mapInfo fun info => if info.isSetup then { info with isPlay := true } else info

def record (c : RtpConnection) : RtpConnection :=
  c.mapInfo fun info =>
    if info.isSetup then { info with isRecord := true, isPlay := true } else info

def teardown (c : RtpConnection) : RtpConnection :=
  if c.isClosed then c
  else { c with isClosed := true }.mapInfo fun info =>
    { info with isRecord := false, isPlay := false }

/-! ## Sending -/

def setFrameType (c : RtpConnection) (frameType : UInt8) : RtpConnection :=
  if !c.hasIDRFrame && (frameType == 0 || frameType == videoFrameI) then
    { c with frameType := frameType, hasIDRFrame := true }
  else { c with frameType := frameType }

/-- The gate of the send task and of `setRtpHeader`: the channel plays or
records, and a key frame went by. -/
def isSending (c : RtpConnection) (channelId : MediaChannelId) : Bool :=
  ((c.mediaChannelInfo channelId).isPlay || (c.mediaChannelInfo channelId).isRecord)
    && c.hasIDRFrame

/-- The header `setRtpHeader` stamps on a packet. -/
def nextHeader (info : MediaChannelInfo) (pkt : RtpPacket) : RtpHeader :=
  { info.rtpHeader with
    marker := .ofNat 1 pkt.last.toNat
    ts := htonl pkt.timestamp
    seq := htons info.packetSeq }

/-- The packet with the header copied to offset 4. -/
def stamp (pkt : RtpPacket) (header : RtpHeader) : RtpPacket :=
  { pkt with
    data := pkt.data.write rtpTcpHeadSize header.toBytes (show 4 + 12 ≤ 1600 by decide) }

/-- The buffer of the packet is shared with the caller, who sees the header
written. -/
def setRtpHeader (c : RtpConnection) (channelId : MediaChannelId) (pkt : RtpPacket) :
    RtpConnection × RtpPacket :=
  if c.isSending channelId then
    let header := nextHeader (c.mediaChannelInfo channelId) pkt
    (c.modifyInfo channelId fun info =>
        { info with rtpHeader := header, packetSeq := info.packetSeq + 1 },
      stamp pkt header)
  else (c, pkt)

/-- Bytes that leave the server. -/
inductive Transmission where
  /-- Bytes given to `TcpConnection::send`. -/
  | tcp (bytes : Bytes)
  /-- A datagram given to `sendto`. -/
  | udp (fd : ℤ) (dest : SockAddr) (bytes : Bytes)
deriving DecidableEq

/-- The first `size` bytes of the packet, failing where the packet says it is
longer than its buffer. -/
def readUsed (pkt : RtpPacket) : Except Fault Bytes :=
  if pkt.size ≤ 1600 then .ok pkt.used else .error .outOfBounds

/-- The four bytes in front of the header: `'$'`, the channel and the length,
each cut to a byte. -/
def interleavedHead (rtpChannel : UInt16) (size : UInt32) : Bytes :=
  [0x24, rtpChannel.toUInt8, (((size - 4) &&& 0xFF00) >>> 8).toUInt8,
    ((size - 4) &&& 0xFF).toUInt8]

def sendRtpOverTcp (c : RtpConnection) (tcpConn : Option TcpPeer)
    (channelId : MediaChannelId) (pkt : RtpPacket) : Except Fault (List Transmission) :=
  match tcpConn with
  | none => .ok []
  | some _ => do
    let head := interleavedHead (c.mediaChannelInfo channelId).rtpChannel pkt.size
    let bytes ← readUsed { pkt with
      data := pkt.data.write 0 head (show 0 + 4 ≤ 1600 by decide) }
    return [.tcp bytes]

/-- A `sendto` that fails tears the connection down. -/
def sendRtpOverUdp (c : RtpConnection) (sendtoFails : Bool)
    (channelId : MediaChannelId) (pkt : RtpPacket) :
    Except Fault (RtpConnection × List Transmission) := do
  let bytes ← readUsed pkt
  let datagram := .udp (c.rtpfd channelId) (c.peerRtpAddr channelId) (bytes.drop 4)
  return (if sendtoFails then c.teardown else c, [datagram])

/-- The queued task of `sendRtpPacket` up to the call that sends: the
connection, and the packet handed to `sendRtpOverTcp` or `sendRtpOverUdp` if
the gate is open. -/
def prepare (c : RtpConnection) (channelId : MediaChannelId) (pkt : RtpPacket) :
    RtpConnection × Option RtpPacket :=
  let (c, pkt) := (c.setFrameType pkt.type).setRtpHeader channelId pkt
  (c, if c.isSending channelId then some pkt else none)

/-- The queued task of `sendRtpPacket`. -/
def sendTask (c : RtpConnection) (tcpConn : Option TcpPeer) (sendtoFails : Bool)
    (channelId : MediaChannelId) (pkt : RtpPacket) :
    Except Fault (RtpConnection × List Transmission) :=
  match c.prepare channelId pkt with
  | (c, none) => .ok (c, [])
  | (c, some pkt) =>
    match c.transportMode with
    | .rtpOverTcp => do
      let out ← c.sendRtpOverTcp tcpConn channelId pkt
      return (c, out)
    | _ => c.sendRtpOverUdp sendtoFails channelId pkt

/-- `sendRtpPacket`: whether the task is queued. -/
def sendRtpPacket (c : RtpConnection) (tcpConn : Option TcpPeer) : Bool :=
  !c.isClosed && tcpConn.isSome

/-! ## What the operations do to a channel -/

/-- The frame type is noted, and perhaps that a key frame went by. -/
theorem setFrameType_eq (c : RtpConnection) (frameType : UInt8) : ∃ hasIDRFrame,
    c.setFrameType frameType = { c with frameType := frameType, hasIDRFrame := hasIDRFrame } := by
  unfold setFrameType
  split
  · exact ⟨_, rfl⟩
  · exact ⟨_, rfl⟩

@[simp] theorem setFrameType_mediaChannelInfo (c : RtpConnection) (frameType : UInt8) :
    (c.setFrameType frameType).mediaChannelInfo = c.mediaChannelInfo := by
  obtain ⟨hasIDRFrame, h⟩ := c.setFrameType_eq frameType
  rw [h]

/-- **The port search touches ports and descriptors only.** -/
theorem openPorts_mediaChannelInfo (channelId : MediaChannelId) (attempts : List UdpAttempt) :
    ∀ c : RtpConnection,
      (c.openPorts channelId attempts).2.1.mediaChannelInfo = c.mediaChannelInfo := by
  induction attempts with
  | nil => intro c; rfl
  | cons a attempts ih =>
    intro c
    by_cases hrtp : a.rtpBound
    · by_cases hrtcp : a.rtcpBound
      · simp only [openPorts, hrtp, hrtcp, if_true]
      · simp only [openPorts, hrtp, hrtcp, if_true]
        exact ih _
    · simp only [openPorts, hrtp]
      exact ih _

/-- Stamping the header does not change the gate: the call that sends sees
the condition under which the sequence number was taken. -/
theorem isSending_setRtpHeader (c : RtpConnection) (channelId : MediaChannelId)
    (pkt : RtpPacket) :
    (c.setRtpHeader channelId pkt).1.isSending channelId = c.isSending channelId := by
  unfold setRtpHeader
  by_cases h : c.isSending channelId
  · rw [if_pos h]
    simp only [isSending, modifyInfo_self]
    rfl
  · rw [if_neg h]

/-- **What a send task does before it sends.** With the gate open it stamps
the next header on the packet and advances the counter, and hands the packet
over; with the gate closed it does neither. -/
theorem prepare_cases (c : RtpConnection) (channelId : MediaChannelId) (pkt : RtpPacket) :
    let c' := c.setFrameType pkt.type
    let header := nextHeader (c.mediaChannelInfo channelId) pkt
    (c'.isSending channelId = true ∧
      c.prepare channelId pkt =
        (c'.modifyInfo channelId fun info =>
            { info with rtpHeader := header, packetSeq := info.packetSeq + 1 },
          some (stamp pkt header))) ∨
    (c'.isSending channelId = false ∧ c.prepare channelId pkt = (c', none)) := by
  intro c' header
  have hgate := isSending_setRtpHeader c' channelId pkt
  cases h : c'.isSending channelId with
  | true =>
    refine .inl ⟨rfl, ?_⟩
    have hset : c'.setRtpHeader channelId pkt = _ := if_pos h
    rw [hset] at hgate
    rw [h] at hgate
    show (let (c, pkt) := c'.setRtpHeader channelId pkt
      ((c, if c.isSending channelId then some pkt else none) : RtpConnection × _)) = _
    rw [hset]
    simp only [hgate, if_true]
    simp only [c', header, setFrameType_mediaChannelInfo]
  | false =>
    refine .inr ⟨rfl, ?_⟩
    have hset : c'.setRtpHeader channelId pkt = (c', pkt) := if_neg (by rw [h]; decide)
    show (let (c, pkt) := c'.setRtpHeader channelId pkt
      ((c, if c.isSending channelId then some pkt else none) : RtpConnection × _)) = _
    rw [hset]
    simp [h]

/-- Sending keeps the numbering: only a failed `sendto` changes the
connection, and then it is torn down. -/
theorem sendTask_conn {c c' : RtpConnection} {tcpConn : Option TcpPeer} {sendtoFails : Bool}
    {channelId : MediaChannelId} {pkt : RtpPacket} {out : List Transmission}
    (h : c.sendTask tcpConn sendtoFails channelId pkt = .ok (c', out)) :
    c' = (c.prepare channelId pkt).1 ∨ c' = (c.prepare channelId pkt).1.teardown := by
  unfold sendTask at h
  rcases hp : c.prepare channelId pkt with ⟨d, _ | p⟩
  · simp only [hp] at h
    cases h
    exact .inl rfl
  · simp only [hp] at h
    have hudp : d.sendRtpOverUdp sendtoFails channelId p = .ok (c', out)
        → c' = d ∨ c' = d.teardown := by
      intro h
      obtain ⟨bytes, -, h⟩ := Except.bind_eq_ok_iff.mp h
      cases sendtoFails
      · cases h; exact .inl rfl
      · cases h; exact .inr rfl
    cases hm : d.transportMode with
    | rtpOverTcp =>
      rw [hm] at h
      obtain ⟨out', -, h⟩ := Except.bind_eq_ok_iff.mp h
      cases h
      exact .inl rfl
    | rtpOverUdp => rw [hm] at h; exact hudp h
    | rtpOverMulticast => rw [hm] at h; exact hudp h

end RtpConnection
